/-
Options in JSON. Every field may be left out and then has its default, in an object as well as at
the end of a list, so the drafts are the options themselves with a note of what was given.
-/

import FilterGraph.Json.Choice
import FilterGraph.Json.Printer
import FilterGraph.Json.Record
import FilterGraph.Error
import FilterGraph.Options

namespace FilterGraph

open Json

/-! ### Words -/

/-- The word for a way of checking links. -/
def LinkCheck.word : LinkCheck → String
  | lenient => "lenient"
  | strict => "strict"

/-- The words that link checks are read from. -/
def LinkCheck.choice : Choice LinkCheck where
  first := (lenient.word, lenient)
  second := (strict.word, strict)

/-- The word for a layout. -/
def Layout.word : Layout → String
  | compact => "compact"
  | pretty => "pretty"

/-- The words that layouts are read from. -/
def Layout.choice : Choice Layout where
  first := (compact.word, compact)
  second := (pretty.word, pretty)

/-! ### Options of a graph -/

namespace GraphOptions

/-- All options, also those that have their defaults. -/
def toValue (options : GraphOptions) : Value :=
  .object [("link_check", .text options.linkCheck.word), ("layout", .text options.layout.word)]

/-- The fields that were read. -/
structure Draft where
  linkCheck : Option LinkCheck := none
  layout : Option Layout := none

/-- Fields that were not given have their defaults. -/
def Draft.options (draft : Draft) : GraphOptions where
  linkCheck := draft.linkCheck.getD ({} : GraphOptions).linkCheck
  layout := draft.layout.getD ({} : GraphOptions).layout

/-- Nothing needs to be given. -/
def shape : Shape Draft GraphOptions where
  name := "CompileOptions"
  start := {}
  fields := [
    { name := "link_check"
      isGiven := fun draft => draft.linkCheck.isSome
      value := LinkCheck.choice.reader.map fun linkCheck =>
        .ok fun draft => { draft with linkCheck := some linkCheck } },
    { name := "layout"
      isGiven := fun draft => draft.layout.isSome
      value := Layout.choice.reader.map fun layout =>
        .ok fun draft => { draft with layout := some layout } }]
  finish := fun draft => .ok draft.options

/-- Reads the options of a graph. -/
def parse (text : String) : Except Problem GraphOptions :=
  shape.reader.readAll text

end GraphOptions

/-! ### Options of a command -/

namespace CommandOptions

/-- All options, also those that have their defaults. -/
def toValue (options : CommandOptions) : Value :=
  .object [("program", .text options.program), ("codec", .text options.codec),
    ("no_codec_extension", .text options.bareExtension), ("compile", options.graph.toValue)]

/-- The fields that were read. -/
structure Draft where
  program : Option String := none
  codec : Option String := none
  bareExtension : Option String := none
  graph : Option GraphOptions := none

/-- Fields that were not given have their defaults. -/
def Draft.options (draft : Draft) : CommandOptions where
  program := draft.program.getD ({} : CommandOptions).program
  codec := draft.codec.getD ({} : CommandOptions).codec
  bareExtension := draft.bareExtension.getD ({} : CommandOptions).bareExtension
  graph := draft.graph.getD ({} : CommandOptions).graph

/-- Nothing needs to be given; the options of the graph are a record of their own. -/
def shape : Shape Draft CommandOptions where
  name := "AssembleOptions"
  start := {}
  fields := [
    { name := "program"
      isGiven := fun draft => draft.program.isSome
      value := readText.map fun program =>
        .ok fun draft => { draft with program := some program } },
    { name := "codec"
      isGiven := fun draft => draft.codec.isSome
      value := readText.map fun codec => .ok fun draft => { draft with codec := some codec } },
    { name := "no_codec_extension"
      isGiven := fun draft => draft.bareExtension.isSome
      value := readText.map fun extension =>
        .ok fun draft => { draft with bareExtension := some extension } },
    { name := "compile"
      isGiven := fun draft => draft.graph.isSome
      value := GraphOptions.shape.reader.map fun graph =>
        .ok fun draft => { draft with graph := some graph } }]
  finish := fun draft => .ok draft.options

/-- Reads options. -/
def parse (text : String) : Except Error CommandOptions :=
  (shape.reader.readAll text).mapError Error.malformed

end CommandOptions

end FilterGraph
