/-
This file writes an expression as a sequence of lexemes, which are links between brackets and
characters that stand for themselves. The text of the lexemes is the expression, so whatever is
said of the tokens between brackets is said of the lexemes.
-/

import FilterGraph.Expression

namespace FilterGraph

/-! ### Lexemes and their text -/

/-- A piece of an expression: a link between brackets, or a character that stands for itself. -/
inductive Lexeme where
  | link (token : String)
  | mark (character : Char)
  deriving DecidableEq, Repr

namespace Lexeme

/-- The piece as it is written. -/
def text : Lexeme → String
  | link token => bracketed token
  | mark character => String.singleton character

/-- The text of a sequence of lexemes. -/
def spell (lexemes : List Lexeme) : String :=
  String.join (lexemes.map text)

/-- The lexemes of a text without links. -/
def ofText (text : String) : List Lexeme :=
  text.toList.map mark

/-- The token between the brackets of a link. -/
def token? : Lexeme → Option String
  | link token => some token
  | mark _ => none

/-- A character outside of links. -/
def character? : Lexeme → Option Char
  | link _ => none
  | mark character => some character

/-- The tokens between brackets, in their order. -/
def tokens (lexemes : List Lexeme) : List String :=
  lexemes.filterMap token?

/-- The characters outside of links, in their order. -/
def characters (lexemes : List Lexeme) : List Char :=
  lexemes.filterMap character?

@[simp] theorem spell_nil : spell [] = "" :=
  String.join_nil

@[simp] theorem toList_spell_link (token : String) (others : List Lexeme) :
    (spell (link token :: others)).toList =
      '[' :: (token.toList ++ ']' :: (spell others).toList) := by
  simp [spell, text, bracketed]

@[simp] theorem toList_spell_mark (character : Char) (others : List Lexeme) :
    (spell (mark character :: others)).toList = character :: (spell others).toList := by
  simp [spell, text]

@[simp] theorem spell_append (first second : List Lexeme) :
    spell (first ++ second) = spell first ++ spell second := by
  simp [spell]

@[simp] theorem spell_ofText (text : String) : spell (ofText text) = text := by
  rw [← String.toList_inj, spell, String.toList_join, ofText, List.map_map, List.flatMap_map]
  simp [Lexeme.text]

@[simp] theorem tokens_append (first second : List Lexeme) :
    tokens (first ++ second) = tokens first ++ tokens second :=
  List.filterMap_append

@[simp] theorem tokens_ofText (text : String) : tokens (ofText text) = [] := by
  simp [tokens, ofText, Function.comp_def, token?]

@[simp] theorem tokens_links (names : List String) : tokens (names.map link) = names := by
  simp [tokens, Function.comp_def, token?]

@[simp] theorem characters_append (first second : List Lexeme) :
    characters (first ++ second) = characters first ++ characters second :=
  List.filterMap_append

@[simp] theorem characters_ofText (text : String) : characters (ofText text) = text.toList := by
  simp [characters, ofText, Function.comp_def, character?]

@[simp] theorem characters_links (names : List String) : characters (names.map link) = [] := by
  simp [characters, Function.comp_def, character?]

theorem mem_tokens_iff (lexemes : List Lexeme) (token : String) :
    token ∈ tokens lexemes ↔ .link token ∈ lexemes := by
  rw [tokens, List.mem_filterMap]
  constructor
  · rintro ⟨lexeme, member, same⟩
    cases lexeme with
    | link written => exact Option.some.inj same ▸ member
    | mark character => cases same
  · intro member
    exact ⟨.link token, member, rfl⟩

/-- A separator without links adds none. -/
theorem tokens_intercalate {separator : List Lexeme} (bare : tokens separator = [])
    (parts : List (List Lexeme)) :
    tokens (separator.intercalate parts) = parts.flatMap tokens := by
  induction parts with
  | nil => rfl
  | cons part others inductionHypothesis =>
    cases others with
    | nil => simp
    | cons next rest =>
      rw [List.intercalate_cons_cons, tokens_append, tokens_append, bare, List.append_nil,
        inductionHypothesis]
      rfl

/-- Joined lexemes are written as the joined texts. -/
theorem spell_intercalate (separator : List Lexeme) (parts : List (List Lexeme)) :
    spell (separator.intercalate parts) = (spell separator).intercalate (parts.map spell) := by
  induction parts with
  | nil => simp
  | cons part others inductionHypothesis =>
    cases others with
    | nil => simp
    | cons next rest =>
      rw [List.intercalate_cons_cons, spell_append, spell_append, inductionHypothesis]
      simp only [List.map_cons, String.intercalate_cons_cons]

end Lexeme

/-! ### The lexemes of stages -/

/-- The links of a list of identifiers. -/
def StreamTable.lexemes (table : StreamTable) (ids : List String) : List Lexeme :=
  (ids.map table.token).map .link

namespace StreamTable

theorem spell_lexemes (table : StreamTable) (ids : List String) :
    Lexeme.spell (table.lexemes ids) = table.links ids := by
  rw [Lexeme.spell, lexemes, List.map_map, List.map_map]
  rfl

@[simp] theorem tokens_lexemes (table : StreamTable) (ids : List String) :
    Lexeme.tokens (table.lexemes ids) = ids.map table.token :=
  Lexeme.tokens_links _

@[simp] theorem characters_lexemes (table : StreamTable) (ids : List String) :
    Lexeme.characters (table.lexemes ids) = [] :=
  Lexeme.characters_links _

@[simp] theorem mark_notMem_lexemes (table : StreamTable) (ids : List String)
    (character : Char) : .mark character ∉ table.lexemes ids := by
  simp [lexemes]

end StreamTable

namespace Stage

/-- The output with the labels as they are written: a single label as it is, the labels of a
split looked up. -/
def writtenOutput (stage : Stage) (table : StreamTable) : Labels :=
  match stage.output with
  | .one label => .one label
  | .many labels => .many (labels.map table.token)

/-- The lexemes of where the output goes. -/
def outputLexemes (stage : Stage) (table : StreamTable) : List Lexeme :=
  match stage.output with
  | .one label => [.link label]
  | .many labels => Lexeme.ofText ",split" ++ table.lexemes labels

/-- The lexemes of what stands before that: the input links and the filter. -/
def headLexemes (stage : Stage) (table : StreamTable) : List Lexeme :=
  table.lexemes stage.inputs.toList ++ Lexeme.ofText stage.filterSegment

/-- The lexemes of a stage. -/
def lexemes (stage : Stage) (table : StreamTable) : List Lexeme :=
  stage.headLexemes table ++ stage.outputLexemes table

theorem spell_outputLexemes (stage : Stage) (table : StreamTable) :
    Lexeme.spell (stage.outputLexemes table) = stage.outputSegment table := by
  unfold outputLexemes outputSegment
  cases stage.output with
  | one label => rfl
  | many labels =>
    rw [Lexeme.spell_append, Lexeme.spell_ofText, StreamTable.spell_lexemes]

theorem spell_lexemes (stage : Stage) (table : StreamTable) :
    Lexeme.spell (stage.lexemes table) = stage.fragment table := by
  rw [lexemes, headLexemes, Lexeme.spell_append, Lexeme.spell_append, Lexeme.spell_ofText,
    StreamTable.spell_lexemes, spell_outputLexemes, fragment]

@[simp] theorem tokens_headLexemes (stage : Stage) (table : StreamTable) :
    Lexeme.tokens (stage.headLexemes table) = stage.inputs.toList.map table.token := by
  simp [headLexemes]

@[simp] theorem characters_headLexemes (stage : Stage) (table : StreamTable) :
    Lexeme.characters (stage.headLexemes table) = stage.filterSegment.toList := by
  simp [headLexemes]

@[simp] theorem tokens_outputLexemes (stage : Stage) (table : StreamTable) :
    Lexeme.tokens (stage.outputLexemes table) = (stage.writtenOutput table).toList := by
  rw [outputLexemes, writtenOutput]
  cases stage.output with
  | one label => rfl
  | many labels => simp

/-- The links between brackets are those of the inputs, then those of the output. -/
theorem tokens_lexemes (stage : Stage) (table : StreamTable) :
    Lexeme.tokens (stage.lexemes table) =
      stage.inputs.toList.map table.token ++ (stage.writtenOutput table).toList := by
  rw [lexemes, Lexeme.tokens_append, tokens_headLexemes, tokens_outputLexemes]

/-- What stands before the output has no characters but those of the filter. -/
theorem mark_mem_headLexemes_iff (stage : Stage) (table : StreamTable) (character : Char) :
    .mark character ∈ stage.headLexemes table ↔ character ∈ stage.filterSegment.toList := by
  simp [headLexemes, Lexeme.ofText]

end Stage

/-! ### The lexemes of pipelines -/

namespace Pipeline

/-- The lexemes of the expression in the given layout. -/
def lexemes (pipeline : Pipeline) (layout : Layout) : List Lexeme :=
  (Lexeme.ofText layout.separator).intercalate
    (pipeline.stages.map fun stage => stage.lexemes pipeline.table)

theorem spell_lexemes (pipeline : Pipeline) (layout : Layout) :
    Lexeme.spell (pipeline.lexemes layout) = pipeline.graph layout := by
  have fragments : (pipeline.stages.map fun stage => stage.lexemes pipeline.table).map
      Lexeme.spell = pipeline.fragments := by
    rw [List.map_map]
    exact List.map_congr_left fun stage _ => stage.spell_lexemes pipeline.table
  rw [lexemes, Lexeme.spell_intercalate, Lexeme.spell_ofText, fragments, graph]

theorem tokens_lexemes (pipeline : Pipeline) (layout : Layout) :
    Lexeme.tokens (pipeline.lexemes layout) =
      pipeline.stages.flatMap fun stage => Lexeme.tokens (stage.lexemes pipeline.table) := by
  rw [lexemes, Lexeme.tokens_intercalate (Lexeme.tokens_ofText _), List.flatMap_map]

end Pipeline

end FilterGraph
