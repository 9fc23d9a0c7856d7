/-
This file proves what can be read back from an expression.

The text has no escapes, so two things have to be clear for it to be read back. Where a link
ends: its token must have no closing bracket. And where a filter ends: its text must have no
character that begins what may follow it, which is an opening bracket, the comma of a split or
the semicolon behind a stage. With both, the text gives the lexemes, the semicolons among them
give the stages, and the comma tells a split from a single label. Everything else is allowed:
tokens may hold semicolons and opening brackets, and inputs, names, labels and whole splits may
be empty.
-/

import FilterGraph.Proofs.Lexemes
import FilterGraph.Proofs.Separators
import Std.Data.String.ToNat

namespace FilterGraph

/-! ### Text that can be cut into lexemes -/

namespace Lexeme

/-- A lexeme whose end can be seen: a token does not close its own bracket, and a character does
not open one. -/
def Clear : Lexeme → Prop
  | link token => ']' ∉ token.toList
  | mark character => character ≠ '['

theorem clear_of_mem_ofText {text : String} (free : '[' ∉ text.toList) {lexeme : Lexeme}
    (member : lexeme ∈ ofText text) : lexeme.Clear := by
  obtain ⟨character, inText, rfl⟩ := List.mem_map.mp member
  rintro rfl
  exact free inText

/-- A text is that of one sequence of clear lexemes only. -/
theorem spell_inj {first second : List Lexeme} (firstClear : ∀ lexeme ∈ first, lexeme.Clear)
    (secondClear : ∀ lexeme ∈ second, lexeme.Clear) (same : spell first = spell second) :
    first = second := by
  replace same : (spell first).toList = (spell second).toList := congrArg String.toList same
  induction first generalizing second with
  | nil =>
    cases second with
    | nil => rfl
    | cons lexeme others => cases lexeme <;> simp at same
  | cons lexeme others inductionHypothesis =>
    cases second with
    | nil => cases lexeme <;> simp at same
    | cons lexeme' others' =>
      have clear := firstClear lexeme List.mem_cons_self
      have clear' := secondClear lexeme' List.mem_cons_self
      have continued : (spell others).toList = (spell others').toList → others = others' :=
        inductionHypothesis (fun other member => firstClear other (.tail _ member))
          fun other member => secondClear other (.tail _ member)
      cases lexeme with
      | link token =>
        cases lexeme' with
        | link token' =>
          rw [toList_spell_link, toList_spell_link] at same
          -- Both tokens go up to the first closing bracket.
          obtain ⟨tokens, behind⟩ :=
            append_mark_inj clear clear' (List.cons.inj same).2
          rw [String.toList_inj.mp tokens, continued behind]
        | mark character =>
          rw [toList_spell_link, toList_spell_mark] at same
          exact absurd (List.cons.inj same).1.symm clear'
      | mark character =>
        cases lexeme' with
        | link token =>
          rw [toList_spell_link, toList_spell_mark] at same
          exact absurd (List.cons.inj same).1 clear
        | mark character' =>
          rw [toList_spell_mark, toList_spell_mark] at same
          obtain ⟨characters, behind⟩ := List.cons.inj same
          rw [characters, continued behind]

end Lexeme

namespace StreamTable

/-- A token closes its bracket only if the identifier does: the name of a stream has no closing
bracket. -/
theorem closing_notMem_token (table : StreamTable) {id : String} (free : ']' ∉ id.toList) :
    ']' ∉ (table.token id).toList := by
  rw [token]
  cases table.position? id with
  | none => exact free
  | some position =>
    have digits : ']' ∉ Nat.toDigits 10 position := fun member =>
      absurd (Nat.isDigit_of_mem_toDigits (by decide) (by decide) member) (by decide)
    simpa [videoStream] using digits

theorem clear_of_mem_lexemes (table : StreamTable) {ids : List String}
    (free : ∀ id ∈ ids, ']' ∉ id.toList) {lexeme : Lexeme} (member : lexeme ∈ table.lexemes ids) :
    lexeme.Clear := by
  obtain ⟨_, inTokens, rfl⟩ := List.mem_map.mp member
  obtain ⟨id, inIds, rfl⟩ := List.mem_map.mp inTokens
  exact table.closing_notMem_token (free id inIds)

end StreamTable

/-! ### Stages that can be read back -/

namespace Stage

/-- A stage whose text can be cut into its parts. No link or label closes its own bracket, and no
character of the filter opens a link, begins a split or ends the stage. -/
structure Readable (stage : Stage) : Prop where
  links : ∀ link ∈ stage.inputs.toList, ']' ∉ link.toList
  labels : ∀ label ∈ stage.output.toList, ']' ∉ label.toList
  filter : ∀ character ∈ stage.filterSegment.toList, character ∉ ['[', ',', ';']

/-- What the text of a stage tells: the tokens it takes, its filter, and its written output. -/
structure Reading where
  inputs : List String
  filter : String
  output : Labels
  deriving DecidableEq, Repr

/-- The reading of a stage. -/
def reading (stage : Stage) (table : StreamTable) : Reading where
  inputs := stage.inputs.toList.map table.token
  filter := stage.filterSegment
  output := stage.writtenOutput table

theorem lexemes_ne_nil (stage : Stage) (table : StreamTable) : stage.lexemes table ≠ [] := by
  rw [lexemes, outputLexemes]
  cases stage.output <;> simp [Lexeme.ofText]

namespace Readable

variable {stage : Stage} (readable : stage.Readable)

include readable

theorem comma_notMem_headLexemes (table : StreamTable) : .mark ',' ∉ stage.headLexemes table := by
  rw [mark_mem_headLexemes_iff]
  exact fun member => readable.filter ',' member (by decide)

/-- The comma of a split is the only one among the lexemes. -/
theorem comma_mem_lexemes_iff (table : StreamTable) :
    .mark ',' ∈ stage.lexemes table ↔ stage.output.single? = none := by
  rw [lexemes, List.mem_append, or_iff_right (readable.comma_notMem_headLexemes table),
    outputLexemes]
  cases stage.output <;> simp [Labels.single?, Lexeme.ofText]

theorem semicolon_notMem_lexemes (table : StreamTable) : .mark ';' ∉ stage.lexemes table := by
  rw [lexemes, List.mem_append, mark_mem_headLexemes_iff, outputLexemes]
  rintro (inFilter | inOutput)
  · exact readable.filter ';' inFilter (by decide)
  · cases output : stage.output with
    | one label => simp [output] at inOutput
    | many labels => simp [output, Lexeme.ofText] at inOutput

/-- Every token of the stage ends at its bracket, and its filter opens none. -/
theorem clear_of_mem_lexemes (table : StreamTable) {lexeme : Lexeme}
    (member : lexeme ∈ stage.lexemes table) : lexeme.Clear := by
  rcases List.mem_append.mp member with inHead | inOutput
  · rcases List.mem_append.mp inHead with inLinks | inFilter
    · exact table.clear_of_mem_lexemes readable.links inLinks
    · exact Lexeme.clear_of_mem_ofText
        (fun opening => readable.filter '[' opening (by decide)) inFilter
  · have labels := readable.labels
    rw [outputLexemes] at inOutput
    cases output : stage.output with
    | one label =>
      rw [output] at inOutput labels
      rw [List.mem_singleton.mp inOutput]
      exact labels label List.mem_cons_self
    | many ids =>
      rw [output] at inOutput labels
      rcases List.mem_append.mp inOutput with inText | inLinks
      · exact Lexeme.clear_of_mem_ofText (by decide) inText
      · exact table.clear_of_mem_lexemes labels inLinks

end Readable

/-- The output begins at the comma if there is one, and otherwise it is the last lexeme. -/
theorem headLexemes_eq_and_writtenOutput_eq {first second : Stage}
    {firstTable secondTable : StreamTable} (firstReadable : first.Readable)
    (secondReadable : second.Readable)
    (same : first.lexemes firstTable = second.lexemes secondTable) :
    first.headLexemes firstTable = second.headLexemes secondTable ∧
      first.writtenOutput firstTable = second.writtenOutput secondTable := by
  have split := firstReadable.comma_mem_lexemes_iff firstTable
  rw [same, secondReadable.comma_mem_lexemes_iff secondTable] at split
  rw [lexemes, lexemes, outputLexemes, outputLexemes] at same
  rw [writtenOutput, writtenOutput]
  cases firstOutput : first.output with
  | one label =>
    cases secondOutput : second.output with
    | one label' =>
      rw [firstOutput, secondOutput] at same
      obtain ⟨heads, last⟩ := List.append_singleton_inj.mp same
      exact ⟨heads, congrArg Labels.one (Lexeme.link.inj last)⟩
    | many labels' => simp [firstOutput, secondOutput, Labels.single?] at split
  | many labels =>
    cases secondOutput : second.output with
    | one label' => simp [firstOutput, secondOutput, Labels.single?] at split
    | many labels' =>
      rw [firstOutput, secondOutput] at same
      obtain ⟨heads, behind⟩ := append_mark_inj
        (firstReadable.comma_notMem_headLexemes firstTable)
        (secondReadable.comma_notMem_headLexemes secondTable) same
      have labels := congrArg Lexeme.tokens (List.append_cancel_left behind)
      rw [StreamTable.tokens_lexemes, StreamTable.tokens_lexemes] at labels
      exact ⟨heads, congrArg Labels.many labels⟩

/-- The lexemes of a stage tell its inputs and its filter, and how its output is written. -/
theorem reading_eq_of_lexemes_eq {first second : Stage} {firstTable secondTable : StreamTable}
    (firstReadable : first.Readable) (secondReadable : second.Readable)
    (same : first.lexemes firstTable = second.lexemes secondTable) :
    first.reading firstTable = second.reading secondTable := by
  obtain ⟨heads, outputs⟩ :=
    headLexemes_eq_and_writtenOutput_eq firstReadable secondReadable same
  have inputs := congrArg Lexeme.tokens heads
  have filter := congrArg Lexeme.characters heads
  rw [tokens_headLexemes, tokens_headLexemes] at inputs
  rw [characters_headLexemes, characters_headLexemes, String.toList_inj] at filter
  rw [reading, reading, inputs, filter, outputs]

end Stage

/-! ### Pipelines that can be read back -/

/-- Stages with the same lexemes have the same readings, one by one. -/
theorem map_reading_eq_of_map_lexemes_eq {first second : List Stage}
    {firstTable secondTable : StreamTable} (firstReadable : ∀ stage ∈ first, stage.Readable)
    (secondReadable : ∀ stage ∈ second, stage.Readable)
    (same : (first.map fun stage => stage.lexemes firstTable) =
      second.map fun stage => stage.lexemes secondTable) :
    (first.map fun stage => stage.reading firstTable) =
      second.map fun stage => stage.reading secondTable := by
  induction first generalizing second with
  | nil =>
    cases second with
    | nil => rfl
    | cons stage others => cases same
  | cons stage others inductionHypothesis =>
    cases second with
    | nil => cases same
    | cons stage' others' =>
      obtain ⟨head, tail⟩ := List.cons.inj same
      rw [List.map_cons, List.map_cons,
        Stage.reading_eq_of_lexemes_eq (firstReadable stage List.mem_cons_self)
          (secondReadable stage' List.mem_cons_self) head,
        inductionHypothesis (fun other member => firstReadable other (.tail _ member))
          (fun other member => secondReadable other (.tail _ member)) tail]

namespace Pipeline

/-- What the expression tells of each stage. -/
def readings (pipeline : Pipeline) : List Stage.Reading :=
  pipeline.stages.map fun stage => stage.reading pipeline.table

theorem clear_of_mem_lexemes {pipeline : Pipeline}
    (readable : ∀ stage ∈ pipeline.stages, stage.Readable) (layout : Layout) {lexeme : Lexeme}
    (member : lexeme ∈ pipeline.lexemes layout) : lexeme.Clear := by
  rcases mem_of_mem_intercalate member with inSeparator | ⟨_, inParts, inPart⟩
  · refine Lexeme.clear_of_mem_ofText ?_ inSeparator
    cases layout <;> decide
  · obtain ⟨stage, inStages, rfl⟩ := List.mem_map.mp inParts
    exact (readable stage inStages).clear_of_mem_lexemes pipeline.table inPart

/-- The semicolon begins the separator of both layouts. -/
theorem exists_separator_eq (layout : Layout) :
    ∃ rest, Lexeme.ofText layout.separator = .mark ';' :: rest := by
  cases layout
  · exact ⟨[], rfl⟩
  · exact ⟨[.mark '\n'], rfl⟩

/-- The lexemes of an expression tell those of each stage: a stage has some, and a semicolon is
not among them. -/
theorem map_lexemes_eq_of_lexemes_eq {first second : Pipeline} {layout : Layout}
    (firstReadable : ∀ stage ∈ first.stages, stage.Readable)
    (secondReadable : ∀ stage ∈ second.stages, stage.Readable)
    (same : first.lexemes layout = second.lexemes layout) :
    (first.stages.map fun stage => stage.lexemes first.table) =
      second.stages.map fun stage => stage.lexemes second.table := by
  have separate : ∀ pipeline : Pipeline, (∀ stage ∈ pipeline.stages, stage.Readable) →
      ∀ part ∈ pipeline.stages.map fun stage => stage.lexemes pipeline.table,
        part ≠ [] ∧ .mark ';' ∉ part := by
    intro pipeline readable part member
    obtain ⟨stage, inStages, rfl⟩ := List.mem_map.mp member
    exact ⟨stage.lexemes_ne_nil pipeline.table,
      (readable stage inStages).semicolon_notMem_lexemes pipeline.table⟩
  obtain ⟨rest, separator⟩ := exists_separator_eq layout
  rw [lexemes, lexemes, separator] at same
  exact intercalate_inj (separate first firstReadable) (separate second secondReadable) same

/-- The expression of a pipeline tells the stages it is made from. Whatever two pipelines declare,
if their expressions in one layout are the same text, they have equally many stages, and each
takes the same tokens, has the same filter text and writes its output in the same way.

A single label and a split into one are told apart by the comma. Declared identifiers are free
to hold anything, since they are never written, and so are closing brackets in a filter. -/
theorem readings_eq_of_expression_eq {first second : Pipeline} {layout : Layout}
    (firstReadable : ∀ stage ∈ first.stages, stage.Readable)
    (secondReadable : ∀ stage ∈ second.stages, stage.Readable)
    (same : first.expression { linkCheck := .lenient, layout } =
      second.expression { linkCheck := .lenient, layout }) :
    first.readings = second.readings := by
  have texts : first.graph layout = second.graph layout := Except.ok.inj same
  rw [← spell_lexemes, ← spell_lexemes] at texts
  have lexemes := Lexeme.spell_inj (fun _ => clear_of_mem_lexemes firstReadable layout)
    (fun _ => clear_of_mem_lexemes secondReadable layout) texts
  exact map_reading_eq_of_map_lexemes_eq firstReadable secondReadable
    (map_lexemes_eq_of_lexemes_eq firstReadable secondReadable lexemes)

/-- A stage without inputs or a name that is split into nothing, then one whose label looks like
the end of a stage. -/
def emptySplit : Pipeline where
  sources := [⟨"left", "l.mov"⟩]
  stages := [
    ⟨.many [], .bare "", .many []⟩,
    ⟨.one "left", .bare "negate", .one "p;[q"⟩]
  output := "out.avi"

/-- The same text from another description, in which two inputs share an identifier. -/
def configuredEmptySplit : Pipeline where
  sources := [⟨"right", "r.mov"⟩, ⟨"right", "s.mov"⟩]
  stages := [
    ⟨.many [], .configured "" .empty, .many []⟩,
    ⟨.many ["right"], .configured "negate" .empty, .one "p;[q"⟩]
  output := "out.avi"

theorem emptySplit_readable : ∀ stage ∈ emptySplit.stages, stage.Readable := by
  simp only [emptySplit, List.forall_mem_cons]
  refine ⟨⟨by decide, by decide, ?_⟩, ⟨by decide, by decide, ?_⟩, nofun⟩
  · show ∀ character ∈ "".toList, _
    simp
  · show ∀ character ∈ "negate".toList, _
    simp

theorem configuredEmptySplit_readable :
    ∀ stage ∈ configuredEmptySplit.stages, stage.Readable := by
  simp only [configuredEmptySplit, List.forall_mem_cons]
  refine ⟨⟨by decide, by decide, ?_⟩, ⟨by decide, by decide, ?_⟩, nofun⟩
  · show ∀ character ∈ "".toList, _
    simp
  · show ∀ character ∈ "negate".toList, _
    simp

theorem emptySplit_fragments_eq : emptySplit.fragments = configuredEmptySplit.fragments := by
  have left : emptySplit.table.token "left" = videoStream 0 := by
    rw [StreamTable.token, table, StreamTable.position?_ofSources]
    rfl
  have right : configuredEmptySplit.table.token "right" = videoStream 0 := by
    rw [StreamTable.token, table, StreamTable.position?_ofSources]
    rfl
  show [_, _] = [_, _]
  simp only [Stage.fragment, StreamTable.links, left, right, Labels.toList_one,
    Labels.toList_many, List.map_cons, List.map_nil, Stage.filterSegment, Stage.outputSegment]
  rfl

theorem emptySplit_expression_eq :
    emptySplit.expression { linkCheck := .lenient, layout := .pretty } =
      configuredEmptySplit.expression { linkCheck := .lenient, layout := .pretty } := by
  simp only [expression, graph, emptySplit_fragments_eq]

theorem emptySplit_readings_eq :
    (∀ stage ∈ emptySplit.stages, stage.Readable) ∧
      (∀ stage ∈ configuredEmptySplit.stages, stage.Readable) ∧
      emptySplit.expression { linkCheck := .lenient, layout := .pretty } =
        configuredEmptySplit.expression { linkCheck := .lenient, layout := .pretty } ∧
      emptySplit.readings = configuredEmptySplit.readings :=
  ⟨emptySplit_readable, configuredEmptySplit_readable, emptySplit_expression_eq,
    readings_eq_of_expression_eq emptySplit_readable configuredEmptySplit_readable
      emptySplit_expression_eq⟩

end Pipeline

end FilterGraph
