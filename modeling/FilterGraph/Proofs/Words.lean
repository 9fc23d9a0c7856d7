/-
This file proves that a shown line, split into words, gives the arguments back.

A line is split as a shell does it, one character at a time. What carries the proof is the state
between two arguments: no quote mark is open and no word has begun. From there an argument leads to
the state in which it is the word that was read and no quote mark is open, whether it stood between
quote marks or by itself, and the blank behind it leads back to where it began.
-/

import FilterGraph.Proofs.Commands
import FilterGraph.Proofs.Tokens

namespace FilterGraph

/-! ### Splitting a line -/

/-- How far a line is split: the words that ended, what was read of the word that has begun, if one
has, and whether a quote mark is open. -/
structure Splitting where
  words : List String := []
  word : Option (List Char) := none
  quoted : Bool := false
  deriving DecidableEq, Repr

namespace Splitting

/-- The words so far, with the one that has begun. -/
def finish (state : Splitting) : List String :=
  state.words ++ (state.word.map String.ofList).toList

/-- One character more. A quote mark opens or closes quoting and is dropped, but there is a word
from then on, even if nothing else is read of it. A blank outside of quote marks ends a word. -/
def step (state : Splitting) (char : Char) : Splitting :=
  if char = '"' then
    { state with word := some (state.word.getD []), quoted := !state.quoted }
  else if char = ' ' ∧ state.quoted = false then { words := state.finish }
  else { state with word := some (state.word.getD [] ++ [char]) }

/-- All characters, one after the other. -/
def run (state : Splitting) (text : List Char) : Splitting :=
  text.foldl step state

theorem run_cons (state : Splitting) (char : Char) (text : List Char) :
    state.run (char :: text) = (state.step char).run text :=
  rfl

theorem run_append (state : Splitting) (first second : List Char) :
    state.run (first ++ second) = (state.run first).run second :=
  List.foldl_append

theorem step_blank (words : List String) (word : Option (List Char)) :
    step ⟨words, word, false⟩ ' ' = { words := words ++ (word.map String.ofList).toList } :=
  rfl

/-- Characters that mean nothing to the splitting are read into the word. -/
theorem run_literal {words : List String} {word text : List Char} {quoted : Bool}
    (literal : ∀ char ∈ text, char ≠ '"' ∧ (char = ' ' → quoted = true)) :
    run ⟨words, some word, quoted⟩ text = ⟨words, some (word ++ text), quoted⟩ := by
  induction text generalizing word with
  | nil => rw [List.append_nil]; rfl
  | cons char others inductionHypothesis =>
    obtain ⟨⟨notQuote, inside⟩, literals⟩ := List.forall_mem_cons.mp literal
    have notEnd : ¬(char = ' ' ∧ quoted = false) := by
      rintro ⟨blank, open_⟩
      rw [inside blank] at open_
      cases open_
    rw [run_cons, step, if_neg notQuote, if_neg notEnd]
    exact (inductionHypothesis literals).trans (by simp)

end Splitting

/-- The words of a line. -/
def wordsOf (line : String) : List String :=
  (Splitting.run {} line.toList).finish

/-! ### Arguments that are read as one word -/

/-- Reading the text from where no word has begun, with no quote mark open, leads to where that
word has begun, with none open. -/
def ReadsAs (shown word : String) : Prop :=
  ∀ words, Splitting.run ⟨words, none, false⟩ shown.toList = ⟨words, some word.toList, false⟩

/-- The text stands for itself without quote marks: it is not empty and holds neither a blank nor
a quote mark. -/
structure Bare (text : String) : Prop where
  nonempty : text ≠ ""
  blankFree : ' ' ∉ text.toList
  quoteFree : '"' ∉ text.toList

theorem Bare.readsAs {text : String} (bare : Bare text) : ReadsAs text text := by
  intro words
  have nonempty : text.toList ≠ [] := fun empty => bare.nonempty (String.toList_eq_nil_iff.mp empty)
  have literal : ∀ char ∈ text.toList, char ≠ '"' ∧ (char = ' ' → false = true) := by
    intro char member
    refine ⟨fun quote => bare.quoteFree (quote ▸ member), fun blank => ?_⟩
    exact absurd (blank ▸ member) bare.blankFree
  -- The first character begins the word, as an empty one with nothing read would go on with it.
  have begun : Splitting.run ⟨words, none, false⟩ text.toList =
      Splitting.run ⟨words, some [], false⟩ text.toList := by
    cases characters : text.toList with
    | nil => exact absurd characters nonempty
    | cons char others =>
      rw [characters] at literal
      obtain ⟨notQuote, notBlank⟩ := literal char List.mem_cons_self
      rw [Splitting.run_cons, Splitting.run_cons, Splitting.step, Splitting.step]
      simp [notQuote, show char ≠ ' ' from fun blank => Bool.noConfusion (notBlank blank)]
  rw [begun, Splitting.run_literal literal, List.nil_append]

theorem bare_of_mem_flags {flag : String} (member : flag ∈ Command.flags) : Bare flag := by
  simp only [Command.flags, List.mem_cons, List.not_mem_nil, or_false] at member
  rcases member with rfl | rfl | rfl | rfl | rfl <;> exact ⟨by decide, by decide, by decide⟩

theorem readsAs_quote {text : String} (quoteFree : '"' ∉ text.toList) :
    ReadsAs (Command.quote text) text := by
  intro words
  have literal : ∀ char ∈ text.toList, char ≠ '"' ∧ (char = ' ' → true = true) :=
    fun char member => ⟨fun quote => quoteFree (quote ▸ member), fun _ => rfl⟩
  have shown : (Command.quote text).toList = '"' :: (text.toList ++ ['"']) := by
    simp [Command.quote]
  rw [shown, Splitting.run_cons, Splitting.run_append]
  show ((Splitting.run ⟨words, some [], true⟩ text.toList).run ['"']) = _
  rw [Splitting.run_literal literal]
  rfl

/-! ### Lines that are read as their arguments -/

/-- Arguments with a blank behind each are read one by one. -/
theorem run_spaced {Item : Type} {shown word : Item → String} {items : List Item}
    (reads : ∀ item ∈ items, ReadsAs (shown item) (word item)) (words : List String) :
    Splitting.run ⟨words, none, false⟩ (Command.spaced (items.map shown)) =
      ⟨words ++ items.map word, none, false⟩ := by
  induction items generalizing words with
  | nil => rw [List.map_nil, List.map_nil, List.append_nil]; rfl
  | cons item others inductionHypothesis =>
    obtain ⟨first, rest⟩ := List.forall_mem_cons.mp reads
    rw [List.map_cons, Command.spaced_cons, Splitting.run_append, first words,
      Splitting.run_cons, Splitting.step_blank]
    exact (inductionHypothesis rest _).trans (by simp)

/-- A last blank ends the last word, which ends with the line anyway. -/
theorem Splitting.finish_of_step_blank {state : Splitting} {words : List String}
    (ended : state.step ' ' = ⟨words, none, false⟩) : state.finish = words := by
  obtain ⟨before, word, quoted⟩ := state
  cases quoted with
  | false => exact congrArg Splitting.words ended
  | true => cases congrArg Splitting.word ended

/-- The words of a shown line are the arguments, if each of them is read as one word. -/
theorem Command.wordsOf_line {command : Command}
    (reads : ∀ part ∈ command.parts, ReadsAs part.shown part.text) :
    wordsOf command.line = command.arguments false := by
  rw [arguments_false_eq]
  refine Splitting.finish_of_step_blank ?_
  show (Splitting.run {} command.line.toList).run [' '] = _
  rw [← Splitting.run_append, toList_line_append_blank, arguments_true_eq]
  exact (run_spaced reads []).trans (by rw [List.nil_append])

namespace Pipeline

/-- The words of the line that shows a pipeline's command are the command's arguments, where no
text from the description holds a quote mark and the program and the codec stand for themselves
without any. -/
theorem words_of_commandLine {pipeline : Pipeline} {options : CommandOptions} {line : String}
    (shown : pipeline.commandLine options = .ok line)
    (files : ∀ source ∈ pipeline.sources, '"' ∉ source.file.toList)
    (expression : ∀ expression, pipeline.expression options.graph = .ok expression →
      '"' ∉ expression.toList)
    (output : '"' ∉ pipeline.output.toList) (program : Bare options.program)
    (codec : Bare options.codec) :
    pipeline.arguments options false = .ok (wordsOf line) := by
  obtain ⟨command, made, rfl⟩ := (commandLine_eq_ok_iff _ _ _).mp shown
  refine (arguments_eq_ok_iff _ _ _ _).mpr ⟨command, made, (Command.wordsOf_line ?_).symm⟩
  have codecs := command_codec made
  have ending := label_isSuffixOf_expression made
  obtain ⟨label, text, _, written, rfl⟩ := (command_eq_ok_iff _ _ _).mp made
  have graphFree := expression text written
  rintro (own | described) member
  · refine Bare.readsAs ?_
    rcases Command.own_mem_parts member with rfl | flag | named
    · exact program
    · exact bare_of_mem_flags flag
    · exact codecs own named ▸ codec
  · refine readsAs_quote ?_
    rcases (Command.described_mem_parts_iff _ _).mp member with file | rfl | rfl | rfl
    · obtain ⟨source, declared, rfl⟩ := List.mem_map.mp file
      exact files source declared
    · exact graphFree
    · exact fun inside => graphFree (ending.subset inside)
    · exact output

/-- A pipeline with a file and an output path without a name, and with blanks, a line break and a
semicolon in other texts. -/
def spacious : Pipeline where
  sources := [⟨"left", ""⟩, ⟨"right", "my clip;\n2.mov"⟩]
  stages := [⟨.many ["left", "right"], .bare "hstack", .one "the end"⟩]
  output := ""

def spaciousLine : String :=
  "ffmpeg -y -i \"\" -i \"my clip;\n2.mov\" -filter_complex " ++
    "\"[0:v][1:v]hstack=inputs=2[the end]\" -map \"[the end]\" -c:v ffv1 \"\""

theorem graph_spacious (layout : Layout) :
    spacious.graph layout = "[0:v][1:v]hstack=inputs=2[the end]" := by
  have distinct : spacious.ids.Nodup := by decide
  have left : spacious.table.token "left" = "0:v" :=
    spacious.token_of_declared distinct (rfl : _[0]? = _)
  have right : spacious.table.token "right" = "1:v" :=
    spacious.token_of_declared distinct (rfl : _[1]? = _)
  show layout.separator.intercalate [Stage.fragment _ _] = _
  rw [String.intercalate_singleton]
  show String.join [bracketed _, bracketed _] ++ _ ++ _ = _
  rw [left, right]
  rfl

theorem commandLine_spacious : spacious.commandLine {} = .ok spaciousLine := by
  have made : spacious.command {} =
      .ok (spacious.commandOf {} "the end" "[0:v][1:v]hstack=inputs=2[the end]") :=
    (command_eq_ok_iff _ _ _).mpr ⟨"the end", _, rfl, congrArg Except.ok (graph_spacious _), rfl⟩
  rw [commandLine, made]
  rfl

/-- Texts without any character are words of their own, and what is in the others splits none. -/
theorem words_of_spacious :
    spacious.commandLine {} = .ok spaciousLine ∧
      (∀ source ∈ spacious.sources, '"' ∉ source.file.toList) ∧
      (∀ expression, spacious.expression {} = .ok expression → '"' ∉ expression.toList) ∧
      '"' ∉ spacious.output.toList ∧ Bare "ffmpeg" ∧ Bare "ffv1" ∧
      spacious.arguments {} false = .ok (wordsOf spaciousLine) ∧
      wordsOf spaciousLine = ["ffmpeg", "-y", "-i", "", "-i", "my clip;\n2.mov", "-filter_complex",
        "[0:v][1:v]hstack=inputs=2[the end]", "-map", "[the end]", "-c:v", "ffv1", ""] := by
  have files : ∀ source ∈ spacious.sources, '"' ∉ source.file.toList := by decide
  have expression : ∀ expression, spacious.expression {} = .ok expression →
      '"' ∉ expression.toList := by
    intro expression written
    obtain rfl := Except.ok.inj written
    rw [graph_spacious]
    decide
  have output : '"' ∉ spacious.output.toList := by decide
  have program : Bare "ffmpeg" := ⟨by decide, by decide, by decide⟩
  have codec : Bare "ffv1" := ⟨by decide, by decide, by decide⟩
  exact ⟨commandLine_spacious, files, expression, output, program, codec,
    words_of_commandLine commandLine_spacious files expression output program codec, by decide +kernel⟩

end Pipeline

end FilterGraph
