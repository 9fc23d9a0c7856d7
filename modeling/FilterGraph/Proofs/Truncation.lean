/-
This file proves that a description that is cut off is never read as another one.

A description ends at its closing bracket, so it is read in the same way whatever stands behind it,
and what stands behind it is refused unless it is blank. Now if some beginning of a description
could be read as well, the rest of the description would stand behind it. So this rest would have
to be blank, and only the blanks at the end of a description are.
-/

import FilterGraph.Proofs.Descriptions
import FilterGraph.Proofs.Invocations
import FilterGraph.Proofs.Json.Endings
import Mathlib.Data.List.DropRight

namespace FilterGraph

open Json

/-! ### Whole texts -/

theorem Json.skipBlanks_eq_nil_iff {text : List Char} :
    skipBlanks text = [] ↔ ∀ char ∈ text, isBlank char = true :=
  List.dropWhile_eq_nil_iff

namespace Json.Reader

variable {α : Type} {reader : Reader α} {text : String} {value : α} {rest : List Char}

/-- A whole text is read if nothing but blanks is left of it. -/
theorem readAll_eq_ok_iff : reader.readAll text = .ok value ↔
    ∃ rest, reader.run text.toList = .ok (value, rest) ∧ ∀ char ∈ rest, isBlank char = true := by
  simp only [readAll, ← skipBlanks_eq_nil_iff]
  cases reader.run text.toList with
  | error fault => simp
  | ok read =>
    obtain ⟨found, left⟩ := read
    cases behind : skipBlanks left <;> simp [onlyBlanks, behind]

/-- What else is left is refused. -/
theorem readAll_of_trailing (read : reader.run text.toList = .ok (value, rest))
    (trailing : ¬∀ char ∈ rest, isBlank char = true) :
    ∃ problem, reader.readAll text = .error problem ∧ problem.cause = .trailingCharacters := by
  rw [← skipBlanks_eq_nil_iff] at trailing
  simp only [readAll, read, onlyBlanks]
  cases behind : skipBlanks rest with
  | nil => exact absurd behind trailing
  | cons char others => exact ⟨_, rfl, rfl⟩

namespace Closes

variable (closes : reader.Closes) (ok : reader.readAll text = .ok value)

include closes ok

/-- Blanks may stand behind a text that is read. -/
theorem readAll_append_blank {more : String} (blank : ∀ char ∈ more.toList, isBlank char = true) :
    reader.readAll (text ++ more) = .ok value := by
  obtain ⟨rest, read, blankRest⟩ := readAll_eq_ok_iff.mp ok
  refine readAll_eq_ok_iff.mpr ⟨rest ++ more.toList, ?_, ?_⟩
  · rw [String.toList_append]
    exact closes read more.toList
  · exact List.forall_mem_append.mpr ⟨blankRest, blank⟩

/-- Nothing else may stand behind it. -/
theorem readAll_append_trailing {more : String}
    (trailing : ¬∀ char ∈ more.toList, isBlank char = true) :
    ∃ problem, reader.readAll (text ++ more) = .error problem ∧
      problem.cause = .trailingCharacters := by
  obtain ⟨rest, read, _⟩ := readAll_eq_ok_iff.mp ok
  have readMore := closes read more.toList
  rw [← String.toList_append] at readMore
  exact readAll_of_trailing readMore fun blank => trailing (List.forall_mem_append.mp blank).2

end Closes

end Json.Reader

/-- The text without the blanks at its end. -/
def withoutTrailingBlanks (text : String) : String :=
  String.ofList (text.toList.rdropWhile isBlank)

/-- What is cut off together with the last character that is not blank is not all blank. -/
theorem exists_append_of_isPrefix {start text : String}
    (begins : start.toList <+: (withoutTrailingBlanks text).toList)
    (proper : start ≠ withoutTrailingBlanks text) :
    ∃ rest, text = start ++ rest ∧ ¬∀ char ∈ rest.toList, isBlank char = true := by
  obtain ⟨cut, whole⟩ := begins
  have nonempty : cut ≠ [] := by
    rintro rfl
    rw [List.append_nil] at whole
    exact proper (String.toList_inj.mp whole)
  rw [withoutTrailingBlanks, String.toList_ofList] at whole
  obtain ⟨blanks, restored⟩ := List.rdropWhile_prefix isBlank (l := text.toList)
  refine ⟨String.ofList (cut ++ blanks), ?_, fun blank => ?_⟩
  · rw [← String.toList_inj, String.toList_append, String.toList_ofList, ← restored, ← whole,
      List.append_assoc]
  · have trimmed : (start.toList ++ cut).rdropWhile isBlank = start.toList ++ cut := by
      rw [whole, List.rdropWhile_idempotent]
    have last := List.rdropWhile_eq_self_iff.mp trimmed
      (List.append_ne_nil_of_right_ne_nil _ nonempty)
    rw [List.getLast_append_of_ne_nil _ nonempty] at last
    rw [String.toList_ofList] at blank
    exact last (blank _ (List.mem_append_left _ (List.getLast_mem nonempty)))

/-! ### Descriptions -/

theorem Source.reader_closes : shape.reader.Closes :=
  Shape.reader_closes <| List.forall_mem_cons.mpr ⟨readText_closes.settles.map _,
    List.forall_mem_singleton.mpr (readText_closes.settles.map _)⟩

theorem Stage.reader_closes (budget : Nat) : (shape budget).reader.Closes :=
  Shape.reader_closes <| List.forall_mem_cons.mpr ⟨((readValue_settles budget).map _).map _,
    List.forall_mem_cons.mpr ⟨((readValue_settles budget).map _).map _,
      List.forall_mem_singleton.mpr (((readValue_settles budget).map _).map _)⟩⟩

namespace Pipeline

theorem reader_closes : shape.reader.Closes :=
  Shape.reader_closes <| List.forall_mem_cons.mpr
    ⟨(readList_closes Source.reader_closes.settles).settles.map _,
      List.forall_mem_cons.mpr
        ⟨(readList_closes (Stage.reader_closes (depthLimit - 3)).settles).settles.map _,
          List.forall_mem_singleton.mpr (readText_closes.settles.map _)⟩⟩

theorem parse_eq_ok_iff {text : String} {pipeline : Pipeline} :
    parse text = .ok pipeline ↔ shape.reader.readAll text = .ok pipeline :=
  mapError_eq_ok_iff

theorem parse_append_trailing {text : String} {pipeline : Pipeline}
    (ok : parse text = .ok pipeline) {more : String}
    (trailing : ¬∀ char ∈ more.toList, isBlank char = true) :
    ∃ problem, parse (text ++ more) = .error (.malformed problem) ∧
      problem.cause = .trailingCharacters := by
  obtain ⟨problem, refused, same⟩ :=
    reader_closes.readAll_append_trailing (parse_eq_ok_iff.mp ok) trailing
  exact ⟨problem, mapError_eq_error_iff.mpr ⟨problem, refused, rfl⟩, same⟩

/-- A description that is not read is refused as malformed. -/
theorem exists_malformed {text : String} (refused : ∀ pipeline, parse text ≠ .ok pipeline) :
    ∃ problem, parse text = .error (.malformed problem) := by
  rw [parse] at refused ⊢
  cases read : shape.reader.readAll text with
  | error problem => exact ⟨problem, rfl⟩
  | ok pipeline => exact absurd (mapError_eq_ok_iff.mpr read) (refused pipeline)

/-- Of a description that is read, without the blanks at its end, every beginning but the whole is
refused as malformed, also where it is loaded. So is the description if anything stands behind it
that is not blank, while blanks do not matter. -/
theorem truncation_is_refused {text : String} {pipeline : Pipeline}
    (ok : parse text = .ok pipeline) :
    (∀ start : String, start.toList <+: (withoutTrailingBlanks text).toList →
      start ≠ withoutTrailingBlanks text → ∃ problem,
        parse start = .error (.malformed problem) ∧
          ∀ (description : Description) (host : Host), description.fetch host = .ok start →
            description.load host = .error (.malformed problem)) ∧
    (∀ more : String, (¬∀ char ∈ more.toList, isBlank char = true) → ∃ problem,
      parse (text ++ more) = .error (.malformed problem) ∧
        problem.cause = .trailingCharacters) ∧
    ∀ more : String, (∀ char ∈ more.toList, isBlank char = true) →
      parse (text ++ more) = .ok pipeline := by
  refine ⟨fun start begins proper => ?_, fun more => parse_append_trailing ok, fun more blank => ?_⟩
  · obtain ⟨rest, rfl, trailing⟩ := exists_append_of_isPrefix begins proper
    obtain ⟨problem, malformed⟩ : ∃ problem, parse start = .error (.malformed problem) := by
      refine exists_malformed fun other accepted => ?_
      obtain ⟨_, refused, _⟩ := parse_append_trailing accepted trailing
      rw [ok] at refused
      cases refused
    refine ⟨problem, malformed, fun description host fetched => ?_⟩
    exact (description.load_eq_error_iff host _).mpr (Or.inr ⟨start, fetched, malformed⟩)
  · exact parse_eq_ok_iff.mpr (reader_closes.readAll_append_blank (parse_eq_ok_iff.mp ok) blank)

/-- A description with a tabulator and quote marks, which are escaped in its text, and with a note
that no stage has, in which a bracket stands that closes nothing. -/
def annotated : Value :=
  .object [
    ("in", .list [.object [("id", .text "0"), ("file", .text "a\tb.mov")]]),
    ("filters", .list [.object [
      ("in", .text "0"),
      ("note", .list [.text "turned \x7d", .scalar .null]),
      ("filter", .text "hflip"),
      ("out", .text "x")]]),
    ("out", .text "say \"b\".avi")]

/-- The pipeline that is described. -/
def turned : Pipeline where
  sources := [⟨"0", "a\tb.mov"⟩]
  stages := [⟨.one "0", .bare "hflip", .one "x"⟩]
  output := "say \"b\".avi"

theorem parse_annotated : parse (annotated.compact ++ "\n") = .ok turned := by
  have exact : annotated.Exact := by
    simp [annotated, Value.text, Value.exact_object_iff, Value.exact_list_iff,
      Value.exact_scalar_iff, Scalar.Exact]
  have means : meaning annotated = .ok turned := rfl
  have read := parse_of_meaning exact means List.mem_cons_self
  exact parse_eq_ok_iff.mpr
    (reader_closes.readAll_append_blank (parse_eq_ok_iff.mp read)
      (List.all_eq_true.mp (by decide)))

/-- Its text up to the bracket that closes it. -/
def unfinished : String :=
  "\x7b\"in\":[\x7b\"id\":\"0\",\"file\":\"a\\tb.mov\"\x7d]," ++
  "\"filters\":[\x7b\"in\":\"0\",\"note\":[\"turned \x7d\",null]," ++
  "\"filter\":\"hflip\",\"out\":\"x\"\x7d],\"out\":\"say \\\"b\\\".avi\""

/-- The description is read with a line break at its end, but not without its closing bracket, and
not with a second one. -/
theorem truncation_of_annotated_is_refused :
    parse (annotated.compact ++ "\n") = .ok turned ∧
      unfinished.toList <+: (withoutTrailingBlanks (annotated.compact ++ "\n")).toList ∧
      unfinished ≠ withoutTrailingBlanks (annotated.compact ++ "\n") ∧
      (∃ problem, parse unfinished = .error (.malformed problem)) ∧
      ∃ problem, parse (annotated.compact ++ "\n" ++ "\x7d") = .error (.malformed problem) ∧
        problem.cause = .trailingCharacters := by
  have trimmed : withoutTrailingBlanks (annotated.compact ++ "\n") = unfinished ++ "\x7d" := by
    decide +kernel
  have begins : unfinished.toList <+:
      (withoutTrailingBlanks (annotated.compact ++ "\n")).toList := by
    rw [trimmed, String.toList_append]
    exact List.prefix_append _ _
  have proper : unfinished ≠ withoutTrailingBlanks (annotated.compact ++ "\n") := by
    rw [trimmed]
    decide +kernel
  obtain ⟨cut, extended, _⟩ := truncation_is_refused parse_annotated
  obtain ⟨problem, refused, _⟩ := cut unfinished begins proper
  exact ⟨parse_annotated, begins, proper, ⟨problem, refused⟩,
    extended "\x7d" (mt List.all_eq_true.mpr (by decide))⟩

end Pipeline

end FilterGraph
