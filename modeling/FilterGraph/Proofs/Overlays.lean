/-
This file proves what can be read back from the options of an overlay.

The options have no escapes: colons stand between them, and in each of them an equals sign stands
between the key and the shown value. So keys and values must have no colon, and keys no equals
sign; a value may have some, since the first one of an option is the one behind its key. Keys and
values may be empty. An option has its equals sign all the same, and this is what tells one of
them from none.
-/

import FilterGraph.Filter
import FilterGraph.Proofs.Separators

namespace FilterGraph

/-! ### Reading options -/

/-- What stands before and behind the first equals sign, if there is one. -/
def sides? (text : String) : Option (String × String) :=
  match text.toList.dropWhile (· ≠ '=') with
  | [] => none
  | _ :: value => some (String.ofList (text.toList.takeWhile (· ≠ '=')), String.ofList value)

/-- The options that a text is made of. A text without any is one piece without an equals sign. -/
def optionsOf (text : String) : List (String × String) :=
  (pieces ':' text).filterMap sides?

/-- The text of an option. -/
def assignment (option : String × String) : String :=
  option.1 ++ "=" ++ option.2

theorem toList_assignment (option : String × String) :
    (assignment option).toList = option.1.toList ++ '=' :: option.2.toList := by
  simp [assignment]

theorem assignment_ne_empty (option : String × String) : assignment option ≠ "" := by
  intro empty
  have none := toList_assignment option
  rw [empty] at none
  exact List.append_ne_nil_of_right_ne_nil _ (List.cons_ne_nil _ _) none.symm

/-- The first equals sign of an option is the one behind its key. -/
theorem sides?_assignment {option : String × String} (free : '=' ∉ option.1.toList) :
    sides? (assignment option) = some option := by
  have before : ∀ char ∈ option.1.toList, decide (char ≠ '=') = true :=
    fun char member => decide_eq_true fun same => free (same ▸ member)
  have key : (assignment option).toList.takeWhile (· ≠ '=') = option.1.toList := by
    rw [toList_assignment, List.takeWhile_append_of_pos before]
    exact List.append_nil _
  have value : (assignment option).toList.dropWhile (· ≠ '=') = '=' :: option.2.toList := by
    rw [toList_assignment, List.dropWhile_append_of_pos before]
    rfl
  simp only [sides?, key, value, String.ofList_toList]

/-! ### The options of parameters -/

namespace Parameters

/-- Parameters whose options can be told apart. -/
structure Readable (parameters : Parameters) : Prop where
  keys : ∀ key ∈ parameters.keys, '=' ∉ key.toList ∧ ':' ∉ key.toList
  values : ∀ entry ∈ parameters.entries, ':' ∉ entry.2.display.toList

theorem display_eq_intercalate (parameters : Parameters) :
    parameters.display = ":".intercalate (parameters.shown.map assignment) :=
  parameters.display_eq_of_shown

/-- Only where nothing is shown is there no text. -/
theorem display_eq_empty_iff {parameters : Parameters} :
    parameters.display = "" ↔ parameters.shown = [] := by
  rw [display_eq_intercalate, ← String.toList_inj, String.toList_intercalate, List.map_map]
  by_cases none : parameters.shown = []
  · rw [none]
    exact iff_of_true rfl rfl
  · refine iff_of_false ?_ none
    refine intercalate_ne_nil _ (fun empty => none (List.map_eq_nil_iff.mp empty)) ?_
    intro part member
    obtain ⟨option, _, rfl⟩ := List.mem_map.mp member
    exact fun empty => assignment_ne_empty option (String.toList_eq_nil_iff.mp empty)

namespace Readable

variable {parameters : Parameters} (readable : parameters.Readable)

include readable

theorem equals_notMem_key {option : String × String} (member : option ∈ parameters.shown) :
    '=' ∉ option.1.toList := by
  obtain ⟨entry, here, rfl⟩ := List.mem_map.mp member
  exact (readable.keys entry.1 (List.mem_map_of_mem here)).1

theorem colon_notMem_assignment {option : String × String} (member : option ∈ parameters.shown) :
    ':' ∉ (assignment option).toList := by
  obtain ⟨entry, here, rfl⟩ := List.mem_map.mp member
  rw [toList_assignment, List.mem_append, List.mem_cons]
  rintro (inKey | equals | inValue)
  · exact (readable.keys entry.1 (List.mem_map_of_mem here)).2 inKey
  · exact absurd equals (by decide)
  · exact readable.values entry here inValue

/-- The pieces between the colons are the options, and each of them has its two sides. -/
theorem sides?_pieces (listed : parameters.shown ≠ []) :
    (pieces ':' parameters.display).map sides? = parameters.shown.map some := by
  have free : ∀ part ∈ parameters.shown.map assignment, ':' ∉ part.toList := by
    intro part member
    obtain ⟨option, here, rfl⟩ := List.mem_map.mp member
    exact readable.colon_notMem_assignment here
  have cut : pieces ':' parameters.display = parameters.shown.map assignment := by
    rw [display_eq_intercalate]
    exact (pieces_intercalate free).trans
      (if_neg fun none => listed (List.map_eq_nil_iff.mp none))
  rw [cut, List.map_map]
  exact List.map_congr_left fun option here => sides?_assignment (readable.equals_notMem_key here)

/-- The options are read back in their order. -/
theorem optionsOf_display : optionsOf parameters.display = parameters.shown := by
  have sides : optionsOf parameters.display =
      ((pieces ':' parameters.display).map sides?).filterMap id := by
    rw [List.filterMap_map]
    rfl
  by_cases none : parameters.shown = []
  · -- The empty text is one piece, which has no equals sign and is passed over.
    rw [display_eq_empty_iff.mpr none, none]
    have cut : pieces ':' "" = [""] := pieces_intercalate (List.forall_mem_nil _)
    rw [optionsOf, cut]
    rfl
  · rw [sides, readable.sides?_pieces none, List.filterMap_map]
    exact List.filterMap_some

/-- Parameters with one text are shown as the same options. -/
theorem display_inj {other : Parameters} (otherReadable : other.Readable) :
    parameters.display = other.display ↔ parameters.shown = other.shown := by
  constructor
  · intro same
    rw [← readable.optionsOf_display, same, otherReadable.optionsOf_display]
  · intro same
    rw [display_eq_intercalate, display_eq_intercalate, same]

end Readable

end Parameters

/-! ### Overlays -/

namespace Filter

theorem segment_of_overlay {filter : Filter} (overlay : filter.name = "overlay")
    (inputCount : Nat) : filter.segment inputCount = "overlay=" ++ filter.parameters.display := by
  rw [segment_eq, overlay]
  rfl

/-- The text of an overlay is `overlay=` and its options, from which the keys and shown values of
the parameters are read back in their order: they are what stands between the colons, cut at the
first equals sign. There is no text just where there are no parameters, and parameters that are
shown as other pairs make another text. -/
theorem options_are_read_back {filter : Filter} (overlay : filter.name = "overlay")
    (readable : filter.parameters.Readable) :
    ∃ text, (∀ inputCount, filter.segment inputCount = "overlay=" ++ text) ∧
      optionsOf text = filter.parameters.shown ∧
      (filter.parameters.shown ≠ [] →
        (pieces ':' text).map sides? = filter.parameters.shown.map some) ∧
      (text = "" ↔ filter.parameters.entries = []) ∧
      ∀ other : Filter, other.name = "overlay" → other.parameters.Readable →
        other.parameters.shown ≠ filter.parameters.shown →
          ∀ first second, other.segment first ≠ filter.segment second := by
  refine ⟨filter.parameters.display, segment_of_overlay overlay, readable.optionsOf_display,
    readable.sides?_pieces, ?_, ?_⟩
  · rw [Parameters.display_eq_empty_iff]
    exact List.map_eq_nil_iff
  · intro other otherOverlay otherReadable differ first second same
    rw [segment_of_overlay otherOverlay, segment_of_overlay overlay,
      String.append_right_inj] at same
    exact differ ((otherReadable.display_inj readable).mp same)

/-- An overlay with an empty option, an equals sign in a value, and values that are no texts. -/
def watermark : Filter :=
  .configured "overlay" (.ofList [("", .ofText ""), ("x", .ofText "main_w=overlay_w"),
    ("y", .ofInt (-3) (by decide)), ("shortest", .ofBool true)])

theorem watermark_readable : watermark.parameters.Readable where
  keys := by decide
  values := by decide

/-- Its options are read back, and there are others than those of an overlay without any. -/
theorem watermark_options_are_read_back :
    watermark.name = "overlay" ∧ watermark.parameters.Readable ∧
      (∃ text, (∀ inputCount, watermark.segment inputCount = "overlay=" ++ text) ∧
        optionsOf text =
          [("", ""), ("x", "main_w=overlay_w"), ("y", "-3"), ("shortest", "true")] ∧ text ≠ "") ∧
      (bare "overlay").segment 2 ≠ watermark.segment 2 := by
  have overlay : watermark.name = "overlay" := rfl
  obtain ⟨text, segment, options, _, empty, others⟩ :=
    options_are_read_back overlay watermark_readable
  refine ⟨overlay, watermark_readable, ⟨text, segment, options, ?_⟩, ?_⟩
  · exact fun none => absurd (empty.mp none) (List.cons_ne_nil _ _)
  · exact others (bare "overlay") rfl ⟨nofun, nofun⟩ (List.cons_ne_nil _ _).symm 2 2

end Filter

end FilterGraph
