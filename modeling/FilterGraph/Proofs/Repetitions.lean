/-
This file says what becomes of a list of parameters in which keys are repeated.

A key stands where the list has it first, with the value that the list has for it last. This is
said without inserting anything: the keys stand in the order of their first places, and the values
are those that a look-up from the end of the list gives. There is one way only to arrange a list
so. Inserting its entries one by one keeps this up, since a new key goes behind all others and a
key that is there stays at its place; and reading them from an object inserts them one by one as
well.
-/

import FilterGraph.Proofs.Descriptions
import FilterGraph.Proofs.Overlays
import FilterGraph.Proofs.Parameters
import Mathlib.Data.List.Induction

namespace FilterGraph

open Json

variable {Content : Type}

/-! ### What a list amounts to -/

/-- The pairs are those of a list in which keys may be repeated: each key once, in the order of the
first places, with the value of its last place. -/
structure Collects (entries pairs : List (String × Content)) : Prop where
  firstPlaces : (pairs.map Prod.fst).Pairwise fun first second =>
    (entries.map Prod.fst).idxOf first < (entries.map Prod.fst).idxOf second
  lastValues : ∀ key value, (key, value) ∈ pairs ↔ entries.reverse.lookup key = some value

theorem isSome_lookup_iff {entries : List (String × Content)} {key : String} :
    (entries.lookup key).isSome ↔ key ∈ entries.map Prod.fst := by
  rw [List.lookup_isSome_iff, List.mem_map]
  exact exists_congr fun entry => and_congr_right fun _ => beq_iff_eq.trans eq_comm

namespace Collects

variable {entries pairs : List (String × Content)} (collects : Collects entries pairs)

include collects

/-- The keys are those of the list. -/
theorem mem_keys_iff {key : String} : key ∈ pairs.map Prod.fst ↔ key ∈ entries.map Prod.fst := by
  have given : key ∈ entries.map Prod.fst ↔ ∃ value, entries.reverse.lookup key = some value := by
    rw [← Option.isSome_iff_exists, isSome_lookup_iff, List.map_reverse, List.mem_reverse]
  rw [given, List.mem_map]
  constructor
  · rintro ⟨⟨_, value⟩, member, rfl⟩
    exact ⟨value, (collects.lastValues _ value).mp member⟩
  · rintro ⟨value, last⟩
    exact ⟨(key, value), (collects.lastValues key value).mpr last, rfl⟩

theorem pairwise_idxOf : pairs.Pairwise fun first second =>
    (entries.map Prod.fst).idxOf first.1 < (entries.map Prod.fst).idxOf second.1 := by
  have places := collects.firstPlaces
  rwa [List.pairwise_map] at places

theorem nodup : pairs.Nodup := by
  refine collects.pairwise_idxOf.imp ?_
  rintro first _ before rfl
  exact Nat.lt_irrefl _ before

/-- A list amounts to the same pairs in the same order. -/
theorem unique {others : List (String × Content)} (collectsOthers : Collects entries others) :
    pairs = others := by
  have same : pairs.Perm others := by
    rw [List.perm_ext_iff_of_nodup collects.nodup collectsOthers.nodup]
    rintro ⟨key, value⟩
    rw [collects.lastValues, collectsOthers.lastValues]
  -- Both are in the order of the first places, which are different for different keys.
  refine same.eq_of_pairwise ?_ collects.pairwise_idxOf collectsOthers.pairwise_idxOf
  exact fun _ _ _ _ before behind => absurd before (Nat.lt_asymm behind)

end Collects

/-! ### Inserting one by one -/

namespace Parameters

/-- What is looked up is an entry, as no key is repeated among the entries. -/
theorem get?_eq_some_iff {parameters : Parameters} {key : String} {value : Parameter} :
    parameters.get? key = some value ↔ (key, value) ∈ parameters.entries := by
  obtain ⟨entries, distinct⟩ := parameters
  rw [get?, List.lookup_eq_some_iff]
  constructor
  · rintro ⟨before, behind, rfl, _⟩
    exact List.mem_append_right _ List.mem_cons_self
  · intro member
    obtain ⟨before, behind, rfl⟩ := List.append_of_mem member
    refine ⟨before, behind, rfl, fun entry earlier => bne_iff_ne.mpr fun same => ?_⟩
    rw [List.map_append, List.map_cons] at distinct
    exact (List.nodup_append.mp distinct).2.2 entry.1 (List.mem_map_of_mem earlier) key
      List.mem_cons_self same.symm

variable {parameters : Parameters} {entries : List (String × Parameter)}

/-- A new key goes behind all others, and the places of those do not change. -/
theorem pairwise_keys_insert (collects : Collects entries parameters.entries) (key : String)
    (value : Parameter) :
    (parameters.insert key value).keys.Pairwise fun first second =>
      ((entries ++ [(key, value)]).map Prod.fst).idxOf first <
        ((entries ++ [(key, value)]).map Prod.fst).idxOf second := by
  have place {other : String} (here : other ∈ parameters.keys) :
      ((entries ++ [(key, value)]).map Prod.fst).idxOf other =
        (entries.map Prod.fst).idxOf other := by
    rw [List.map_append, List.idxOf_append, if_pos (collects.mem_keys_iff.mp here)]
  have before : parameters.keys.Pairwise fun first second =>
      ((entries ++ [(key, value)]).map Prod.fst).idxOf first <
        ((entries ++ [(key, value)]).map Prod.fst).idxOf second :=
    collects.firstPlaces.imp_of_mem fun here there less => by rwa [place here, place there]
  rw [keys_insert]
  split
  · exact before
  · next fresh =>
    refine List.pairwise_append.mpr ⟨before, List.pairwise_singleton _ _, ?_⟩
    intro other here last single
    obtain rfl := List.mem_singleton.mp single
    rw [place here, List.map_append, List.idxOf_append,
      if_neg fun given => fresh (collects.mem_keys_iff.mpr given)]
    exact Nat.lt_add_left _ (List.idxOf_lt_length_of_mem (collects.mem_keys_iff.mp here))

/-- With one more entry, the list amounts to the parameters with that entry inserted. -/
theorem collects_insert (collects : Collects entries parameters.entries) (key : String)
    (value : Parameter) :
    Collects (entries ++ [(key, value)]) (parameters.insert key value).entries where
  firstPlaces := pairwise_keys_insert collects key value
  lastValues other last := by
    rw [← get?_eq_some_iff, get?_insert, List.reverse_append, List.reverse_singleton,
      List.singleton_append, List.lookup_cons]
    by_cases same : other = key
    · rw [if_pos same, beq_iff_eq.mpr same]
    · rw [if_neg same, beq_eq_false_iff_ne.mpr same, get?_eq_some_iff]
      exact collects.lastValues other last

/-- Inserting the entries of a list one by one gives what the list amounts to. -/
theorem collects_ofList (entries : List (String × Parameter)) :
    Collects entries (ofList entries).entries := by
  -- The last entry of the list is the last one to be inserted, so it is taken off first.
  induction entries using List.reverseRecOn with
  | nil => exact ⟨.nil, fun _ _ => iff_of_false List.not_mem_nil nofun⟩
  | append_singleton entries entry inductionHypothesis =>
    rw [ofList, List.foldl_concat]
    exact collects_insert inductionHypothesis entry.1 entry.2

theorem collects_iff {pairs : List (String × Parameter)} :
    Collects entries pairs ↔ pairs = (ofList entries).entries := by
  constructor
  · exact fun collects => collects.unique (collects_ofList entries)
  · rintro rfl
    exact collects_ofList entries

end Parameters

/-! ### The two ways in -/

namespace Filter

/-- The members of an object are collected into the parameters. -/
theorem fitting_object {outer members : List (String × Value)} {name : String}
    (named : valuesOf "name" outer = [.text name])
    (given : valuesOf "params" outer = [.object members]) :
    fitting (.object outer) = .ok (configured name (.ofMembers members)) := by
  rw [fitting, ofValue?, named, given]
  rfl

/-- A list of keys and values gives the same parameters whether it is handed over or stands in a
filter's object as its members: each key once, in the order of the first places, with the value
of its last place. An overlay shows just these pairs in this order. The object is read if it nests
at most 127 levels deep, and refused as too deep if it nests deeper. -/
theorem repeated_keys_are_collected {entries : List (String × Parameter)}
    {members outer : List (String × Value)} {name : String}
    (same : entries = members.map fun member => (member.1, .ofValue member.2))
    (named : valuesOf "name" outer = [.text name])
    (given : valuesOf "params" outer = [.object members])
    (exact : (Value.object outer).Exact) {text : String}
    (written : text ∈ [(Value.object outer).compact, (Value.object outer).pretty]) :
    (parse text).mapError Problem.cause =
      (if (Value.object outer).depth ≤ 127 then .ok (configured name (.ofList entries))
        else .error .tooDeep) ∧
    ∃ pairs, (∀ others, Collects entries others ↔ others = pairs) ∧
      (Parameters.ofList entries).entries = pairs ∧
      ∀ inputCount, (configured "overlay" (.ofList entries)).segment inputCount =
        "overlay=" ++ ":".intercalate
          (pairs.map fun pair => pair.1 ++ "=" ++ pair.2.display) := by
  refine ⟨?_, _, fun _ => Parameters.collects_iff, rfl, fun _ => segment_of_overlay rfl _⟩
  have collected : Parameters.ofMembers members = .ofList entries := same ▸ rfl
  rw [parse_eq_fitting exact written, Value.within]
  show _ = if (Value.object outer).depth ≤ depthLimit then _ else _
  split
  · exact (fitting_object named given).trans (collected ▸ rfl)
  · rfl

/-- Members in which the first and the second key come again behind others. -/
def placements : List (String × Value) :=
  [("x", .scalar (.number (.integer 1 (by decide)))), ("y", .text "H-h"),
    ("x", .object [("b", .list []), ("a", .scalar (.bool true))]),
    ("shortest", .scalar (.bool false)), ("y", .scalar .null)]

/-- The members of an overlay's object with these parameters. -/
def placing : List (String × Value) :=
  [("params", .object placements), ("note", .list []), ("name", .text "overlay")]

theorem exact_placing : (Value.object placing).Exact := by
  simp [placing, placements, Value.text, Value.exact_object_iff, Value.exact_list_iff,
    Value.exact_scalar_iff, Scalar.Exact]

/-- Handed over or read from the object, the keys stand where they came first. -/
theorem placements_are_collected :
    (Value.object placing).Exact ∧ (Value.object placing).depth ≤ 127 ∧
      ∃ parameters, (parse (Value.object placing).pretty).mapError Problem.cause =
          .ok (configured "overlay" parameters) ∧
        parameters = .ofList (placements.map fun member => (member.1, .ofValue member.2)) ∧
        parameters.keys = ["x", "y", "shortest"] ∧
        (configured "overlay" parameters).segment 2 =
          "overlay=x=\x7b\"a\":true,\"b\":[]\x7d:y=null:shortest=false" := by
  have shallow : (Value.object placing).depth ≤ 127 := by
    show 4 ≤ 127
    decide
  have named : valuesOf "name" placing = [.text "overlay"] := rfl
  have given : valuesOf "params" placing = [.object placements] := rfl
  obtain ⟨read, pairs, _, collected, segment⟩ :=
    repeated_keys_are_collected rfl named given exact_placing (.tail _ (.head _))
  refine ⟨exact_placing, shallow, _, read.trans (if_pos shallow), rfl, rfl, ?_⟩
  rw [segment, ← collected]
  rfl

end Filter

end FilterGraph
