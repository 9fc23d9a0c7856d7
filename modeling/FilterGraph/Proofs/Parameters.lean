/-
This file shows when nothing is lost on the way from members to parameters.

A parameter sorts the objects inside of its value, which changes nothing if they are sorted, as
those inside of a parameter are. Parameters put a repeated key at the place of the first one, which
changes nothing if no key is repeated. So what was written for some parameters gives the same
parameters again.
-/

import FilterGraph.Pipeline.Format
import FilterGraph.Proofs.Json.Spacing

namespace FilterGraph

open Json

/-! ### Sorted objects -/

namespace Json.Value

theorem canonicalItems_iff {items : List Value} :
    CanonicalItems items ↔ ∀ item ∈ items, item.Canonical := by
  induction items with
  | nil => simp [CanonicalItems]
  | cons item others inductionHypothesis =>
    rw [CanonicalItems, inductionHypothesis, List.forall_mem_cons]

theorem canonicalMembers_iff {members : List (String × Value)} :
    CanonicalMembers members ↔ ∀ member ∈ members, member.2.Canonical := by
  induction members with
  | nil => simp [CanonicalMembers]
  | cons member others inductionHypothesis =>
    obtain ⟨key, value⟩ := member
    rw [CanonicalMembers, inductionHypothesis, List.forall_mem_cons]

theorem canonicalItems_eq_map (items : List Value) :
    canonicalItems items = items.map canonical := by
  induction items with
  | nil => rfl
  | cons item others inductionHypothesis =>
    rw [canonicalItems, inductionHypothesis, List.map_cons]

/-- A member with the greatest key goes to the end. -/
theorem insertMember_eq_append {key : String} {members : List (String × Value)}
    (greatest : ∀ member ∈ members, member.1 < key) (value : Value) :
    insertMember key value members = members ++ [(key, value)] := by
  induction members with
  | nil => rfl
  | cons member others inductionHypothesis =>
    obtain ⟨key', value'⟩ := member
    have less : key' < key := greatest _ List.mem_cons_self
    have different : key ≠ key' := fun same => String.lt_irrefl key' (same ▸ less)
    have notLess : ¬key < key' := fun greater => String.lt_irrefl key (String.lt_trans greater less)
    rw [insertMember, if_neg notLess, if_neg different,
      inductionHypothesis fun member later => greatest member (List.mem_cons_of_mem _ later)]
    rfl

/-- Members with ascending keys stay as they are if their values do. -/
theorem canonicalMembers_eq_append {members sorted : List (String × Value)}
    (ascending : Ascending (sorted ++ members))
    (each : ∀ member ∈ members, member.2.canonical = member.2) :
    canonicalMembers members sorted = sorted ++ members := by
  induction members generalizing sorted with
  | nil => exact (List.append_nil sorted).symm
  | cons member others inductionHypothesis =>
    obtain ⟨key, value⟩ := member
    have greatest : ∀ member ∈ sorted, member.1 < key := fun member before =>
      (List.pairwise_append.mp ascending).2.2 member before _ List.mem_cons_self
    have moved : sorted ++ (key, value) :: others = (sorted ++ [(key, value)]) ++ others := by simp
    rw [canonicalMembers, each _ List.mem_cons_self, insertMember_eq_append greatest, moved]
    exact inductionHypothesis (moved ▸ ascending)
      fun member later => each member (List.mem_cons_of_mem _ later)

/-- Sorting changes nothing about a value that is sorted. -/
theorem canonical_eq_self (value : Value) : value.Canonical → value.canonical = value := by
  induction value using byParts with
  | scalar value => exact fun _ => rfl
  | list items inductionHypothesis =>
    intro sorted
    have each : ∀ item ∈ items, item.canonical = item := fun item member =>
      inductionHypothesis item member (canonicalItems_iff.mp sorted item member)
    rw [canonical, canonicalItems_eq_map, List.map_congr_left each, List.map_id']
  | object members inductionHypothesis =>
    rintro ⟨ascending, sorted⟩
    have each : ∀ member ∈ members, member.2.canonical = member.2 := fun member here =>
      inductionHypothesis member here (canonicalMembers_iff.mp sorted member here)
    rw [canonical, canonicalMembers_eq_append (by simpa using ascending) each, List.nil_append]

end Json.Value

theorem Parameter.ofValue_value (parameter : Parameter) : ofValue parameter.value = parameter := by
  obtain ⟨value, sorted⟩ := parameter
  simp only [ofValue, value.canonical_eq_self sorted]

/-! ### Distinct keys -/

namespace Parameters

theorem insertEntry_eq_append {key : String} {entries : List (String × Parameter)}
    (fresh : key ∉ entries.map Prod.fst) (value : Parameter) :
    insertEntry key value entries = entries ++ [(key, value)] := by
  induction entries with
  | nil => rfl
  | cons entry others inductionHypothesis =>
    obtain ⟨key', value'⟩ := entry
    rw [List.map_cons, List.mem_cons, not_or] at fresh
    rw [insertEntry, if_neg fun same => fresh.1 same.symm, inductionHypothesis fresh.2]
    rfl

theorem entries_foldl_insert {entries : List (String × Parameter)} {parameters : Parameters}
    (distinct : ((parameters.entries ++ entries).map Prod.fst).Nodup) :
    (entries.foldl (fun parameters entry => parameters.insert entry.1 entry.2) parameters).entries =
      parameters.entries ++ entries := by
  induction entries generalizing parameters with
  | nil => exact (List.append_nil _).symm
  | cons entry others inductionHypothesis =>
    obtain ⟨key, value⟩ := entry
    have fresh : key ∉ parameters.entries.map Prod.fst := by
      rw [List.map_append, List.map_cons] at distinct
      intro before
      exact (List.nodup_append.mp distinct).2.2 key before key List.mem_cons_self rfl
    have inserted : (parameters.insert key value).entries = parameters.entries ++ [(key, value)] :=
      insertEntry_eq_append fresh value
    have moved : parameters.entries ++ (key, value) :: others =
        (parameters.insert key value).entries ++ others := by
      rw [inserted]
      simp
    rw [moved]
    exact inductionHypothesis (moved ▸ distinct)

/-- Entries with distinct keys stay as they are. -/
theorem entries_ofList {entries : List (String × Parameter)}
    (distinct : (entries.map Prod.fst).Nodup) : (ofList entries).entries = entries :=
  entries_foldl_insert distinct

/-- The parameters that are read from the members of an object with distinct keys. -/
theorem entries_ofMembers {members : List (String × Value)}
    (distinct : (members.map Prod.fst).Nodup) :
    (ofMembers members).entries =
      members.map fun member => (member.1, Parameter.ofValue member.2) := by
  refine entries_ofList ?_
  rw [List.map_map]
  exact distinct

theorem ext {first second : Parameters} (same : first.entries = second.entries) :
    first = second := by
  cases first
  cases second
  cases same
  rfl

/-- What was written for some parameters gives the same parameters again. -/
theorem ofMembers_entries (parameters : Parameters) :
    ofMembers (parameters.entries.map fun (key, parameter) => (key, parameter.value)) =
      parameters := by
  refine ext ?_
  have keys : (parameters.entries.map fun (key, parameter) => (key, parameter.value)).map Prod.fst =
      parameters.entries.map Prod.fst := by
    rw [List.map_map]
    rfl
  rw [entries_ofMembers (keys ▸ parameters.distinct), List.map_map]
  refine (List.map_congr_left fun entry _ => ?_).trans (List.map_id' _)
  obtain ⟨key, parameter⟩ := entry
  simp only [Function.comp_apply, parameter.ofValue_value]

end Parameters

end FilterGraph
