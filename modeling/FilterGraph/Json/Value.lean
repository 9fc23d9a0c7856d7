/-
JSON values as they stand in a document: the members of an object keep their order, and a repeated
key stays repeated. Which of several members counts is for the reader of the value to say.
-/

import FilterGraph.Json.Number

namespace FilterGraph.Json

/-- A value without parts. -/
inductive Scalar where
  | null
  | bool (value : Bool)
  | number (value : Number)
  | text (value : String)

/-- A value of a document, with the members of an object in their order. -/
inductive Value where
  | scalar (scalar : Scalar)
  | list (items : List Value)
  | object (members : List (String × Value))

namespace Scalar

/-- Whether two scalars compare equal. -/
def same : Scalar → Scalar → Bool
  | null, null => true
  | bool first, bool second => first == second
  | number first, number second => first.same second
  | text first, text second => first == second
  | _, _ => false

end Scalar

namespace Value

/-- A text value. -/
def text (value : String) : Value := scalar (.text value)

/-! ### Comparing -/

mutual

/-- Whether two values compare equal, reals by value. -/
def same : Value → Value → Bool
  | scalar first, scalar second => first.same second
  | list first, list second => sameItems first second
  | object first, object second => sameMembers first second
  | _, _ => false

/-- Whether two lists of values compare equal, item by item. -/
def sameItems : List Value → List Value → Bool
  | [], [] => true
  | first :: others, second :: others' => first.same second && sameItems others others'
  | _, _ => false

/-- Whether two lists of members compare equal, member by member. -/
def sameMembers : List (String × Value) → List (String × Value) → Bool
  | [], [] => true
  | (key, first) :: others, (key', second) :: others' =>
    key == key' && first.same second && sameMembers others others'
  | _, _ => false

end

/-! ### Nesting -/

mutual

/-- How many lists and objects are open at the deepest place of a value. -/
def depth : Value → Nat
  | scalar _ => 0
  | list items => depthItems items + 1
  | object members => depthMembers members + 1

/-- The depth of the deepest item, zero if there is none. -/
def depthItems : List Value → Nat
  | [] => 0
  | item :: others => max item.depth (depthItems others)

/-- The depth of the deepest member, zero if there is none. -/
def depthMembers : List (String × Value) → Nat
  | [] => 0
  | (_, value) :: others => max value.depth (depthMembers others)

end

/-! ### Sorted objects -/

/-- Whether the keys are strictly ascending, so that none is repeated. -/
def Ascending (members : List (String × Value)) : Prop :=
  members.Pairwise fun first second => first.1 < second.1

mutual

/-- Whether every object of the value has strictly ascending keys. -/
def Canonical : Value → Prop
  | scalar _ => True
  | list items => CanonicalItems items
  | object members => Ascending members ∧ CanonicalMembers members

/-- Whether every item is canonical. -/
def CanonicalItems : List Value → Prop
  | [] => True
  | item :: others => item.Canonical ∧ CanonicalItems others

/-- Whether the value of every member is canonical. -/
def CanonicalMembers : List (String × Value) → Prop
  | [] => True
  | (_, value) :: others => value.Canonical ∧ CanonicalMembers others

end

/-- Puts a member at its place among ascending ones, in the place of one with the same key. -/
def insertMember (key : String) (value : Value) :
    List (String × Value) → List (String × Value)
  | [] => [(key, value)]
  | (key', value') :: others =>
    if key < key' then (key, value) :: (key', value') :: others
    else if key = key' then (key, value) :: others
    else (key', value') :: insertMember key value others

mutual

/-- Sorts the members of every object; of members with one key the last counts. -/
def canonical : Value → Value
  | scalar value => scalar value
  | list items => list (canonicalItems items)
  | object members => object (canonicalMembers members [])

/-- Sorts the objects within every item. -/
def canonicalItems : List Value → List Value
  | [] => []
  | item :: others => item.canonical :: canonicalItems others

/-- Inserts the members, one after the other, among those sorted before. -/
def canonicalMembers : List (String × Value) → List (String × Value) → List (String × Value)
  | [], sorted => sorted
  | (key, value) :: others, sorted =>
    canonicalMembers others (insertMember key value.canonical sorted)

end

/-! ### Sorting gives canonical values -/

theorem fst_of_mem_insertMember {key : String} {value : Value} {member : String × Value}
    {members : List (String × Value)} (here : member ∈ insertMember key value members) :
    member.1 = key ∨ member ∈ members := by
  fun_induction insertMember key value members with
  | case1 => simp_all
  | case2 => simp_all; grind
  | case3 => simp_all; grind
  | case4 key' value' others _ _ ih =>
    rcases List.mem_cons.1 here with rfl | later
    · exact .inr List.mem_cons_self
    · exact (ih later).imp id (List.mem_cons_of_mem _)

theorem ascending_insertMember {key : String} {value : Value} {members : List (String × Value)}
    (ascending : Ascending members) : Ascending (insertMember key value members) := by
  unfold Ascending at *
  fun_induction insertMember key value members with
  | case1 => simp
  | case2 key' value' others less =>
    rw [List.pairwise_cons] at ascending
    refine List.pairwise_cons.2 ⟨fun member here => ?_, List.pairwise_cons.2 ascending⟩
    rcases List.mem_cons.1 here with rfl | later
    · exact less
    · exact String.lt_trans less (ascending.1 member later)
  | case3 value' others _ => exact List.pairwise_cons.2 (List.pairwise_cons.1 ascending)
  | case4 key' value' others notLess different ih =>
    rw [List.pairwise_cons] at ascending
    refine List.pairwise_cons.2 ⟨fun member here => ?_, ih ascending.2⟩
    rcases fst_of_mem_insertMember here with same | later
    · have atMost : key' ≤ key := String.not_lt.1 notLess
      rw [same]
      exact Decidable.byContradiction fun notGreater =>
        different (String.le_antisymm (String.not_lt.1 notGreater) atMost)
    · exact ascending.1 member later

theorem canonicalMembers_insertMember {key : String} {value : Value}
    {members : List (String × Value)} (value_canonical : value.Canonical)
    (members_canonical : CanonicalMembers members) :
    CanonicalMembers (insertMember key value members) := by
  fun_induction insertMember key value members <;> simp_all [CanonicalMembers]

mutual

/-- A value with sorted objects is canonical. -/
theorem canonical_canonical : (value : Value) → value.canonical.Canonical
  | scalar _ => trivial
  | list items => canonicalItems_canonicalItems items
  | object members => canonicalMembers_canonicalMembers members [] .nil trivial

theorem canonicalItems_canonicalItems : (items : List Value) →
    CanonicalItems (canonicalItems items)
  | [] => trivial
  | item :: others => ⟨canonical_canonical item, canonicalItems_canonicalItems others⟩

theorem canonicalMembers_canonicalMembers : (members sorted : List (String × Value)) →
    Ascending sorted → CanonicalMembers sorted →
    Ascending (canonicalMembers members sorted) ∧
      CanonicalMembers (canonicalMembers members sorted)
  | [], _, ascending, values => ⟨ascending, values⟩
  | (_, value) :: others, _, ascending, values =>
    canonicalMembers_canonicalMembers others _ (ascending_insertMember ascending)
      (canonicalMembers_insertMember (canonical_canonical value) values)

end

end Value

end FilterGraph.Json
