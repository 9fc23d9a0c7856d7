/-
The identifiers on one side of a stage. A single identifier and a list of one are different: as an
output the first is a plain label, and the second a split with one branch.
-/

namespace FilterGraph

/-- One identifier, or a list of any length. -/
inductive Labels where
  | one (label : String)
  | many (labels : List String)
  deriving DecidableEq, Repr

namespace Labels

/-- All identifiers in their order. -/
def toList : Labels → List String
  | one label => [label]
  | many labels => labels

/-- The identifier that stands alone, if there is one. -/
def single? : Labels → Option String
  | one label => some label
  | many _ => none

/-- The number of identifiers. -/
def size (labels : Labels) : Nat :=
  labels.toList.length

/-- Whether there is no identifier at all. -/
def isEmpty (labels : Labels) : Bool :=
  labels.toList.isEmpty

@[simp] theorem toList_one (label : String) : (one label).toList = [label] := rfl

@[simp] theorem toList_many (labels : List String) : (many labels).toList = labels := rfl

end Labels

end FilterGraph
