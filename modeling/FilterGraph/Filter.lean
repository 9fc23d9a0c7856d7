/-
A filter as a description names it. The bare name and the name with an empty set of parameters mean
the same, but they stay apart, since they are written differently.
-/

import FilterGraph.Parameters

namespace FilterGraph

/-- A bare name, or a name with parameters. -/
inductive Filter where
  | bare (name : String)
  | configured (name : String) (parameters : Parameters)

namespace Filter

/-- The name of the filter. -/
def name : Filter → String
  | bare name => name
  | configured name _ => name

/-- The parameters; a bare filter has none. -/
def parameters : Filter → Parameters
  | bare _ => .empty
  | configured _ parameters => parameters

/-- The same filter with its parameters spelled out. -/
def expanded (filter : Filter) : Filter :=
  configured filter.name filter.parameters

@[simp] theorem name_expanded (filter : Filter) : filter.expanded.name = filter.name := rfl

@[simp] theorem parameters_expanded (filter : Filter) :
    filter.expanded.parameters = filter.parameters := rfl

/-! ### Families -/

/-- The filters that take one input and no parameters. -/
inductive Plain where
  | negate
  | horizontalFlip
  | edgeDetection
  deriving DecidableEq, Repr

/-- The name of a plain filter. -/
def Plain.name : Plain → String
  | negate => "negate"
  | horizontalFlip => "hflip"
  | edgeDetection => "edgedetect"

/-- The plain filter of that name. -/
def Plain.ofName? (name : String) : Option Plain :=
  if name = Plain.negate.name then some .negate
  else if name = Plain.horizontalFlip.name then some .horizontalFlip
  else if name = Plain.edgeDetection.name then some .edgeDetection
  else none

/-- How the text of a filter is made up: a plain filter and any other are just their name, a stack
counts its inputs, and an overlay shows its parameters. -/
inductive Family where
  | plain (filter : Plain)
  | horizontalStack
  | verticalStack
  | overlay (parameters : Parameters)
  | other (name : String)

/-- The family of a filter, which its name decides. -/
def family (filter : Filter) : Family :=
  match Plain.ofName? filter.name with
  | some plain => .plain plain
  | none =>
    if filter.name = "hstack" then .horizontalStack
    else if filter.name = "vstack" then .verticalStack
    else if filter.name = "overlay" then .overlay filter.parameters
    else .other filter.name

theorem Plain.name_of_ofName? {name : String} {plain : Plain} (found : ofName? name = some plain) :
    plain.name = name := by
  unfold ofName? at found
  split at found
  · next same => rw [← Option.some.inj found, same]
  · split at found
    · next same => rw [← Option.some.inj found, same]
    · split at found
      · next same => rw [← Option.some.inj found, same]
      · cases found

/-- The text of a filter in a graph, for a stage with that many inputs. -/
def segment (filter : Filter) (inputCount : Nat) : String :=
  match filter.family with
  | .plain plain => plain.name
  | .horizontalStack => "hstack=inputs=" ++ toString inputCount
  | .verticalStack => "vstack=inputs=" ++ toString inputCount
  | .overlay parameters => "overlay=" ++ parameters.display
  | .other name => name

/-- The text is the name, except under three names. -/
theorem segment_eq (filter : Filter) (inputCount : Nat) :
    filter.segment inputCount =
      if filter.name = "hstack" then "hstack=inputs=" ++ toString inputCount
      else if filter.name = "vstack" then "vstack=inputs=" ++ toString inputCount
      else if filter.name = "overlay" then "overlay=" ++ filter.parameters.display
      else filter.name := by
  unfold segment family
  cases found : Plain.ofName? filter.name with
  | some plain =>
    rw [← Plain.name_of_ofName? found]
    cases plain <;> rfl
  | none =>
    by_cases horizontal : filter.name = "hstack"
    · simp only [if_pos horizontal]
    · by_cases vertical : filter.name = "vstack"
      · simp only [if_neg horizontal, if_pos vertical]
      · by_cases overlay : filter.name = "overlay"
        · simp only [if_neg horizontal, if_neg vertical, if_pos overlay]
        · simp only [if_neg horizontal, if_neg vertical, if_neg overlay]

/-- Whether the filter's parameters have no place in its text. Stacks leave them out as well, but
they are known to take none of their own. -/
def ignoresParameters (filter : Filter) : Bool :=
  match filter.family with
  | .plain _ => true
  | .other _ => true
  | _ => false

end Filter

end FilterGraph
