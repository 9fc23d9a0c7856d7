/-
The strict check of links. Identifiers of inputs and labels must all be distinct, and a stage may
only take what an input or an earlier stage provides. The first fault found is reported, and
repeated names come before links that lead nowhere.

The check goes over the inputs, over the labels, and over the links. The first two passes keep what
they have seen in tables, where the third one looks up what each stage takes.
-/

import Std.Data.HashMap
import Std.Data.HashSet
import FilterGraph.Pipeline

namespace FilterGraph

/-- Enters the identifiers of inputs. One that was entered before is a fault. -/
def enterIds (ids : Std.HashSet String) : List String → Except Error (Std.HashSet String)
  | [] => .ok ids
  | id :: others =>
    if id ∈ ids then .error (.duplicateInput id) else enterIds (ids.insert id) others

/-- Enters labels, each with the position of the stage that provides it. One that was entered
before is a fault, and so is one that is the identifier of an input. -/
def enterLabels (ids : Std.HashSet String) (producers : Std.HashMap String Nat) :
    List (String × Nat) → Except Error (Std.HashMap String Nat)
  | [] => .ok producers
  | (label, position) :: others =>
    if label ∈ ids ∨ label ∈ producers then .error (.duplicateLabel label)
    else enterLabels ids (producers.insert label position) others

/-- Accepts a link that the stage at that position takes, if it is an input or the label of an
earlier stage. -/
def checkLink (ids : Std.HashSet String) (producers : Std.HashMap String Nat) (position : Nat)
    (link : String) : Except Error Unit :=
  if link ∈ ids then .ok ()
  else
    match producers[link]? with
    | none => .error (.unknownLink position link)
    | some producer => if producer < position then .ok () else .error (.earlyLink position link)

namespace Pipeline

/-- The labels of all stages in order, each with the position of its stage. -/
def placedLabels (pipeline : Pipeline) : List (String × Nat) :=
  pipeline.stages.zipIdx.flatMap fun (stage, position) =>
    stage.output.toList.map fun label => (label, position)

/-- Accepts a pipeline whose links all lead somewhere. -/
def checkLinks (pipeline : Pipeline) : Except Error Unit := do
  let ids ← enterIds ∅ pipeline.ids
  let producers ← enterLabels ids ∅ pipeline.placedLabels
  pipeline.stages.zipIdx.forM fun (stage, position) =>
    stage.inputs.toList.forM (checkLink ids producers position)

end Pipeline

end FilterGraph
