/-
This file says what becomes of an accepted pipeline when its stages are put in another order.

Most of what the strict check asks for has nothing to do with the order: identifiers and labels
stay distinct, and a link that led somewhere still leads to the same place. All that can go wrong
is that a stage comes to stand before the provider of a label that it takes. So the pipeline is
judged by the order of providers and takers, and only one kind of error is left. The texts of the
stages come in the new order, each as it was: a stage is written without a look at the others.
-/

import FilterGraph.Proofs.FirstFault
import FilterGraph.Proofs.Routes

namespace FilterGraph

/-! ### Lists in another order -/

/-- The items in another order, which is given by the places they had. -/
def rearranged {Item : Type} (order : List Nat) (items : List Item) : List Item :=
  order.filterMap fun place => items[place]?

theorem rearranged_range {Item : Type} (items : List Item) :
    rearranged (List.range items.length) items = items := by
  induction items with
  | nil => rfl
  | cons item others inductionHypothesis =>
    rw [rearranged] at inductionHypothesis
    rw [rearranged, List.length_cons, List.range_succ_eq_map, List.filterMap_cons,
      List.filterMap_map]
    exact congrArg (item :: ·) inductionHypothesis

/-- An order that has every place once loses nothing and adds nothing. -/
theorem rearranged_perm {Item : Type} {order : List Nat} {items : List Item}
    (permutes : order.Perm (List.range items.length)) : (rearranged order items).Perm items := by
  have moved : (rearranged order items).Perm (rearranged (List.range items.length) items) :=
    permutes.filterMap _
  rwa [rearranged_range] at moved

theorem map_rearranged {Item Image : Type} (image : Item → Image) (order : List Nat)
    (items : List Item) :
    (rearranged order items).map image = rearranged order (items.map image) := by
  simp only [rearranged, List.map_filterMap, List.getElem?_map]

namespace Pipeline

/-- The pipeline with its stages in another order, which is given by the positions they had. -/
def reordered (pipeline : Pipeline) (order : List Nat) : Pipeline :=
  { pipeline with stages := rearranged order pipeline.stages }

theorem fragments_reordered (pipeline : Pipeline) (order : List Nat) :
    (pipeline.reordered order).fragments = rearranged order pipeline.fragments := by
  rw [fragments, fragments, ← map_rearranged]
  rfl

/-! ### What does not depend on the order -/

/-- Names are distinct, and every link is that of a declaration or of some stage, wherever that
stands. -/
structure Resolves (pipeline : Pipeline) : Prop where
  names : pipeline.DistinctNames
  links : ∀ stage ∈ pipeline.stages, ∀ link ∈ stage.inputs.toList, pipeline.Knows link

theorem Wired.resolves {pipeline : Pipeline} (wired : pipeline.Wired) : pipeline.Resolves where
  names := ⟨wired.distinctIds, wired.distinctLabels, wired.freshLabels⟩
  links _ member _ taken := wired.knows_of_input member taken

theorem Resolves.of_perm {first second : Pipeline} (resolves : first.Resolves)
    (ids : second.ids = first.ids) (stages : second.stages.Perm first.stages) :
    second.Resolves := by
  have labels : second.labels.Perm first.labels := stages.flatMap_right _
  have knows : ∀ identifier, second.Knows identifier ↔ first.Knows identifier := by
    intro identifier
    rw [Knows, Knows, ids, labels.mem_iff]
  refine ⟨⟨?_, ?_, ?_⟩, ?_⟩
  · rw [ids]
    exact resolves.names.ids
  · exact labels.nodup_iff.mpr resolves.names.labels
  · intro label provided
    rw [ids]
    exact resolves.names.fresh label (labels.mem_iff.mp provided)
  · intro stage member link taken
    exact (knows link).mpr (resolves.links stage (stages.mem_iff.mp member) link taken)

/-! ### What the order decides -/

/-- The stage at that position has the link among its inputs. -/
def Takes (pipeline : Pipeline) (position : Nat) (link : String) : Prop :=
  ∃ stage, pipeline.stages[position]? = some stage ∧ link ∈ stage.inputs.toList

/-- Every stage that provides a label stands before every stage that takes it. -/
def ProvidersFirst (pipeline : Pipeline) : Prop :=
  ∀ label provider taker, pipeline.Provides provider label → pipeline.Takes taker label →
    provider < taker

namespace Resolves

variable {pipeline : Pipeline} (resolves : pipeline.Resolves)

include resolves

/-- Where every link leads somewhere, the strict check looks at nothing but the order. -/
theorem wired_iff_providersFirst : pipeline.Wired ↔ pipeline.ProvidersFirst := by
  constructor
  · rintro wired label provider taker provides ⟨stage, found, taken⟩
    rcases wired.provided taker stage found label taken with declared | ⟨earlier, less, before⟩
    · exact absurd declared (wired.freshLabels label provides.mem_labels)
    · -- The check asks for any provider before the taker, but a label has only one.
      exact wired.provides_unique provides before ▸ less
  · intro first
    refine ⟨resolves.names.ids, resolves.names.labels, resolves.names.fresh, ?_⟩
    intro position stage found link taken
    rcases resolves.links stage (List.mem_of_getElem? found) link taken with declared | provided
    · exact Or.inl declared
    · obtain ⟨provider, provides⟩ := (pipeline.mem_labels_iff link).mp provided
      exact Or.inr ⟨provider, first link provider position provides ⟨stage, found, taken⟩,
        provides⟩

/-- There, it can only report a link that is taken too early. -/
theorem exists_earlyLink_of_error {error : Error} (refused : pipeline.checkLinks = .error error) :
    ∃ position link, error = .earlyLink position link ∧ pipeline.Takes position link ∧
      ∃ provider ≥ position, pipeline.Provides provider link := by
  obtain ⟨noId, noLabel⟩ := distinctNames_iff.mp resolves.names
  rw [checkLinks_eq_error_iff_wiringFault?, wiringFault?_eq_some_iff] at refused
  -- The passes over the names find nothing, so the fault is that of a link.
  rcases refused with ⟨id, repeated, _⟩ | ⟨_, label, repeated, _⟩ |
    ⟨_, position, place, link, ⟨stage, found, atPlace⟩, _, fault⟩
  · rw [noId] at repeated
    cases repeated
  · rw [noLabel] at repeated
    cases repeated
  · have taken := List.mem_of_getElem? atPlace
    obtain ⟨⟨undeclared, _⟩, ⟨later, rfl⟩ | ⟨nowhere, _⟩⟩ := linkFault?_eq_some_iff.mp fault
    · exact ⟨position, link, rfl, ⟨stage, found, taken⟩, later⟩
    · rcases resolves.links stage (List.mem_of_getElem? found) link taken with
        declared | provided
      · exact absurd declared undeclared
      · obtain ⟨provider, provides⟩ := (pipeline.mem_labels_iff link).mp provided
        exact absurd provides (nowhere provider)

end Resolves

/-- Whatever the new order, the strict check accepts it just if the providers of labels stand
before the stages that take them. If they do not, it reports a stage that takes a link before
the provider, and never anything else. In both cases the texts of the stages are in the new order
and otherwise as they were. -/
theorem reordering_is_judged_by_providers {pipeline : Pipeline}
    (accepted : pipeline.checkLinks = .ok ()) {order : List Nat}
    (permutes : order.Perm (List.range pipeline.stages.length)) :
    ((pipeline.reordered order).checkLinks = .ok () ↔
      (pipeline.reordered order).ProvidersFirst) ∧
    (¬ (pipeline.reordered order).ProvidersFirst → ∃ position link,
      (pipeline.reordered order).checkLinks = .error (.earlyLink position link) ∧
        (pipeline.reordered order).Takes position link ∧
        ∃ provider ≥ position, (pipeline.reordered order).Provides provider link) ∧
    (pipeline.reordered order).fragments = rearranged order pipeline.fragments := by
  have resolves : (pipeline.reordered order).Resolves :=
    (wired_of_checkLinks accepted).resolves.of_perm rfl (rearranged_perm permutes)
  refine ⟨⟨fun ok => ?_, fun first => ?_⟩, fun notFirst => ?_, pipeline.fragments_reordered order⟩
  · exact resolves.wired_iff_providersFirst.mp (wired_of_checkLinks ok)
  · exact checkLinks_of_wired (resolves.wired_iff_providersFirst.mpr first)
  · cases result : (pipeline.reordered order).checkLinks with
    | ok _ =>
      exact absurd (resolves.wired_iff_providersFirst.mp (wired_of_checkLinks result)) notFirst
    | error error =>
      obtain ⟨position, link, rfl, early⟩ := resolves.exists_earlyLink_of_error result
      exact ⟨position, link, rfl, early⟩

/-- A split and a plain stage, and a stack that takes the outputs of both. -/
def joining : Pipeline where
  sources := [⟨"a", "a.mov"⟩]
  stages := [
    ⟨.one "a", .bare "negate", .many ["p", "q"]⟩,
    ⟨.one "a", .bare "hflip", .one "r"⟩,
    ⟨.many ["q", "r", "q"], .bare "hstack", .one "out"⟩]
  output := "out.avi"

/-- The first two stages may change places, but the stack may not come before the split. -/
theorem joining_reordered :
    joining.checkLinks = .ok () ∧
      [1, 0, 2].Perm (List.range joining.stages.length) ∧
      [1, 2, 0].Perm (List.range joining.stages.length) ∧
      (joining.reordered [1, 0, 2]).ProvidersFirst ∧
      ¬ (joining.reordered [1, 2, 0]).ProvidersFirst ∧
      (joining.reordered [1, 2, 0]).checkLinks = .error (.earlyLink 1 "q") ∧
      (joining.reordered [1, 2, 0]).fragments = rearranged [1, 2, 0] joining.fragments := by
  have accepted : joining.checkLinks = .ok () := joining.checkLinks_eq_verdict.trans rfl
  have swap : [1, 0, 2].Perm (List.range joining.stages.length) := by decide
  have cycle : [1, 2, 0].Perm (List.range joining.stages.length) := by decide
  obtain ⟨swapped, _⟩ := reordering_is_judged_by_providers accepted swap
  obtain ⟨cycled, _, fragments⟩ := reordering_is_judged_by_providers accepted cycle
  have refused : (joining.reordered [1, 2, 0]).checkLinks = .error (.earlyLink 1 "q") :=
    (joining.reordered [1, 2, 0]).checkLinks_eq_verdict.trans rfl
  refine ⟨accepted, swap, cycle, swapped.mp ?_, fun first => ?_, refused, fragments⟩
  · exact (joining.reordered [1, 0, 2]).checkLinks_eq_verdict.trans rfl
  · rw [cycled.mpr first] at refused
    cases refused

end Pipeline

end FilterGraph
