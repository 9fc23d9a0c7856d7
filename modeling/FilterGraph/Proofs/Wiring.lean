/-
This file says which pipelines the strict check of links accepts, without the check itself: the
identifiers of the declarations are distinct, the output labels are distinct and none of them is
a declared identifier, and whatever a stage takes was provided before it.

The check looks a link up at the stage that provides it, and a search for it stops at the first
one that does. Stopping there loses nothing: if any stage before the consumer provides the label,
the first one that does is before the consumer as well.
-/

import FilterGraph.Proofs.LinkFaults

namespace FilterGraph.Pipeline

/-! ### What the check accepts -/

/-- The link is declared, or a stage before that position provides it. -/
def KnownBefore (pipeline : Pipeline) (position : Nat) (link : String) : Prop :=
  link ∈ pipeline.ids ∨ ∃ earlier < position, pipeline.Provides earlier link

/-- All identifiers mean one thing, and whatever a stage takes is known before it. -/
structure Wired (pipeline : Pipeline) : Prop where
  distinctIds : pipeline.ids.Nodup
  distinctLabels : pipeline.labels.Nodup
  freshLabels : ∀ label ∈ pipeline.labels, label ∉ pipeline.ids
  provided : ∀ position stage, pipeline.stages[position]? = some stage →
    ∀ link ∈ stage.inputs.toList, pipeline.KnownBefore position link

theorem linkFault?_eq_none_iff (pipeline : Pipeline) (position : Nat) (link : String) :
    pipeline.linkFault? position link = none ↔ pipeline.KnownBefore position link := by
  rw [linkFault?, KnownBefore, ← producer?_lt_iff]
  split
  · next declared => simp [declared]
  · next undeclared =>
    cases pipeline.producer? link with
    | none => simp [undeclared]
    | some producer => simp [undeclared]

theorem stageFault?_eq_none_iff (pipeline : Pipeline) (position : Nat) (stage : Stage) :
    pipeline.stageFault? position stage = none ↔
      ∀ link ∈ stage.inputs.toList, pipeline.KnownBefore position link := by
  simp only [stageFault?, List.findSome?_eq_none_iff, linkFault?_eq_none_iff]

theorem wiringFault?_eq_none_iff (pipeline : Pipeline) :
    pipeline.wiringFault? = none ↔ pipeline.Wired := by
  have ids := firstRepeated_eq_none_iff [] pipeline.ids
  have labels := firstRepeated_eq_none_iff pipeline.ids pipeline.labels
  rw [wiringFault?]
  split
  · next repeated =>
    rw [repeated] at ids
    exact iff_of_false (by simp) fun wired => by simpa using ids.mpr ⟨wired.distinctIds, by simp⟩
  · next unrepeated =>
    have distinctIds := (ids.mp unrepeated).1
    split
    · next repeated =>
      rw [repeated] at labels
      refine iff_of_false (by simp) fun wired => ?_
      simpa using labels.mpr ⟨wired.distinctLabels, wired.freshLabels⟩
    · next unrepeated =>
      obtain ⟨distinctLabels, freshLabels⟩ := labels.mp unrepeated
      simp only [List.findSome?_eq_none_iff, Prod.forall, List.mem_zipIdx_iff_getElem?,
        stageFault?_eq_none_iff]
      constructor
      · intro provided
        exact ⟨distinctIds, distinctLabels, freshLabels,
          fun position stage found => provided stage position found⟩
      · intro wired stage position found
        exact wired.provided position stage found

theorem wired_of_checkLinks {pipeline : Pipeline} (accepted : pipeline.checkLinks = .ok ()) :
    pipeline.Wired :=
  (wiringFault?_eq_none_iff pipeline).mp (checkLinks_eq_ok_iff_wiringFault?.mp accepted)

theorem checkLinks_of_wired {pipeline : Pipeline} (wired : pipeline.Wired) :
    pipeline.checkLinks = .ok () :=
  checkLinks_eq_ok_iff_wiringFault?.mpr ((wiringFault?_eq_none_iff pipeline).mpr wired)

/-- The strict check accepts exactly the pipelines in which every link leads somewhere: it lets
no fault through and refuses nothing else. -/
theorem checkLinks_accepts_iff_wired (pipeline : Pipeline) :
    pipeline.checkLinks = .ok () ↔ pipeline.Wired := by
  rw [checkLinks_eq_ok_iff_wiringFault?, wiringFault?_eq_none_iff]

end FilterGraph.Pipeline
