/-
This file says which fault the strict check reports when a pipeline has several.

The check makes three passes and stops at the first fault it meets, so a fault of an earlier pass
comes before all of a later one. Within the first two passes the first fault is the one at the
least place of a list of names. The third goes through the stages and, in each of them, through
the links that it takes, so its first fault is the least in the lexicographic order of stage and
place. When it runs, the labels of all stages are known: that is what tells a link that comes too
early from one that nothing provides.
-/

import FilterGraph.Proofs.Wiring
import Mathlib.Data.Prod.Lex

namespace FilterGraph

/-! ### The first fault of a list -/

/-- The first result for the elements of a list is that of the element at the least place with
one. -/
theorem findSome?_eq_some_iff_first {Item Result : Type} {result? : Item → Option Result}
    {items : List Item} {result : Result} :
    items.findSome? result? = some result ↔
      ∃ (place : Nat) (item : Item), items[place]? = some item ∧ result? item = some result ∧
        ∀ earlier < place, ∀ other, items[earlier]? = some other → result? other = none := by
  rw [List.findSome?_eq_some_iff]
  constructor
  · rintro ⟨before, item, behind, rfl, found, nothing⟩
    refine ⟨before.length, item, by simp, found, fun earlier less other atEarlier => ?_⟩
    rw [List.getElem?_append_left less] at atEarlier
    exact nothing other (List.mem_of_getElem? atEarlier)
  · rintro ⟨place, item, atPlace, found, nothing⟩
    obtain ⟨bound, rfl⟩ := List.getElem?_eq_some_iff.mp atPlace
    refine ⟨items.take place, _, items.drop (place + 1), ?_, found, fun other member => ?_⟩
    · rw [List.getElem_cons_drop, List.take_append_drop]
    · obtain ⟨earlier, atEarlier⟩ := List.mem_iff_getElem?.mp member
      rw [List.getElem?_take] at atEarlier
      split at atEarlier
      · next less => exact nothing earlier less other atEarlier
      · cases atEarlier

/-- The same for elements that come with their places. -/
theorem findSome?_zipIdx_eq_some_iff_first {Item Result : Type}
    {result? : Item × Nat → Option Result} {items : List Item} {result : Result} :
    items.zipIdx.findSome? result? = some result ↔
      ∃ (place : Nat) (item : Item), items[place]? = some item ∧
        result? (item, place) = some result ∧
        ∀ earlier < place, ∀ other, items[earlier]? = some other →
          result? (other, earlier) = none := by
  simp [findSome?_eq_some_iff_first]

/-- The least number with a property is zero, if that has it, and else one more than the least
whose successor has it. -/
theorem isLeast_succ_iff {holds : Nat → Prop} (notZero : ¬ holds 0) {number : Nat} :
    IsLeast {number | holds number} (number + 1) ↔
      IsLeast {number | holds (number + 1)} number := by
  refine and_congr Iff.rfl ⟨fun least other found => ?_, fun least other found => ?_⟩
  · exact Nat.le_of_succ_le_succ (least found)
  · cases other with
    | zero => exact absurd found notZero
    | succ other => exact Nat.succ_le_succ (least found)

/-- The name at that place was known before, or it stands at an earlier place as well. -/
def RepeatsAt (known names : List String) (place : Nat) : Prop :=
  ∃ name, names[place]? = some name ∧ (name ∈ known ∨ name ∈ names.take place)

theorem repeatsAt_zero_iff (known : List String) (name : String) (others : List String) :
    RepeatsAt known (name :: others) 0 ↔ name ∈ known := by
  simp [RepeatsAt]

/-- Behind a name, it is one of those known before. -/
theorem repeatsAt_succ_iff (known : List String) (name : String) (others : List String)
    (place : Nat) :
    RepeatsAt known (name :: others) (place + 1) ↔ RepeatsAt (name :: known) others place := by
  simp only [RepeatsAt, List.getElem?_cons_succ, List.take_succ_cons, List.mem_cons]
  refine exists_congr fun other => and_congr Iff.rfl ?_
  rw [or_left_comm, or_assoc]

/-- The name that is found is the one at the first place where a name is repeated. -/
theorem firstRepeated_eq_some_iff (known names : List String) (name : String) :
    firstRepeated known names = some name ↔
      ∃ place, names[place]? = some name ∧ IsLeast {place | RepeatsAt known names place} place := by
  induction names generalizing known with
  | nil => simp [firstRepeated]
  | cons first others inductionHypothesis =>
    rw [firstRepeated]
    split
    · next seen =>
      have atZero := (repeatsAt_zero_iff known first others).mpr seen
      constructor
      · rintro same
        exact ⟨0, same, atZero, fun _ _ => Nat.zero_le _⟩
      · rintro ⟨place, found, least⟩
        obtain rfl := Nat.le_zero.mp (least.2 atZero)
        exact found
    · next unseen =>
      have notAtZero := (repeatsAt_zero_iff known first others).not.mpr unseen
      have behind (place : Nat) : IsLeast {place | RepeatsAt known (first :: others) place}
          (place + 1) ↔ IsLeast {place | RepeatsAt (first :: known) others place} place := by
        simp only [isLeast_succ_iff notAtZero, repeatsAt_succ_iff]
      rw [inductionHypothesis]
      constructor
      · rintro ⟨place, found, least⟩
        exact ⟨place + 1, found, (behind place).mpr least⟩
      · rintro ⟨place, found, least⟩
        cases place with
        | zero => exact absurd least.1 notAtZero
        | succ place => exact ⟨place, found, (behind place).mp least⟩

namespace Pipeline

/-! ### The first fault of the links -/

/-- The stage at that position takes the link at that place. -/
def TakesAt (pipeline : Pipeline) (position place : Nat) (link : String) : Prop :=
  ∃ stage, pipeline.stages[position]? = some stage ∧ stage.inputs.toList[place]? = some link

/-- The link that the stage at that position takes at that place is neither declared nor provided
by a stage before. -/
def DanglesAt (pipeline : Pipeline) (position place : Nat) : Prop :=
  ∃ link, pipeline.TakesAt position place link ∧ link ∉ pipeline.ids ∧
    ∀ earlier < position, ¬ pipeline.Provides earlier link

/-- No link dangles at an earlier stage, or at this stage and an earlier place. -/
def DanglesFirst (pipeline : Pipeline) (position place : Nat) : Prop :=
  IsLeast {spot : Nat ×ₗ Nat | pipeline.DanglesAt (ofLex spot).1 (ofLex spot).2}
    (toLex (position, place))

variable {pipeline : Pipeline}

theorem danglesFirst_iff {position place : Nat} :
    pipeline.DanglesFirst position place ↔ pipeline.DanglesAt position place ∧
      (∀ earlier < position, ∀ anywhere, ¬ pipeline.DanglesAt earlier anywhere) ∧
      ∀ before < place, ¬ pipeline.DanglesAt position before := by
  refine and_congr Iff.rfl ⟨fun least => ⟨?_, ?_⟩, ?_⟩
  · intro earlier less anywhere dangles
    have order := least (show toLex (earlier, anywhere) ∈ _ from dangles)
    rcases Prod.Lex.toLex_le_toLex.mp order with more | ⟨same, _⟩
    · exact Nat.lt_asymm less more
    · exact Nat.ne_of_gt less same
  · intro before less dangles
    have order := least (show toLex (position, before) ∈ _ from dangles)
    rcases Prod.Lex.toLex_le_toLex.mp order with more | ⟨_, notLess⟩
    · exact Nat.lt_irrefl _ more
    · exact Nat.not_le_of_lt less notLess
  · rintro ⟨noEarlier, noBefore⟩ spot dangles
    refine Prod.Lex.toLex_le_toLex.mpr ?_
    rcases Nat.lt_trichotomy position (ofLex spot).1 with less | same | more
    · exact Or.inl less
    · refine Or.inr ⟨same, Nat.le_of_not_lt fun less => noBefore _ less ?_⟩
      exact same ▸ dangles
    · exact absurd dangles (noEarlier _ more _)

/-- What is wrong with a link depends on whether a stage provides it after all. -/
theorem linkFault?_eq_some_iff {position : Nat} {link : String} {error : Error} :
    pipeline.linkFault? position link = some error ↔
      (link ∉ pipeline.ids ∧ ∀ earlier < position, ¬ pipeline.Provides earlier link) ∧
        ((∃ later ≥ position, pipeline.Provides later link) ∧ error = .earlyLink position link ∨
          (∀ other, ¬ pipeline.Provides other link) ∧ error = .unknownLink position link) := by
  rw [linkFault?]
  split
  · next declared => exact iff_of_false (by simp) fun fault => fault.1.1 declared
  · next undeclared =>
    cases produced : pipeline.producer? link with
    | none =>
      have nowhere := producer?_eq_none_iff.mp produced
      simp [undeclared, nowhere, eq_comm]
    | some producer =>
      obtain ⟨provides, least⟩ := producer?_eq_some_iff_isLeast.mp produced
      show (if producer < position then none else some _) = _ ↔ _
      by_cases early : producer < position
      · rw [if_pos early]
        exact iff_of_false (by simp) fun fault => fault.1.2 producer early provides
      · have notEarlier := Nat.le_of_not_lt early
        have noEarlier : ∀ earlier < position, ¬ pipeline.Provides earlier link :=
          fun earlier less providesEarlier =>
            Nat.not_le_of_lt (less.trans_le notEarlier) (least providesEarlier)
        rw [if_neg early, Option.some_inj]
        constructor
        · rintro rfl
          exact ⟨⟨undeclared, noEarlier⟩, Or.inl ⟨⟨producer, notEarlier, provides⟩, rfl⟩⟩
        · rintro ⟨_, ⟨_, rfl⟩ | ⟨nowhere, _⟩⟩
          · rfl
          · exact absurd provides (nowhere producer)

theorem TakesAt.unique {position place : Nat} {link other : String}
    (taken : pipeline.TakesAt position place link)
    (takenOther : pipeline.TakesAt position place other) : link = other := by
  obtain ⟨stage, found, atPlace⟩ := taken
  obtain ⟨stage', found', atPlace'⟩ := takenOther
  obtain rfl := Option.some.inj (found.symm.trans found')
  exact Option.some.inj (atPlace.symm.trans atPlace')

/-- A link dangles just if something is wrong with it. -/
theorem TakesAt.not_danglesAt_iff {position place : Nat} {link : String}
    (taken : pipeline.TakesAt position place link) :
    ¬ pipeline.DanglesAt position place ↔ pipeline.linkFault? position link = none := by
  rw [linkFault?_eq_none_iff]
  constructor
  · intro notDangling
    by_contra nowhere
    obtain ⟨undeclared, noEarlier⟩ := not_or.mp nowhere
    exact notDangling ⟨link, taken, undeclared, fun earlier less provides =>
      noEarlier ⟨earlier, less, provides⟩⟩
  · rintro somewhere ⟨other, takenOther, undeclared, noEarlier⟩
    obtain rfl := taken.unique takenOther
    rcases somewhere with declared | ⟨earlier, less, provides⟩
    · exact undeclared declared
    · exact noEarlier earlier less provides

theorem stageFault?_eq_none_iff_not_danglesAt {position : Nat} {stage : Stage}
    (found : pipeline.stages[position]? = some stage) :
    pipeline.stageFault? position stage = none ↔ ∀ place, ¬ pipeline.DanglesAt position place := by
  rw [stageFault?, List.findSome?_eq_none_iff]
  constructor
  · rintro noFault place dangles
    obtain ⟨link, taken, _⟩ := id dangles
    obtain ⟨stage', found', atPlace⟩ := id taken
    obtain rfl := Option.some.inj (found.symm.trans found')
    exact taken.not_danglesAt_iff.mpr (noFault link (List.mem_of_getElem? atPlace)) dangles
  · intro noneDangles link member
    obtain ⟨place, atPlace⟩ := List.mem_iff_getElem?.mp member
    exact TakesAt.not_danglesAt_iff ⟨stage, found, atPlace⟩ |>.mp (noneDangles place)

theorem stageFault?_eq_some_iff {position : Nat} {stage : Stage} {error : Error}
    (found : pipeline.stages[position]? = some stage) :
    pipeline.stageFault? position stage = some error ↔
      ∃ place link, pipeline.TakesAt position place link ∧
        pipeline.linkFault? position link = some error ∧
        ∀ before < place, ¬ pipeline.DanglesAt position before := by
  have takesAt_iff (place : Nat) (link : String) :
      stage.inputs.toList[place]? = some link ↔ pipeline.TakesAt position place link := by
    simp [TakesAt, found]
  rw [stageFault?, findSome?_eq_some_iff_first]
  simp only [takesAt_iff]
  refine exists_congr fun place => exists_congr fun link => ?_
  refine and_congr_right fun taken => and_congr_right fun _ => ?_
  refine forall₂_congr fun before less => ?_
  constructor
  · rintro noFault dangles
    obtain ⟨other, takenOther, _⟩ := id dangles
    exact takenOther.not_danglesAt_iff.mpr (noFault other takenOther) dangles
  · exact fun notDangling other takenOther => takenOther.not_danglesAt_iff.mp notDangling

/-- The third pass reports what is wrong with the first link that dangles. -/
theorem linkPass_eq_some_iff {error : Error} :
    (pipeline.stages.zipIdx.findSome? fun (stage, position) =>
        pipeline.stageFault? position stage) = some error ↔
      ∃ position place link, pipeline.TakesAt position place link ∧
        pipeline.DanglesFirst position place ∧ pipeline.linkFault? position link = some error := by
  rw [findSome?_zipIdx_eq_some_iff_first]
  constructor
  · rintro ⟨position, stage, found, inStage, noEarlier⟩
    obtain ⟨place, link, taken, fault, noBefore⟩ := (stageFault?_eq_some_iff found).mp inStage
    refine ⟨position, place, link, taken, danglesFirst_iff.mpr ⟨?_, ?_, noBefore⟩, fault⟩
    · by_contra notDangling
      rw [taken.not_danglesAt_iff, fault] at notDangling
      cases notDangling
    · intro earlier less anywhere dangles
      obtain ⟨_, ⟨stage', found', _⟩, _⟩ := id dangles
      have noFault := noEarlier earlier less stage' found'
      exact (stageFault?_eq_none_iff_not_danglesAt found').mp noFault anywhere dangles
  · rintro ⟨position, place, link, taken, first, fault⟩
    obtain ⟨_, noEarlier, noBefore⟩ := danglesFirst_iff.mp first
    obtain ⟨stage, found, _⟩ := id taken
    have inStage := (stageFault?_eq_some_iff found).mpr ⟨place, link, taken, fault, noBefore⟩
    refine ⟨position, stage, found, inStage, fun earlier less other found' => ?_⟩
    exact (stageFault?_eq_none_iff_not_danglesAt found').mpr (noEarlier earlier less)

/-! ### The first fault of a pipeline -/

/-- No two declarations share an identifier, no two labels are the same, and no label is
declared. -/
structure DistinctNames (pipeline : Pipeline) : Prop where
  ids : pipeline.ids.Nodup
  labels : pipeline.labels.Nodup
  fresh : ∀ label ∈ pipeline.labels, label ∉ pipeline.ids

/-- The fault that comes first, as an error. Repeated identifiers come before repeated labels, and
both before links that dangle; of the faults of one kind, the one at the least place counts. -/
inductive FirstFault (pipeline : Pipeline) : Error → Prop where
  | duplicateInput {place : Nat} {id : String}
      (first : IsLeast {place | RepeatsAt [] pipeline.ids place} place)
      (found : pipeline.ids[place]? = some id) :
      FirstFault pipeline (.duplicateInput id)
  | duplicateLabel {place : Nat} {label : String} (distinctIds : pipeline.ids.Nodup)
      (first : IsLeast {place | RepeatsAt pipeline.ids pipeline.labels place} place)
      (found : pipeline.labels[place]? = some label) :
      FirstFault pipeline (.duplicateLabel label)
  | earlyLink {position place : Nat} {link : String} (distinct : pipeline.DistinctNames)
      (first : pipeline.DanglesFirst position place)
      (taken : pipeline.TakesAt position place link)
      (provided : ∃ later ≥ position, pipeline.Provides later link) :
      FirstFault pipeline (.earlyLink position link)
  | unknownLink {position place : Nat} {link : String} (distinct : pipeline.DistinctNames)
      (first : pipeline.DanglesFirst position place)
      (taken : pipeline.TakesAt position place link)
      (unprovided : ∀ other, ¬ pipeline.Provides other link) :
      FirstFault pipeline (.unknownLink position link)

theorem distinctNames_iff :
    pipeline.DistinctNames ↔
      firstRepeated [] pipeline.ids = none ∧ firstRepeated pipeline.ids pipeline.labels = none := by
  rw [firstRepeated_eq_none_iff, firstRepeated_eq_none_iff]
  constructor
  · rintro ⟨ids, labels, fresh⟩
    exact ⟨⟨ids, by simp⟩, labels, fresh⟩
  · rintro ⟨⟨ids, _⟩, labels, fresh⟩
    exact ⟨ids, labels, fresh⟩

/-- One pass after the other: each is only made if those before it found nothing. -/
theorem wiringFault?_eq_some_iff {error : Error} :
    pipeline.wiringFault? = some error ↔
      (∃ id, firstRepeated [] pipeline.ids = some id ∧ error = .duplicateInput id) ∨
      (pipeline.ids.Nodup ∧ ∃ label, firstRepeated pipeline.ids pipeline.labels = some label ∧
        error = .duplicateLabel label) ∨
      (pipeline.DistinctNames ∧ ∃ position place link, pipeline.TakesAt position place link ∧
        pipeline.DanglesFirst position place ∧
        pipeline.linkFault? position link = some error) := by
  have distinctIds : pipeline.ids.Nodup ↔ firstRepeated [] pipeline.ids = none := by
    simp [firstRepeated_eq_none_iff]
  rw [wiringFault?, ← linkPass_eq_some_iff, distinctNames_iff, distinctIds]
  cases firstRepeated [] pipeline.ids with
  | some id => simp [eq_comm]
  | none =>
    cases firstRepeated pipeline.ids pipeline.labels with
    | some label => simp [eq_comm]
    | none => simp

/-- The strict check reports the first fault, whichever others the pipeline has. -/
theorem checkLinks_reports_firstFault (pipeline : Pipeline) (error : Error) :
    pipeline.checkLinks = .error error ↔ pipeline.FirstFault error := by
  rw [checkLinks_eq_error_iff_wiringFault?, wiringFault?_eq_some_iff]
  simp only [firstRepeated_eq_some_iff, linkFault?_eq_some_iff]
  constructor
  · rintro (⟨id, ⟨place, found, first⟩, rfl⟩ | ⟨distinct, label, ⟨place, found, first⟩, rfl⟩ |
      ⟨distinct, position, place, link, taken, first, _, ⟨provided, rfl⟩ | ⟨unprovided, rfl⟩⟩)
    · exact .duplicateInput first found
    · exact .duplicateLabel distinct first found
    · exact .earlyLink distinct first taken provided
    · exact .unknownLink distinct first taken unprovided
  · intro fault
    have dangling {position place : Nat} {link : String}
        (first : pipeline.DanglesFirst position place)
        (taken : pipeline.TakesAt position place link) :
        link ∉ pipeline.ids ∧ ∀ earlier < position, ¬ pipeline.Provides earlier link := by
      obtain ⟨other, takenOther, dangles⟩ := (danglesFirst_iff.mp first).1
      exact taken.unique takenOther ▸ dangles
    cases fault with
    | duplicateInput first found => exact Or.inl ⟨_, ⟨_, found, first⟩, rfl⟩
    | duplicateLabel distinct first found =>
      exact Or.inr (Or.inl ⟨distinct, _, ⟨_, found, first⟩, rfl⟩)
    | earlyLink distinct first taken provided =>
      exact Or.inr (Or.inr ⟨distinct, _, _, _, taken, first, dangling first taken,
        Or.inl ⟨provided, rfl⟩⟩)
    | unknownLink distinct first taken unprovided =>
      exact Or.inr (Or.inr ⟨distinct, _, _, _, taken, first, dangling first taken,
        Or.inr ⟨unprovided, rfl⟩⟩)

end Pipeline

end FilterGraph
