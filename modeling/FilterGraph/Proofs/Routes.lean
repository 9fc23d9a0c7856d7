/-
This file proves that the text of an accepted pipeline leads every link to where the description
leads it.

Three ways of writing an identifier have to agree: input links and the labels of a split are
looked up among the declarations, while a single output label is written as it is. They agree
because the strict check keeps labels apart from declared identifiers, so looking a label up gives
the label itself. What the check cannot keep apart is a label and the stream of a declaration, and
where no label is spelled as one, every bracket of the text has one source.
-/

import FilterGraph.Proofs.Lexemes
import FilterGraph.Proofs.Tokens
import Mathlib.Logic.Basic
import Mathlib.Logic.ExistsUnique

namespace FilterGraph.Pipeline

/-! ### Labels of an accepted pipeline -/

theorem mem_labels_of_mem {pipeline : Pipeline} {stage : Stage} (member : stage ∈ pipeline.stages)
    {label : String} (provides : label ∈ stage.output.toList) : label ∈ pipeline.labels :=
  List.mem_flatMap.mpr ⟨stage, member, provides⟩

namespace Wired

variable {pipeline : Pipeline} (wired : pipeline.Wired)

include wired

/-- Only one stage provides a label. -/
theorem provides_unique {first second : Nat} {label : String}
    (firstProvides : pipeline.Provides first label)
    (secondProvides : pipeline.Provides second label) : first = second := by
  obtain ⟨_, firstFound, inFirst⟩ := firstProvides
  obtain ⟨_, secondFound, inSecond⟩ := secondProvides
  obtain ⟨firstBound, rfl⟩ := List.getElem?_eq_some_iff.mp firstFound
  obtain ⟨secondBound, rfl⟩ := List.getElem?_eq_some_iff.mp secondFound
  have apart := List.pairwise_iff_getElem.mp (List.pairwise_flatMap.mp wired.distinctLabels).2
  rcases Nat.lt_trichotomy first second with before | same | behind
  · exact absurd rfl (apart first second firstBound secondBound before _ inFirst _ inSecond)
  · exact same
  · exact absurd rfl (apart second first secondBound firstBound behind _ inSecond _ inFirst)

/-- Labels are written as they are, in a split as well. -/
theorem writtenOutput_eq {stage : Stage} (member : stage ∈ pipeline.stages) :
    stage.writtenOutput pipeline.table = stage.output := by
  have unchanged : ∀ label ∈ stage.output.toList, pipeline.table.token label = label :=
    fun label provides => wired.token_of_label (mem_labels_of_mem member provides)
  rw [Stage.writtenOutput]
  cases output : stage.output with
  | one label => rfl
  | many labels =>
    rw [output] at unchanged
    exact congrArg Labels.many (List.map_congr_left unchanged |>.trans (List.map_id' labels))

/-- The links of a stage's text: the tokens of its inputs, then its labels. -/
theorem tokens_lexemes {stage : Stage} (member : stage ∈ pipeline.stages) :
    Lexeme.tokens (stage.lexemes pipeline.table) =
      stage.inputs.toList.map pipeline.table.token ++ stage.output.toList := by
  rw [Stage.tokens_lexemes, wired.writtenOutput_eq member]

theorem knows_of_input {stage : Stage} (member : stage ∈ pipeline.stages) {link : String}
    (taken : link ∈ stage.inputs.toList) : pipeline.Knows link := by
  obtain ⟨position, found⟩ := List.mem_iff_getElem?.mp member
  rcases wired.provided position stage found link taken with declared | ⟨earlier, _, provides⟩
  · exact Or.inl declared
  · exact Or.inr provides.mem_labels

/-- Whatever stands between brackets is the token of an identifier that stands for something. -/
theorem exists_knows_of_mem_tokens {layout : Layout} {token : String}
    (written : token ∈ Lexeme.tokens (pipeline.lexemes layout)) :
    ∃ identifier, pipeline.Knows identifier ∧ pipeline.table.token identifier = token := by
  rw [Pipeline.tokens_lexemes, List.mem_flatMap] at written
  obtain ⟨stage, member, inStage⟩ := written
  rw [wired.tokens_lexemes member, List.mem_append] at inStage
  rcases inStage with inInputs | inOutput
  · obtain ⟨link, taken, rfl⟩ := List.mem_map.mp inInputs
    exact ⟨link, wired.knows_of_input member taken, rfl⟩
  · have provided := mem_labels_of_mem member inOutput
    exact ⟨token, Or.inr provided, wired.token_of_label provided⟩

theorem mem_tokens_of_label (layout : Layout) {label : String}
    (provided : label ∈ pipeline.labels) : label ∈ Lexeme.tokens (pipeline.lexemes layout) := by
  obtain ⟨stage, member, provides⟩ := List.mem_flatMap.mp provided
  rw [Pipeline.tokens_lexemes, List.mem_flatMap]
  refine ⟨stage, member, ?_⟩
  rw [wired.tokens_lexemes member]
  exact List.mem_append_right _ provides

end Wired

/-! ### Brackets with one source -/

/-- There is exactly one identifier that stands for something and is written as the token. -/
def HasOneSource (pipeline : Pipeline) (token : String) : Prop :=
  ∃! identifier, pipeline.Knows identifier ∧ pipeline.table.token identifier = token

/-- Every bracket has one source exactly when no label is spelled as the stream of a declaration:
such a label is written somewhere, and there it might be the stream as well. -/
theorem Wired.hasOneSource_iff {pipeline : Pipeline} (wired : pipeline.Wired) (layout : Layout) :
    (∀ token ∈ Lexeme.tokens (pipeline.lexemes layout), pipeline.HasOneSource token) ↔
      ∀ label id, ¬ pipeline.Captures label id := by
  constructor
  · intro sources label id captures
    have provided := captures.1
    have declared := captures.declared
    have same := (wired.token_of_declared_eq_iff_captures declared provided).mpr captures
    have written := wired.mem_tokens_of_label layout provided
    have equal : id = label := (sources label written).unique
      ⟨Or.inl declared, same.trans (wired.token_of_label provided)⟩
      ⟨Or.inr provided, wired.token_of_label provided⟩
    exact wired.freshLabels label provided (equal ▸ declared)
  · intro free token written
    obtain ⟨identifier, knows, rfl⟩ := wired.exists_knows_of_mem_tokens written
    refine ⟨identifier, ⟨knows, rfl⟩, ?_⟩
    rintro other ⟨knowsOther, same⟩
    refine Decidable.byContradiction fun different => ?_
    rcases (wired.token_eq_token_iff_captures different knowsOther knows).mp same with
      captures | captures
    · exact free _ _ captures
    · exact free _ _ captures

theorem expression_of_checkLinks {pipeline : Pipeline} (accepted : pipeline.checkLinks = .ok ())
    (layout : Layout) :
    pipeline.expression { linkCheck := .strict, layout } =
      .ok (Lexeme.spell (pipeline.lexemes layout)) := by
  simp only [expression, accepted, spell_lexemes]

/-- Labels of an accepted pipeline are written as they are, and two identifiers get the same token
only if one of them is a label that is spelled as the stream of the other. Where there is no such
label, every bracket of the strict expression has one source. What stands between brackets is what
was put between one pair of them when the text was written: a label may hold a closing bracket of
its own, so the pairs cannot always be told from the text alone. -/
theorem tokens_differ_unless_captured {pipeline : Pipeline}
    (accepted : pipeline.checkLinks = .ok ()) :
    (∀ label ∈ pipeline.labels, pipeline.table.token label = label) ∧
    (∀ first second, pipeline.Knows first → pipeline.Knows second → first ≠ second →
      (pipeline.table.token first = pipeline.table.token second ↔
        pipeline.Captures first second ∨ pipeline.Captures second first)) ∧
    ∀ layout,
      pipeline.expression { linkCheck := .strict, layout } =
        .ok (Lexeme.spell (pipeline.lexemes layout)) ∧
      ((∀ token ∈ Lexeme.tokens (pipeline.lexemes layout), pipeline.HasOneSource token) ↔
        ∀ label id, ¬ pipeline.Captures label id) := by
  have wired := wired_of_checkLinks accepted
  refine ⟨fun label => wired.token_of_label, ?_, ?_⟩
  · intro first second knowsFirst knowsSecond different
    exact wired.token_eq_token_iff_captures different knowsFirst knowsSecond
  · intro layout
    exact ⟨expression_of_checkLinks accepted layout, wired.hasOneSource_iff layout⟩

/-- A pipeline that the strict check accepts, with a label that is spelled as the stream of its
input. -/
def capturing : Pipeline where
  sources := [⟨"a", "a.mov"⟩]
  stages := [⟨.one "a", .bare "negate", .one "0:v"⟩]
  output := "b.avi"

theorem capturing_accepted : capturing.checkLinks = .ok () :=
  capturing.checkLinks_eq_verdict.trans rfl

/-- Different identifiers do get the same token. -/
theorem capturing_shares_token :
    capturing.checkLinks = .ok () ∧ capturing.Knows "a" ∧ capturing.Knows "0:v" ∧
      "a" ≠ "0:v" ∧ capturing.table.token "a" = capturing.table.token "0:v" := by
  have wired := wired_of_checkLinks capturing_accepted
  have captures : capturing.Captures "0:v" "a" := ⟨by decide, 0, rfl, by decide⟩
  refine ⟨capturing_accepted, Or.inl captures.declared, Or.inr captures.1, by decide, ?_⟩
  exact (wired.token_of_declared_eq_iff_captures captures.declared captures.1).mpr captures

/-- A split, and a stack that takes an input twice and one branch between. The branch is spelled
as a stream, but as that of no declaration. -/
def branching : Pipeline where
  sources := [⟨"left", "l.mov"⟩, ⟨"right", "r.mov"⟩]
  stages := [
    ⟨.one "right", .bare "negate", .many ["p", "2:v"]⟩,
    ⟨.many ["left", "2:v", "left"], .bare "hstack", .one "out"⟩]
  output := "out.avi"

theorem branching_accepted : branching.checkLinks = .ok () :=
  branching.checkLinks_eq_verdict.trans rfl

theorem branching_hasOneSource :
    branching.checkLinks = .ok () ∧
      ∀ token ∈ Lexeme.tokens (branching.lexemes .pretty), branching.HasOneSource token := by
  refine ⟨branching_accepted,
    ((tokens_differ_unless_captured branching_accepted).2.2 .pretty).2.mpr ?_⟩
  rintro label id ⟨provided, position, found, rfl⟩
  obtain ⟨bound, _⟩ := List.getElem?_eq_some_iff.mp found
  have short : position < 2 := bound
  match position, short with
  | 0, _ => exact absurd provided (by decide)
  | 1, _ => exact absurd provided (by decide)

/-! ### Where a link leads -/

/-- The link at that place of a stage's text leads to an input: the identifier is that of one
declaration only, and written as its stream. -/
def LeadsToInput (pipeline : Pipeline) (stage : Stage) (place : Nat) (link : String) : Prop :=
  ∃ source, (∀ other, pipeline.ids[other]? = some link ↔ other = source) ∧
    (Lexeme.tokens (stage.lexemes pipeline.table))[place]? = some (videoStream source)

/-- The link at that place of a stage's text leads to an earlier stage: the identifier is a label
of that stage only, and both stages write it as it is. -/
def LeadsToStage (pipeline : Pipeline) (position : Nat) (stage : Stage) (place : Nat)
    (link : String) : Prop :=
  ∃ producer < position, (∀ other, pipeline.Provides other link ↔ other = producer) ∧
    (Lexeme.tokens (stage.lexemes pipeline.table))[place]? = some link ∧
    ∃ provider, pipeline.stages[producer]? = some provider ∧
      provider.outputSegment pipeline.table =
        Lexeme.spell (provider.outputLexemes pipeline.table) ∧
      .link link ∈ provider.outputLexemes pipeline.table

namespace Wired

variable {pipeline : Pipeline} (wired : pipeline.Wired)

include wired

/-- The tokens of a stage begin with those of its inputs, at the same places. -/
theorem getElem?_tokens_lexemes {stage : Stage} (member : stage ∈ pipeline.stages) {place : Nat}
    {link : String} (taken : stage.inputs.toList[place]? = some link) :
    (Lexeme.tokens (stage.lexemes pipeline.table))[place]? = some (pipeline.table.token link) := by
  obtain ⟨bound, _⟩ := List.getElem?_eq_some_iff.mp taken
  rw [wired.tokens_lexemes member, List.getElem?_append_left (by rwa [List.length_map]),
    List.getElem?_map, taken, Option.map_some]

theorem leadsToInput_of_mem_ids {stage : Stage} (member : stage ∈ pipeline.stages) {place : Nat}
    {link : String} (taken : stage.inputs.toList[place]? = some link)
    (declared : link ∈ pipeline.ids) : pipeline.LeadsToInput stage place link := by
  obtain ⟨source, found⟩ := List.mem_iff_getElem?.mp declared
  refine ⟨source, fun other => ⟨fun again => wired.declared_unique again found, ?_⟩, ?_⟩
  · rintro rfl
    exact found
  · rw [wired.getElem?_tokens_lexemes member taken,
      pipeline.token_of_declared wired.distinctIds found]

/-- The provider of a label writes it where its output goes, alone or in a split. -/
theorem link_mem_outputLexemes {stage : Stage} (member : stage ∈ pipeline.stages) {label : String}
    (provides : label ∈ stage.output.toList) :
    .link label ∈ stage.outputLexemes pipeline.table := by
  rw [← Lexeme.mem_tokens_iff, Stage.tokens_outputLexemes, wired.writtenOutput_eq member]
  exact provides

theorem leadsToStage_of_provides {stage : Stage} (member : stage ∈ pipeline.stages) {place : Nat}
    {link : String} (taken : stage.inputs.toList[place]? = some link) {producer position : Nat}
    (before : producer < position) (provides : pipeline.Provides producer link) :
    pipeline.LeadsToStage position stage place link := by
  have label := provides.mem_labels
  obtain ⟨provider, found, inOutput⟩ := id provides
  refine ⟨producer, before, fun other => ⟨fun again => wired.provides_unique again provides, ?_⟩,
    ?_, provider, found, (provider.spell_outputLexemes pipeline.table).symm, ?_⟩
  · rintro rfl
    exact provides
  · rw [wired.getElem?_tokens_lexemes member taken, wired.token_of_label label]
  · exact wired.link_mem_outputLexemes (List.mem_of_getElem? found) inOutput

/-- No link leads to an input and to a stage: labels are not declared. -/
theorem not_leadsToInput_of_leadsToStage {position : Nat} {stage : Stage} {place : Nat}
    {link : String} (toStage : pipeline.LeadsToStage position stage place link) :
    ¬ pipeline.LeadsToInput stage place link := by
  rintro ⟨source, onlySource, _⟩
  obtain ⟨producer, _, onlyProducer, _⟩ := toStage
  have label := ((onlyProducer producer).mpr rfl).mem_labels
  exact wired.freshLabels link label (List.mem_of_getElem? ((onlySource source).mpr rfl))

end Wired

/-- The text of a stage leads every link it takes where the description leads it, to the one
declaration with that identifier or to the one stage, an earlier one, with that label. The place of
a link is counted in pairs of brackets as they were written, whatever stands between them. -/
theorem links_lead_to_one_source {pipeline : Pipeline} (accepted : pipeline.checkLinks = .ok ())
    {position : Nat} {stage : Stage} (found : pipeline.stages[position]? = some stage)
    {place : Nat} {link : String} (taken : stage.inputs.toList[place]? = some link) :
    pipeline.fragments[position]? = some (Lexeme.spell (stage.lexemes pipeline.table)) ∧
      Xor (pipeline.LeadsToInput stage place link)
        (pipeline.LeadsToStage position stage place link) := by
  have wired := wired_of_checkLinks accepted
  have member := List.mem_of_getElem? found
  constructor
  · rw [fragments, List.getElem?_map, found, Option.map_some, Stage.spell_lexemes]
  · rcases wired.provided position stage found link (List.mem_of_getElem? taken) with
      declared | ⟨producer, before, provides⟩
    · have toInput := wired.leadsToInput_of_mem_ids member taken declared
      exact Or.inl ⟨toInput, fun toStage =>
        wired.not_leadsToInput_of_leadsToStage toStage toInput⟩
    · have toStage := wired.leadsToStage_of_provides member taken before provides
      exact Or.inr ⟨toStage, wired.not_leadsToInput_of_leadsToStage toStage⟩

/-- The stack takes the second branch from the stage before it. -/
theorem branching_leads_to_split :
    branching.checkLinks = .ok () ∧
      ∃ stage, branching.stages[1]? = some stage ∧ stage.inputs.toList[1]? = some "2:v" ∧
        branching.fragments[1]? = some (Lexeme.spell (stage.lexemes branching.table)) ∧
        Xor (branching.LeadsToInput stage 1 "2:v") (branching.LeadsToStage 1 stage 1 "2:v") :=
  ⟨branching_accepted, _, rfl, rfl, links_lead_to_one_source branching_accepted rfl rfl⟩

end FilterGraph.Pipeline
