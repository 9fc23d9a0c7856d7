/-
This file says what the log of an expression tells.

Work that notes events is described by the value that it gives and the events that it adds to
those noted before. A description of work done in steps is put together from those of its steps:
the events of a later step stand behind those of an earlier one. So the events of an expression are
found along its definition, and are those of the stages in their order.
-/

import FilterGraph.Log
import FilterGraph.Proofs.Streams

namespace FilterGraph

/-! ### Logged work -/

namespace Logged

variable {α β : Type}

/-- The work gives the value and adds the events to those that were noted before. -/
def Gives (work : Logged α) (value : α) (events : List Event) : Prop :=
  ∀ before, work.run before = (value, before ++ events)

theorem gives_pure (value : α) : Gives (pure value) value [] :=
  fun before => congrArg (Prod.mk value) (List.append_nil before).symm

theorem gives_note (event : Event) : Gives (note event) () [event] :=
  fun _ => rfl

/-- The events of the second step stand behind those of the first. -/
theorem Gives.bind {work : Logged α} {next : α → Logged β} {value : α} {result : β}
    {events others : List Event} (first : Gives work value events)
    (second : Gives (next value) result others) :
    Gives (work >>= next) result (events ++ others) := by
  intro before
  rw [StateT.run_bind, first before]
  show (next value).run (before ++ events) = _
  rw [second (before ++ events), List.append_assoc]

theorem Gives.map {work : Logged α} {value : α} {events : List Event} (function : α → β)
    (gives : Gives work value events) : Gives (function <$> work) (function value) events := by
  rw [map_eq_pure_bind, ← List.append_nil events]
  exact gives.bind (gives_pure (function value))

/-- Work that is done for one item after the other notes the events of each in its turn. -/
theorem gives_mapM {work : α → Logged β} {value : α → β} {events : α → List Event}
    (gives : ∀ item, Gives (work item) (value item) (events item)) (items : List α) :
    Gives (items.mapM work) (items.map value) (items.flatMap events) := by
  induction items with
  | nil => exact gives_pure []
  | cons item others inductionHypothesis =>
    rw [List.mapM_cons, List.map_cons, List.flatMap_cons]
    exact (gives item).bind (inductionHypothesis.map (value item :: ·))

theorem Gives.events_eq {work : Logged α} {value : α} {events : List Event}
    (gives : Gives work value events) : work.events = events := by
  rw [Logged.events, gives []]
  exact List.nil_append events

end Logged

open Logged

/-! ### Links -/

/-- The links that are declared identifiers, each with the token that stands in its place. -/
def resolutions (declared links tokens : List String) : List Event :=
  ((links.zip tokens).filter fun written => written.1 ∈ declared).map fun written =>
    .resolved written.1 written.2

theorem resolutions_cons (declared : List String) (link : String) (links : List String)
    (token : String) (tokens : List String) :
    resolutions declared (link :: links) (token :: tokens) =
      (if link ∈ declared then [.resolved link token] else []) ++
        resolutions declared links tokens := by
  unfold resolutions
  rw [List.zip_cons_cons, List.filter_cons]
  by_cases member : link ∈ declared
  · simp only [member, decide_true, if_true, List.map_cons, List.singleton_append]
  · simp only [member, decide_false, Bool.false_eq_true, if_false, List.nil_append]

/-- Tokens behind those of the links are of no account. -/
theorem resolutions_append (declared links others tokens otherTokens : List String)
    (same : links.length = tokens.length) :
    resolutions declared (links ++ others) (tokens ++ otherTokens) =
      resolutions declared links tokens ++ resolutions declared others otherTokens := by
  unfold resolutions
  rw [List.zip_append same, List.filter_append, List.map_append]

namespace Pipeline

variable (pipeline : Pipeline)

/-- The links that are written in a row, looked up among the inputs of the pipeline. -/
def lookups (links : List String) : List Event :=
  resolutions pipeline.ids links (links.map pipeline.table.token)

theorem gives_lookUp (id : String) :
    Gives (pipeline.table.lookUp id) (pipeline.table.token id)
      (if id ∈ pipeline.ids then [.resolved id (pipeline.table.token id)] else []) := by
  have known : id ∈ pipeline.ids ↔ (pipeline.table.position? id).isSome := by
    rw [table, StreamTable.position?_ofSources, List.findIdx?_isSome, List.any_eq_true]
    simp only [ids, List.mem_map, decide_eq_true_eq]
  rw [StreamTable.lookUp, StreamTable.token]
  cases found : pipeline.table.position? id with
  | some position =>
    rw [if_pos (by rw [known, found]; rfl)]
    exact (gives_note _).bind (gives_pure _)
  | none =>
    rw [if_neg (by rw [known, found]; exact Bool.false_ne_true)]
    exact gives_pure id

theorem flatMap_lookups (links : List String) :
    (links.flatMap fun id =>
      if id ∈ pipeline.ids then [Event.resolved id (pipeline.table.token id)] else []) =
      pipeline.lookups links := by
  induction links with
  | nil => rfl
  | cons link others inductionHypothesis =>
    rw [List.flatMap_cons, inductionHypothesis, lookups, lookups, List.map_cons, resolutions_cons]

theorem gives_lookUpAll (links : List String) :
    Gives (pipeline.table.lookUpAll links) (pipeline.table.links links)
      (pipeline.lookups links) := by
  rw [← flatMap_lookups, ← List.append_nil (links.flatMap _)]
  refine (gives_mapM (fun id => ?_) links).bind (gives_pure _)
  rw [← List.append_nil (ite _ _ _)]
  exact (pipeline.gives_lookUp id).bind (gives_pure _)

end Pipeline

/-! ### Filters -/

namespace Filter

variable (filter : Filter)

/-- The filter is plain or of no known family, so that its text is its name. -/
def IsNameOnly : Prop :=
  (∃ plain, filter.family = .plain plain) ∨ ∃ name, filter.family = .other name

theorem isNameOnly_iff : filter.IsNameOnly ↔ filter.ignoresParameters = true := by
  unfold IsNameOnly ignoresParameters
  cases filter.family <;> simp

instance : Decidable filter.IsNameOnly :=
  decidable_of_iff _ filter.isNameOnly_iff.symm

/-- The warning that parameters are left out. -/
def warnings : List Event :=
  if filter.IsNameOnly ∧ filter.parameters.entries ≠ [] then
    [.ignoredParameters filter.name filter.parameters.display]
  else []

theorem gives_write (inputCount : Nat) :
    Gives (filter.write inputCount) (filter.segment inputCount) filter.warnings := by
  have warned : (filter.ignoresParameters && !filter.parameters.isEmpty) = true ↔
      filter.IsNameOnly ∧ filter.parameters.entries ≠ [] := by
    rw [isNameOnly_iff, Parameters.isEmpty, Bool.and_eq_true, Bool.not_eq_true',
      List.isEmpty_eq_false_iff]
  unfold write warnings
  by_cases ignored : filter.IsNameOnly ∧ filter.parameters.entries ≠ []
  · rw [if_pos (warned.mpr ignored), if_pos ignored]
    exact (gives_note _).bind (gives_pure _)
  · rw [if_neg (mt warned.mp ignored), if_neg ignored]
    exact gives_pure _

end Filter

/-! ### Stages -/

namespace Stage

variable (stage : Stage) (pipeline : Pipeline)

/-- What is told of a stage: parameters that are left out, the identifiers that are looked up and
declared, each with the token between the brackets in its place, and the text of the brackets and
what stands between them. -/
def account : List Event :=
  stage.filter.warnings ++
    resolutions pipeline.ids stage.lookedUp (Lexeme.tokens (stage.lexemes pipeline.table)) ++
    [.fragment stage.filter.name (Lexeme.spell (stage.lexemes pipeline.table))]

/-- The labels of a split are looked up, and a single label is not. -/
def outputLookups : List Event :=
  match stage.output with
  | .one _ => []
  | .many labels => pipeline.lookups labels

theorem resolutions_lookedUp :
    resolutions pipeline.ids stage.lookedUp (Lexeme.tokens (stage.lexemes pipeline.table)) =
      pipeline.lookups stage.inputs.toList ++ stage.outputLookups pipeline := by
  rw [tokens_lexemes, lookedUp, resolutions_append _ _ _ _ _ (List.length_map _).symm,
    writtenOutput, outputLookups]
  cases stage.output with
  | one label => rfl
  | many labels => rfl

theorem gives_writeOutput :
    Gives (stage.writeOutput pipeline.table) (stage.outputSegment pipeline.table)
      (stage.outputLookups pipeline) := by
  rw [writeOutput, outputSegment, outputLookups]
  cases stage.output with
  | one label => exact gives_pure _
  | many labels => exact (pipeline.gives_lookUpAll labels).map _

theorem gives_write :
    Gives (stage.write pipeline.table) (stage.fragment pipeline.table)
      (stage.account pipeline) := by
  rw [account, resolutions_lookedUp, spell_lexemes, List.append_assoc, List.append_assoc]
  exact (stage.filter.gives_write _).bind <| (pipeline.gives_lookUpAll _).bind <|
    (stage.gives_writeOutput pipeline).bind <| (gives_note _).bind (gives_pure _)

/-- The text of the stage is the only fragment of which is told. -/
theorem fragments_account :
    (stage.account pipeline).filterMap (fun event => event.fields.lookup "fragment") =
      [stage.fragment pipeline.table] := by
  have warnings : stage.filter.warnings.filterMap
      (fun event => event.fields.lookup "fragment") = [] := by
    unfold Filter.warnings
    split <;> rfl
  have resolved : ∀ declared links tokens, (resolutions declared links tokens).filterMap
      (fun event => event.fields.lookup "fragment") = [] := by
    intro declared links tokens
    rw [resolutions, List.filterMap_map]
    exact List.filterMap_eq_nil_iff.mpr fun _ _ => rfl
  rw [account, List.filterMap_append, List.filterMap_append, warnings, resolved, spell_lexemes]
  rfl

end Stage

/-! ### Expressions -/

namespace Pipeline

variable (pipeline : Pipeline)

/-- What is told of an expression: its stages in their order, then the whole. -/
def account : List Event :=
  (pipeline.stages.flatMap fun stage => stage.account pipeline) ++
    [.compiled pipeline.stages.length pipeline.sources.length]

theorem gives_writeGraph (layout : Layout) :
    Gives (pipeline.writeGraph layout) (pipeline.graph layout) pipeline.account :=
  (gives_mapM (fun stage => stage.gives_write pipeline) pipeline.stages).bind <|
    (gives_note _).bind (gives_pure _)

/-- Refused links leave no events, since they are looked at before anything is written. -/
theorem gives_writeExpression (options : GraphOptions) :
    Gives (pipeline.writeExpression options) (pipeline.expression options)
      (match pipeline.expression options with
        | .error _ => []
        | .ok _ => pipeline.account) := by
  unfold writeExpression expression
  cases options.linkCheck with
  | lenient => exact (pipeline.gives_writeGraph _).map _
  | strict =>
    cases pipeline.checkLinks with
    | error error => exact gives_pure _
    | ok _ => exact (pipeline.gives_writeGraph _).map _

/-- The fragments of which is told are those of the pipeline. -/
theorem fragments_account :
    pipeline.account.filterMap (fun event => event.fields.lookup "fragment") =
      pipeline.fragments := by
  have stages : (pipeline.stages.flatMap fun stage => stage.account pipeline).filterMap
      (fun event => event.fields.lookup "fragment") = pipeline.fragments := by
    rw [List.filterMap_flatMap]
    simp only [Stage.fragments_account]
    exact List.map_eq_flatMap.symm
  rw [account, List.filterMap_append, stages]
  exact List.append_nil _

/-- Every event is shown where nothing is left out. -/
theorem isShown_trace (event : Event) : event.isShown .trace = true := by
  cases event <;> rfl

/-- Writing an expression and noting events gives the expression, and either the links are refused
and no event is noted, or the events shown at the lowest level are these. For each stage in its
order there is a warning if its filter is only a name and has parameters, then each declared
identifier among the inputs and among the labels of a split, with the token between the brackets in
its place, then the text made of these brackets. At the end stands the number of stages and of
inputs. The fragments, joined, are the expression. -/
theorem log_tells_what_is_written (options : GraphOptions) :
    (pipeline.writeExpression options).run [] =
      (pipeline.expression options, pipeline.expressionLog options) ∧
    ((∃ error, options.linkCheck = .strict ∧ pipeline.expression options = .error error ∧
        pipeline.expressionLog options = []) ∨
      ∃ text, pipeline.expression options = .ok text ∧
        (pipeline.expressionLog options).filter (·.isShown .trace) =
          (pipeline.stages.flatMap fun stage =>
            stage.filter.warnings ++
              resolutions pipeline.ids stage.lookedUp
                (Lexeme.tokens (stage.lexemes pipeline.table)) ++
              [.fragment stage.filter.name (Lexeme.spell (stage.lexemes pipeline.table))]) ++
          [.compiled pipeline.stages.length pipeline.sources.length] ∧
        options.layout.separator.intercalate
          ((pipeline.expressionLog options).filterMap
            fun event => event.fields.lookup "fragment") = text) := by
  have gives := pipeline.gives_writeExpression options
  have log : pipeline.expressionLog options = _ := gives.events_eq
  refine ⟨by rw [gives [], log, List.nil_append], ?_⟩
  cases written : pipeline.expression options with
  | error error =>
    rw [written] at log
    exact Or.inl ⟨error, ((expression_eq_error_iff _ _ _).mp written).1, rfl, log⟩
  | ok text =>
    rw [written] at log
    have joined := ((expression_eq_ok_iff _ _ _).mp written).2
    refine Or.inr ⟨text, rfl, ?_, ?_⟩
    · rw [log, List.filter_eq_self.mpr fun event _ => isShown_trace event]
      rfl
    · rw [log]
      show options.layout.separator.intercalate (pipeline.account.filterMap _) = text
      rw [fragments_account]
      exact joined

end Pipeline

end FilterGraph
