/-
This file says when a switch is given on the command line, and what one more switch changes.

Arguments are taken from left to right. The name of a switch turns it where an option may stand:
no setting waits for its value there, and no double dash has come before. All other arguments leave
the switch alone: they do not turn it, and they do not see whether it was turned. The last is said
by forgetting the switch, which may be done before an argument is taken or after it. So a switch is
on in the end just if it is given somewhere, and arguments with one more switch are read as those
without it, except for the switch itself.

The switch for the log can be given by its letter as well, among other letters, and is left out
here.
-/

import FilterGraph.CommandLine.Arguments
import FilterGraph.Proofs.Json.Drafts

namespace FilterGraph.CommandLine

open Json

/-! ### Names of switches -/

/-- The long name of a switch. -/
def Switch.name : Switch → String
  | filterComplex => "filter-complex"
  | arguments => "args"
  | run => "run"
  | strict => "strict"
  | pretty => "pretty"
  | verbose => "verbose"

/-- The argument that gives a switch by its name. -/
def Switch.option (switch : Switch) : String :=
  "--" ++ switch.name

/-- A long name stands for a switch just if it is the name of that switch. -/
theorem lookup_longNames_iff {name : String} {switch : Switch} :
    longNames.lookup name = some (.switch switch) ↔ name = switch.name := by
  constructor
  · intro found
    obtain ⟨before, after, split, _⟩ := List.lookup_eq_some_iff.mp found
    have listed : (name, Meaning.switch switch) ∈ longNames :=
      split ▸ List.mem_append_right _ List.mem_cons_self
    simp only [longNames, List.mem_cons, Prod.mk.injEq, Meaning.switch.injEq, reduceCtorEq,
      and_false, List.not_mem_nil, or_false] at listed
    rcases listed with ⟨rfl, rfl⟩ | ⟨rfl, rfl⟩ | ⟨rfl, rfl⟩ | ⟨rfl, rfl⟩ | ⟨rfl, rfl⟩ |
      ⟨rfl, rfl⟩ <;> rfl
  · rintro rfl
    cases switch <;> rfl

/-- The only switch with a letter is the one for the log. -/
theorem eq_verbose_of_lookup_letters {letter : Char} {switch : Switch}
    (found : letters.lookup letter = some (.switch switch)) : switch = .verbose := by
  obtain ⟨before, after, split, _⟩ := List.lookup_eq_some_iff.mp found
  have listed : (letter, Meaning.switch switch) ∈ letters :=
    split ▸ List.mem_append_right _ List.mem_cons_self
  simp only [letters, List.mem_cons, Prod.mk.injEq, Meaning.switch.injEq, reduceCtorEq, and_false,
    List.not_mem_nil, or_false] at listed
  exact listed.2

namespace Given

/-! ### Taking arguments in steps -/

theorem takeAll_cons (given : Given) (argument : String) (others : List String) :
    given.takeAll (argument :: others) =
      given.take argument >>= fun next => next.takeAll others := by
  rw [takeAll]
  cases given.take argument <;> rfl

theorem takeAll_append (given : Given) (before after : List String) :
    given.takeAll (before ++ after) = given.takeAll before >>= fun next => next.takeAll after := by
  induction before generalizing given with
  | nil => rfl
  | cons argument others inductionHypothesis =>
    rw [List.cons_append, takeAll_cons, takeAll_cons]
    cases given.take argument with
    | error stop => rfl
    | ok next => exact inductionHypothesis next

theorem takeLetters_cons_of_switch (given : Given) {letter : Char} {switch : Switch}
    (found : letters.lookup letter = some (.switch switch)) (rest : List Char) :
    given.takeLetters (letter :: rest) =
      given.turn switch >>= fun next => next.takeLetters rest := by
  simp only [takeLetters, found]
  cases given.turn switch <;> rfl

/-- An option may stand next. -/
def IsOpen (given : Given) : Prop :=
  given.waiting = none ∧ given.onlyDescription = false

/-- An option begins with a dash and goes on. -/
theorem looksLikeOption_iff {text : List Char} :
    looksLikeOption text = true ↔ ∃ next rest, text = '-' :: next :: rest := by
  match text with
  | [] => simp [looksLikeOption]
  | [first] => simp [looksLikeOption]
  | first :: next :: rest => simp [looksLikeOption]

section

variable {given : Given} (isOpen : given.IsOpen) {argument : String} {text : List Char}

include isOpen

theorem take_dashes (dashes : argument.toList = ['-', '-']) :
    given.take argument = .ok { given with onlyDescription := true } := by
  obtain ⟨waiting, options⟩ := isOpen
  simp [take, waiting, options, dashes, looksLikeOption]

/-- Behind two dashes there is a long name, and a value behind an equals sign. -/
theorem take_long (long : argument.toList = '-' :: '-' :: text) (more : text ≠ []) :
    given.take argument = given.takeLong (String.ofList (text.takeWhile (· ≠ '=')))
      (if (text.dropWhile (· ≠ '=')).isEmpty then none
        else some (String.ofList ((text.dropWhile (· ≠ '=')).drop 1))) := by
  obtain ⟨waiting, options⟩ := isOpen
  simp [take, waiting, options, long, looksLikeOption]

/-- Behind one dash there are letters. -/
theorem take_letters {letter : Char} (short : argument.toList = '-' :: letter :: text)
    (single : letter ≠ '-') : given.take argument = given.takeLetters (letter :: text) := by
  obtain ⟨waiting, options⟩ := isOpen
  simp [take, waiting, options, short, looksLikeOption, single]

end

/-- A long option is that of a switch if the name is and there is no value. -/
theorem eq_option_of_long {argument : String} {text : List Char} {switch : Switch}
    (long : argument.toList = '-' :: '-' :: text)
    (name : String.ofList (text.takeWhile (· ≠ '=')) = switch.name)
    (noValue : text.dropWhile (· ≠ '=') = []) : argument = switch.option := by
  have whole : text.takeWhile (· ≠ '=') = text := by
    have parts := List.takeWhile_append_dropWhile (p := (· ≠ '=')) (l := text)
    rwa [noValue, List.append_nil] at parts
  refine String.toList_inj.mp ?_
  rw [long, Switch.option, String.toList_append, ← name, whole]
  exact congrArg (['-', '-'] ++ ·) String.toList_ofList.symm

/-- Where an option may stand, the name of a switch turns it. -/
theorem take_option {given : Given} (isOpen : given.IsOpen) (switch : Switch) :
    given.take switch.option = given.turn switch := by
  obtain ⟨waiting, options⟩ := isOpen
  cases switch <;> simp [take, waiting, options, Switch.option, Switch.name, looksLikeOption,
    takeLong, longNames, List.lookup_cons]

/-- The switch is given by its name among the arguments that come next, where an option may
stand. -/
def Meets (given : Given) (arguments : List String) (switch : Switch) : Prop :=
  ∃ before after next, arguments = before ++ switch.option :: after ∧
    given.takeAll before = .ok next ∧ next.IsOpen

theorem not_meets_nil (given : Given) (switch : Switch) : ¬given.Meets [] switch := by
  rintro ⟨before, after, _, split, _⟩
  exact List.append_ne_nil_of_right_ne_nil _ (List.cons_ne_nil _ _) split.symm

/-- A switch is given by the first argument or by those behind it. -/
theorem meets_cons_iff {given : Given} {argument : String} {others : List String}
    {switch : Switch} :
    given.Meets (argument :: others) switch ↔ given.IsOpen ∧ argument = switch.option ∨
      ∃ next, given.take argument = .ok next ∧ next.Meets others switch := by
  constructor
  · rintro ⟨before, after, last, split, taken, isOpen⟩
    cases before with
    | nil =>
      obtain ⟨rfl, rfl⟩ := List.cons.inj split
      obtain rfl := Except.ok.inj taken
      exact Or.inl ⟨isOpen, rfl⟩
    | cons first rest =>
      obtain ⟨rfl, rfl⟩ := List.cons.inj split
      rw [takeAll_cons, bind_eq_ok_iff] at taken
      obtain ⟨next, step, taken⟩ := taken
      exact Or.inr ⟨next, step, rest, after, last, rfl, taken, isOpen⟩
  · rintro (⟨isOpen, rfl⟩ | ⟨next, step, before, after, last, rfl, taken, isOpen⟩)
    · exact ⟨[], others, given, rfl, rfl, isOpen⟩
    · refine ⟨argument :: before, after, last, rfl, ?_, isOpen⟩
      rw [takeAll_cons, bind_eq_ok_iff]
      exact ⟨next, step, taken⟩

namespace Meets

variable {given : Given} {before after : List String} {switch : Switch}

theorem append_right (met : given.Meets before switch) (after : List String) :
    given.Meets (before ++ after) switch := by
  obtain ⟨start, rest, next, rfl, taken, isOpen⟩ := met
  exact ⟨start, rest ++ after, next, by simp, taken, isOpen⟩

theorem append_left {next : Given} (taken : given.takeAll before = .ok next)
    (met : next.Meets after switch) : given.Meets (before ++ after) switch := by
  obtain ⟨start, rest, last, rfl, reached, isOpen⟩ := met
  refine ⟨before ++ start, rest, last, by simp, ?_, isOpen⟩
  rw [takeAll_append, bind_eq_ok_iff]
  exact ⟨next, taken, reached⟩

end Meets

/-! ### Forgetting a switch -/

/-- What was given without the switch. -/
def without (switch : Switch) (given : Given) : Given :=
  { given with switches := given.switches.filter (· ≠ switch) }

theorem without_of_notMem {given : Given} {switch : Switch} (off : switch ∉ given.switches) :
    given.without switch = given := by
  have kept : given.switches.filter (· ≠ switch) = given.switches := by
    refine List.filter_eq_self.mpr fun other on => ?_
    exact decide_eq_true fun same => off (same ▸ on)
  rw [without, kept]

/-- A step that neither turns a switch nor sees whether it is turned: the switch may be forgotten
before the step or after it. -/
structure Leaves (switch : Switch) (given : Given) (step : Given → Except Stop Given) : Prop where
  forgotten : (step given).map (without switch) = step (given.without switch)
  kept : ∀ next, step given = .ok next → (switch ∈ next.switches ↔ switch ∈ given.switches)

namespace Leaves

variable {switch : Switch} {given : Given} {step second : Given → Except Stop Given}

/-- Steps that are the same with the switch and without it leave it alone together. -/
theorem congr (leaves : Leaves switch given step) (here : second given = step given)
    (there : second (given.without switch) = step (given.without switch)) :
    Leaves switch given second where
  forgotten := by rw [here, there, leaves.forgotten]
  kept := by
    rw [here]
    exact leaves.kept

theorem stop (stop : Stop) : Leaves switch given fun _ => .error stop where
  forgotten := rfl
  kept := nofun

/-- A change of other parts. -/
theorem change (change : Given → Given)
    (commutes : (change given).without switch = change (given.without switch))
    (switches : (change given).switches = given.switches) :
    Leaves switch given fun given => .ok (change given) where
  forgotten := congrArg Except.ok commutes
  kept := fun next same => by rw [← Except.ok.inj same, switches]

/-- Of two steps, one after the other, each has to leave the switch alone. -/
theorem bind (leaves : Leaves switch given step)
    (rest : ∀ next, step given = .ok next → Leaves switch next second) :
    Leaves switch given fun given => step given >>= second where
  forgotten := by
    rw [← leaves.forgotten]
    cases taken : step given with
    | error stop => rfl
    | ok next => exact (rest next taken).forgotten
  kept := fun last reached => by
    obtain ⟨next, taken, reached⟩ := bind_eq_ok_iff.mp reached
    exact ((rest next taken).kept last reached).trans (leaves.kept next taken)

end Leaves

/-! ### Arguments that leave a switch alone -/

section

variable (switch : Switch) (given : Given)

theorem describe_leaves (text : String) : Leaves switch given (·.describe text) := by
  cases description : given.description with
  | none =>
    exact (Leaves.change (fun given => { given with description := some text }) rfl rfl).congr
      (by simp only [describe, description]) (by simp only [describe, without, description])
  | some other =>
    exact (Leaves.stop .misused).congr (by simp only [describe, description])
      (by simp only [describe, without, description])

theorem set_leaves (setting : Setting) (value : String) :
    Leaves switch given (·.set setting value) := by
  cases setting with
  | program =>
    by_cases again : given.program.isSome
    · exact (Leaves.stop .misused).congr (if_pos again) (if_pos again)
    · exact (Leaves.change (fun given => { given with program := some value, waiting := none })
        rfl rfl).congr (if_neg again) (if_neg again)
  | config =>
    by_cases wrong : given.config.isSome ∨ value.isEmpty
    · exact (Leaves.stop .misused).congr (if_pos wrong) (if_pos wrong)
    · exact (Leaves.change (fun given => { given with config := some value, waiting := none })
        rfl rfl).congr (if_neg wrong) (if_neg wrong)

theorem await_leaves (setting : Setting) : Leaves switch given (·.await setting) :=
  .change (fun given => { given with waiting := some setting }) rfl rfl

variable {switch}

theorem turn_leaves {other : Switch} (differs : other ≠ switch) :
    Leaves switch given (·.turn other) := by
  have among : other ∈ (given.without switch).switches ↔ other ∈ given.switches := by
    simp [without, differs]
  by_cases on : other ∈ given.switches
  · exact (Leaves.stop .misused).congr (if_pos on) (if_pos (among.mpr on))
  · have leaves : Leaves switch given fun given =>
        .ok { given with switches := other :: given.switches } := by
      refine ⟨?_, fun next same => ?_⟩
      · simp [Except.map, without, differs]
      · rw [← Except.ok.inj same, List.mem_cons]
        exact or_iff_right differs.symm
    exact leaves.congr (if_neg on) (if_neg (mt among.mp on))

theorem mem_switches_of_turn {given next : Given} {switch : Switch}
    (turned : given.turn switch = .ok next) : switch ∈ next.switches := by
  rw [turn] at turned
  split at turned
  · cases turned
  · rw [← Except.ok.inj turned]
    exact List.mem_cons_self

/-- A long option leaves a switch alone if it does not name it, or has a value. -/
theorem takeLong_leaves {name : String} {value : Option String}
    (other : ¬(name = switch.name ∧ value = none)) :
    Leaves switch given (·.takeLong name value) := by
  simp only [takeLong]
  cases found : longNames.lookup name with
  | none => exact .stop .misused
  | some meaning =>
    cases meaning with
    | switch named =>
      cases value with
      | none =>
        refine given.turn_leaves fun same => other ⟨?_, rfl⟩
        exact lookup_longNames_iff.mp (same ▸ found)
      | some value => exact .stop .misused
    | setting setting =>
      cases value with
      | none => exact given.await_leaves switch setting
      | some value => exact given.set_leaves switch setting value
    | help => cases value <;> exact .stop _
    | version => cases value <;> exact .stop _

/-- Letters leave all switches alone but the one for the log. -/
theorem takeLetters_leaves (byName : switch ≠ .verbose) (text : List Char) :
    Leaves switch given (·.takeLetters text) := by
  induction text generalizing given with
  | nil => exact .change id rfl rfl
  | cons letter rest inductionHypothesis =>
    cases found : letters.lookup letter with
    | none =>
      simp only [takeLetters, found]
      exact .stop .misused
    | some meaning =>
      cases meaning with
      | switch other =>
        have named : other ≠ switch := by
          rw [eq_verbose_of_lookup_letters found]
          exact byName.symm
        exact ((given.turn_leaves named).bind fun next _ => inductionHypothesis next).congr
          (takeLetters_cons_of_switch given found rest) (takeLetters_cons_of_switch _ found rest)
      | setting setting =>
        simp only [takeLetters, found]
        split
        · exact given.await_leaves switch setting
        · exact given.set_leaves switch setting _
        · exact given.set_leaves switch setting _
      | help =>
        simp only [takeLetters, found]
        exact .stop .help
      | version =>
        simp only [takeLetters, found]
        exact .stop .version

/-- An argument leaves a switch alone if it does not give it. -/
theorem take_leaves (byName : switch ≠ .verbose) {argument : String}
    (other : ¬(given.IsOpen ∧ argument = switch.option)) :
    Leaves switch given (·.take argument) := by
  by_cases isOpen : given.IsOpen ∧ looksLikeOption argument.toList = true
  · obtain ⟨isOpen, option⟩ := isOpen
    have still : (given.without switch).IsOpen := isOpen
    obtain ⟨next, rest, spelled⟩ := looksLikeOption_iff.mp option
    by_cases long : next = '-'
    · subst long
      by_cases dashes : rest = []
      · subst dashes
        exact (Leaves.change (fun given => { given with onlyDescription := true })
          rfl rfl).congr (take_dashes isOpen spelled) (take_dashes still spelled)
      · refine (given.takeLong_leaves ?_).congr (take_long isOpen spelled dashes)
          (take_long still spelled dashes)
        rintro ⟨name, noValue⟩
        refine other ⟨isOpen, eq_option_of_long spelled name ?_⟩
        by_contra value
        rw [if_neg (mt List.isEmpty_iff.mp value)] at noValue
        cases noValue
    · exact (given.takeLetters_leaves byName (next :: rest)).congr
        (take_letters isOpen spelled long) (take_letters still spelled long)
  · cases waiting : given.waiting with
    | some setting =>
      by_cases option : looksLikeOption argument.toList = true
      · exact (Leaves.stop .misused).congr (by simp [take, waiting, option])
          (by simp [take, without, waiting, option])
      · exact (given.set_leaves switch setting argument).congr (by simp [take, waiting, option])
          (by simp [take, without, waiting, option])
    | none =>
      have described :
          given.onlyDescription = true ∨ (!looksLikeOption argument.toList) = true := by
        by_contra neither
        simp only [not_or, Bool.not_eq_true, Bool.not_eq_false'] at neither
        exact isOpen ⟨⟨waiting, neither.1⟩, neither.2⟩
      exact (given.describe_leaves switch argument).congr
        (by simp only [take, waiting, described, if_true])
        (by simp only [take, without, waiting, described, if_true])

end

/-! ### Giving a switch or not -/

section

variable {switch : Switch} (byName : switch ≠ .verbose)

include byName

/-- Arguments among which a switch is not given leave it alone, whether it was on before or not. -/
theorem takeAll_leaves {given : Given} {arguments : List String}
    (absent : ¬(given.without switch).Meets arguments switch) :
    Leaves switch given (·.takeAll arguments) := by
  induction arguments generalizing given with
  | nil => exact .change id rfl rfl
  | cons argument others inductionHypothesis =>
    rw [meets_cons_iff] at absent
    have first : Leaves switch given (·.take argument) :=
      given.take_leaves byName fun here => absent (Or.inl here)
    refine (first.bind fun next taken => inductionHypothesis fun met => ?_).congr
      (takeAll_cons _ _ _) (takeAll_cons _ _ _)
    -- Without the switch, the first argument leads to what it leads to, without the switch.
    have forgotten : (given.without switch).take argument = .ok (next.without switch) := by
      rw [← first.forgotten, taken]
      rfl
    exact absent (Or.inr ⟨_, forgotten, met⟩)

/-- A switch is on behind the arguments just if it was on before or is given among them. -/
theorem mem_switches_takeAll_iff {given last : Given} {arguments : List String}
    (taken : given.takeAll arguments = .ok last) :
    switch ∈ last.switches ↔ switch ∈ given.switches ∨ given.Meets arguments switch := by
  induction arguments generalizing given with
  | nil =>
    obtain rfl := Except.ok.inj taken
    exact (or_iff_left (given.not_meets_nil switch)).symm
  | cons argument others inductionHypothesis =>
    rw [takeAll_cons, bind_eq_ok_iff] at taken
    obtain ⟨next, step, taken⟩ := taken
    rw [inductionHypothesis taken, meets_cons_iff]
    by_cases here : given.IsOpen ∧ argument = switch.option
    · obtain ⟨isOpen, rfl⟩ := here
      have on : switch ∈ next.switches := mem_switches_of_turn (take_option isOpen switch ▸ step)
      simp [on, isOpen]
    · rw [(given.take_leaves byName here).kept next step]
      simp [here, step]

/-- One more switch in front of the arguments is turned, and changes nothing else. -/
theorem takeAll_option_cons {given : Given} (isOpen : given.IsOpen)
    (off : switch ∉ given.switches) {arguments : List String}
    (absent : ¬given.Meets arguments switch) :
    (given.takeAll (switch.option :: arguments)).map (without switch) = given.takeAll arguments ∧
      ∀ last, given.takeAll (switch.option :: arguments) = .ok last → switch ∈ last.switches := by
  have step : given.takeAll (switch.option :: arguments) =
      takeAll { given with switches := switch :: given.switches } arguments := by
    rw [takeAll_cons, take_option isOpen, turn, if_neg off]
    rfl
  have forgotten : without switch { given with switches := switch :: given.switches } = given := by
    refine Eq.trans ?_ (without_of_notMem off)
    simp [without]
  have leaves : Leaves switch { given with switches := switch :: given.switches }
      (·.takeAll arguments) := takeAll_leaves byName (by rwa [forgotten])
  rw [step]
  refine ⟨leaves.forgotten.trans (by rw [forgotten]), fun last reached => ?_⟩
  exact (leaves.kept last reached).mpr List.mem_cons_self

end

end Given

/-! ### What is read -/

namespace Given

/-- What is asked for comes from the switches: the mode, the strict check and the layout. -/
theorem asked_of_finish {given : Given} {invocation : Invocation}
    (finished : given.finish = .ok invocation) :
    given.mode = .ok invocation.mode ∧
      (invocation.strict = true ↔ .strict ∈ given.switches) ∧
      (invocation.pretty = true ↔ .pretty ∈ given.switches) := by
  rw [finish] at finished
  split at finished
  · next asked =>
    rw [← Except.ok.inj finished]
    exact ⟨asked, decide_eq_true_iff, decide_eq_true_iff⟩
  · cases finished

theorem mode_eq_showGraph_iff {given : Given} {mode : Mode} (asked : given.mode = .ok mode) :
    mode = .showGraph ↔ .filterComplex ∈ given.switches := by
  by_cases graph : Switch.filterComplex ∈ given.switches <;>
    by_cases arguments : Switch.arguments ∈ given.switches <;>
    by_cases run : Switch.run ∈ given.switches <;>
    simp [Given.mode, modes, graph, arguments, run] at asked <;> simp [← asked, graph]

theorem mode_without_pretty (given : Given) : (given.without .pretty).mode = given.mode := by
  simp [mode, modes, without, List.filter_cons]

/-- The pretty layout is asked for besides everything else. -/
theorem finish_of_mem_pretty {given : Given} (on : .pretty ∈ given.switches) :
    given.finish = (given.without .pretty).finish.map fun invocation =>
      { invocation with pretty := true } := by
  rw [finish, finish, mode_without_pretty]
  cases waiting : given.waiting <;> cases description : given.description <;>
    cases asked : given.mode <;> simp [without, waiting, description, on, Except.map]

end Given

/-- The switch is given by its name, somewhere among the arguments. -/
def Gives (arguments : List String) (switch : Switch) : Prop :=
  ({} : Given).Meets arguments switch

theorem mem_switches_iff_gives {switch : Switch} (byName : switch ≠ .verbose)
    {arguments : List String} {given : Given} (taken : ({} : Given).takeAll arguments = .ok given) :
    switch ∈ given.switches ↔ Gives arguments switch :=
  (Given.mem_switches_takeAll_iff byName taken).trans (or_iff_right List.not_mem_nil)

/-- The arguments with a switch that they do not give, put in where an option may stand. -/
def AddsSwitch (switch : Switch) (arguments more : List String) : Prop :=
  ∃ before after, arguments = before ++ after ∧ more = before ++ switch.option :: after ∧
    (∀ given, ({} : Given).takeAll before = .ok given → given.IsOpen) ∧ ¬Gives arguments switch

namespace Invocation

theorem ofArguments_eq_bind (arguments : List String) :
    ofArguments arguments = ({} : Given).takeAll arguments >>= Given.finish := by
  rw [ofArguments]
  cases ({} : Given).takeAll arguments <;> rfl

section

variable {arguments : List String} {invocation : Invocation}
  (read : ofArguments arguments = .ok invocation)

include read

theorem exists_takeAll_of_ofArguments : ∃ given, ({} : Given).takeAll arguments = .ok given ∧
    given.finish = .ok invocation := by
  rwa [ofArguments_eq_bind, bind_eq_ok_iff] at read

/-- A graph is shown by itself just if the switch for it is given. -/
theorem mode_eq_showGraph_iff_gives :
    invocation.mode = .showGraph ↔ Gives arguments .filterComplex := by
  obtain ⟨given, taken, finished⟩ := exists_takeAll_of_ofArguments read
  rw [Given.mode_eq_showGraph_iff (Given.asked_of_finish finished).1,
    mem_switches_iff_gives (by decide) taken]

/-- The strict check is asked for just if its switch is given. -/
theorem strict_iff_gives : invocation.strict = true ↔ Gives arguments .strict := by
  obtain ⟨given, taken, finished⟩ := exists_takeAll_of_ofArguments read
  rw [(Given.asked_of_finish finished).2.1, mem_switches_iff_gives (by decide) taken]

/-- The pretty layout is asked for just if its switch is given. -/
theorem pretty_iff_gives : invocation.pretty = true ↔ Gives arguments .pretty := by
  obtain ⟨given, taken, finished⟩ := exists_takeAll_of_ofArguments read
  rw [(Given.asked_of_finish finished).2.2, mem_switches_iff_gives (by decide) taken]

end

/-- Arguments with the switch for the pretty layout are read as those without it, and refused as
these are. -/
theorem ofArguments_of_addsSwitch {arguments more : List String}
    (adds : AddsSwitch .pretty arguments more) :
    ofArguments more = (ofArguments arguments).map fun invocation =>
      { invocation with pretty := true } := by
  obtain ⟨before, after, rfl, rfl, places, absent⟩ := adds
  simp only [ofArguments_eq_bind, Given.takeAll_append]
  cases start : ({} : Given).takeAll before with
  | error stop => rfl
  | ok given =>
    have off : .pretty ∉ given.switches := by
      rw [mem_switches_iff_gives (by decide) start]
      exact fun gives => absent (gives.append_right after)
    obtain ⟨forgotten, on⟩ := Given.takeAll_option_cons (by decide) (places given start) off
      fun met => absent (met.append_left start)
    show (given.takeAll (Switch.pretty.option :: after) >>= Given.finish) =
      (given.takeAll after >>= Given.finish).map _
    rw [← forgotten]
    cases reached : given.takeAll (Switch.pretty.option :: after) with
    | error stop => rfl
    | ok last => exact Given.finish_of_mem_pretty (on last reached)

end Invocation

end FilterGraph.CommandLine
