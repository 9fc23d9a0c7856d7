/-
The arguments of the command line: switches, options with a value, and the description. They are
taken one by one from left to right, and the first that does not fit ends the reading; what they
ask for together is looked at behind the last one.
-/

namespace FilterGraph.CommandLine

/-! ### What can be given -/

/-- An option without a value. -/
inductive Switch where
  | filterComplex
  | arguments
  | run
  | strict
  | pretty
  | verbose
  deriving DecidableEq, Repr

/-- An option with a value. -/
inductive Setting where
  | program
  | config
  deriving DecidableEq, Repr

/-- What a name of an option stands for. -/
inductive Meaning where
  | switch (switch : Switch)
  | setting (setting : Setting)
  | help
  | version
  deriving DecidableEq, Repr

/-- The meanings of long names. -/
def longNames : List (String × Meaning) :=
  [("filter-complex", .switch .filterComplex), ("args", .switch .arguments),
    ("run", .switch .run), ("strict", .switch .strict), ("pretty", .switch .pretty),
    ("verbose", .switch .verbose), ("ffmpeg", .setting .program), ("config", .setting .config),
    ("help", .help), ("version", .version)]

/-- The meanings of letters. -/
def letters : List (Char × Meaning) :=
  [('v', .switch .verbose), ('c', .setting .config), ('h', .help), ('V', .version)]

/-- Why the reading of arguments ends before its time. -/
inductive Stop where
  | misused
  | help
  | version
  deriving DecidableEq, Repr

/-! ### Taking arguments -/

/-- What was given so far. A setting may wait for its value, and behind a double dash nothing is an
option any more. -/
structure Given where
  description : Option String := none
  switches : List Switch := []
  program : Option String := none
  config : Option String := none
  waiting : Option Setting := none
  onlyDescription : Bool := false
  deriving DecidableEq, Repr

namespace Given

/-- There is one description. -/
def describe (given : Given) (text : String) : Except Stop Given :=
  match given.description with
  | some _ => .error .misused
  | none => .ok { given with description := some text }

/-- A switch is given at most once. -/
def turn (given : Given) (switch : Switch) : Except Stop Given :=
  if switch ∈ given.switches then .error .misused
  else .ok { given with switches := switch :: given.switches }

/-- A setting has at most one value. The path of a file is not empty, but the name of a program may
be. -/
def set (given : Given) (setting : Setting) (value : String) : Except Stop Given :=
  match setting with
  | .program =>
    if given.program.isSome then .error .misused
    else .ok { given with program := some value, waiting := none }
  | .config =>
    if given.config.isSome ∨ value.isEmpty then .error .misused
    else .ok { given with config := some value, waiting := none }

/-- The value of a setting comes next. -/
def await (given : Given) (setting : Setting) : Except Stop Given :=
  .ok { given with waiting := some setting }

/-- An option with a long name, and what stands behind an equals sign. -/
def takeLong (given : Given) (name : String) (value : Option String) : Except Stop Given :=
  match longNames.lookup name, value with
  | some (.switch switch), none => given.turn switch
  | some (.setting setting), some value => given.set setting value
  | some (.setting setting), none => given.await setting
  | some .help, none => .error .help
  | some .version, none => .error .version
  | _, _ => .error .misused

/-- Letters behind a single dash. A setting takes all that follows its letter as its value, without
an equals sign in front, or else the next argument. -/
def takeLetters (given : Given) : List Char → Except Stop Given
  | [] => .ok given
  | letter :: rest =>
    match letters.lookup letter with
    | some (.switch switch) =>
      match given.turn switch with
      | .error stop => .error stop
      | .ok given => takeLetters given rest
    | some (.setting setting) =>
      match rest with
      | [] => given.await setting
      | '=' :: value => given.set setting (String.ofList value)
      | value => given.set setting (String.ofList value)
    | some .help => .error .help
    | some .version => .error .version
    | none => .error .misused

/-- Whether an argument looks like an option; a dash alone does not. -/
def looksLikeOption (argument : List Char) : Bool :=
  argument.head? = some '-' && argument.length ≠ 1

/-- One more argument. -/
def take (given : Given) (argument : String) : Except Stop Given :=
  let text := argument.toList
  match given.waiting with
  | some setting =>
    if looksLikeOption text then .error .misused else given.set setting argument
  | none =>
    if given.onlyDescription ∨ !looksLikeOption text then given.describe argument
    else
      match text with
      | '-' :: '-' :: [] => .ok { given with onlyDescription := true }
      | '-' :: '-' :: option =>
        let name := option.takeWhile (· ≠ '=')
        let value := option.dropWhile (· ≠ '=')
        given.takeLong (String.ofList name)
          (if value.isEmpty then none else some (String.ofList (value.drop 1)))
      | text => given.takeLetters (text.drop 1)

/-- All arguments, from left to right. -/
def takeAll (given : Given) : List String → Except Stop Given
  | [] => .ok given
  | argument :: others =>
    match given.take argument with
    | .error stop => .error stop
    | .ok given => takeAll given others

end Given

/-! ### What is asked for -/

/-- What becomes of the description. -/
inductive Mode where
  | showCommand
  | showGraph
  | showArguments
  | run
  deriving DecidableEq, Repr

/-- A proper use of the command line. -/
structure Invocation where
  description : String
  mode : Mode := .showCommand
  strict : Bool := false
  pretty : Bool := false
  verbose : Bool := false
  program : Option String := none
  config : Option String := none
  deriving DecidableEq, Repr

/-- The switches that ask for a mode; at most one of them may be given. -/
def modes : List (Switch × Mode) :=
  [(.filterComplex, .showGraph), (.arguments, .showArguments), (.run, .run)]

namespace Given

/-- The mode that is asked for. -/
def mode (given : Given) : Except Stop Mode :=
  match modes.filter fun (switch, _) => switch ∈ given.switches with
  | [] => .ok .showCommand
  | [(_, mode)] => .ok mode
  | _ => .error .misused

/-- What all arguments together ask for. -/
def finish (given : Given) : Except Stop Invocation :=
  match given.waiting, given.description, given.mode with
  | none, some description, .ok mode =>
    .ok {
      description, mode
      strict := .strict ∈ given.switches
      pretty := .pretty ∈ given.switches
      verbose := .verbose ∈ given.switches
      program := given.program
      config := given.config }
  | _, _, _ => .error .misused

end Given

/-- Reads the arguments of the command line. -/
def Invocation.ofArguments (arguments : List String) : Except Stop Invocation :=
  match Given.takeAll {} arguments with
  | .error stop => .error stop
  | .ok given => given.finish

end FilterGraph.CommandLine
