/-
Running the commands of a script: what each of them writes, the status it ends with, and what it
changes for those behind it.

Test support, as told in `Rehearsal.Host`: the library does not depend on it.
-/

import FilterGraph.Rehearsal.FileTree
import FilterGraph.Rehearsal.Shell.Command
import FilterGraph.Rehearsal.Shell.Echo

namespace FilterGraph.Rehearsal.Shell

/-- What a script has around it: programs to be started, files, and a shell with its own `echo`. -/
structure Surroundings where
  start : (program : String) → (arguments : List String) → Ending
  find : (path : String) → Except SystemError Node
  escapes : Bool

/-- Whether what is written to a stream is shown. -/
structure Streams where
  output : Bool := true
  errors : Bool := false

/-- The state of a script that runs. -/
structure State where
  scope : Scope
  streams : Streams := {}
  stopsOnFailure : Bool := false
  output : String := ""
  ended : Option (Option ExitStatus) := none

/-! ### Statuses -/

/-- The status a number stands for; only its lowest byte counts, and zero is success. -/
def statusOf (number : Nat) : Option ExitStatus :=
  if number % 256 = 0 then none else some (.code (number % 256))

/-- The number of a status. -/
def statusNumber : Option ExitStatus → Nat
  | none => 0
  | some (.code number) => number
  | some (.signal number _) => 128 + number

/-- The signals that end a program, by their numbers. A script can be ended by one inside of
brackets as well, since its process is that of the whole. -/
def signals : List (Nat × String) :=
  [(1, "HUP"), (2, "INT"), (3, "QUIT"), (4, "ILL"), (5, "TRAP"), (6, "ABRT"), (7, "BUS"),
    (8, "FPE"), (9, "KILL"), (10, "USR1"), (11, "SEGV"), (12, "USR2"), (13, "PIPE"), (14, "ALRM"), (15, "TERM"),
    (16, "STKFLT"), (24, "XCPU"), (25, "XFSZ"), (26, "VTALRM"), (27, "PROF"), (29, "IO"),
    (30, "PWR"), (31, "SYS")]

/-- The number in a text, as far as a shell takes it. -/
def number? (text : String) : Option Nat :=
  let trimmed := text.trimAscii.toString.toList
  let digits := if trimmed.head? = some '+' then trimmed.drop 1 else trimmed
  if digits.isEmpty || !digits.all Char.isDigit then none
  else
    let number := digits.foldl (fun number digit => 10 * number + (digit.toNat - '0'.toNat)) 0
    if number < Nat.pow 2 31 then some number else none

/-- The whole number in a text. -/
def integer? (text : String) : Option Int :=
  match text.toList with
  | '-' :: digits => (number? (String.ofList digits)).map fun number => -(number : Int)
  | _ => (number? text).map Int.ofNat

/-! ### Changes of the state -/

namespace State

/-- Ends a command with a status. -/
def result (state : State) (number : Nat) : State :=
  { state with scope := { state.scope with status := number } }

/-- Ends the script. -/
def finish (state : State) (status : Option ExitStatus) : State :=
  { state with ended := some status }

/-- Ends the script with a number. -/
def leave (state : State) (number : Nat) : State :=
  state.finish (statusOf number)

/-- Writes a text. -/
def write (state : State) (text : String) : State :=
  if state.streams.output then { state with output := state.output ++ text } else state

/-- Gives a variable a value. -/
def assign (state : State) (name value : String) : State :=
  let others := state.scope.values.filter (·.1 ≠ name)
  { state with scope := { state.scope with values := (name, value) :: others } }

/-- Replaces the arguments. -/
def withArguments (state : State) (arguments : List String) : State :=
  { state with scope := { state.scope with arguments } }

/-- Whether a command behind this one is still to be done. -/
def goesOn (state : State) : Bool :=
  state.ended.isNone

/-- Whether the last command succeeded. -/
def succeeded (state : State) : Bool :=
  state.scope.status = 0

/-- Ends the script if it stops on failure, unless the failure is asked about. -/
def settle (state : State) (asked : Bool) : State :=
  if state.goesOn && state.stopsOnFailure && !asked && !state.succeeded then
    state.leave state.scope.status
  else state

/-- Leads a stream elsewhere. What goes to a file is not shown. -/
def lead (state : State) (redirection : Redirection) : State :=
  let shown :=
    redirection.toStream &&
      match state.scope.text redirection.target with
      | "1" => state.streams.output
      | "2" => state.streams.errors
      | _ => false
  match redirection.stream with
  | 1 => { state with streams := { state.streams with output := shown } }
  | 2 => { state with streams := { state.streams with errors := shown } }
  | _ => state

end State

/-! ### Single commands -/

/-- The number a shell gives to a program that was not started. -/
def unstarted : SystemError → Nat
  | .notPermitted => 126
  | .notRunnable => 126
  | .isDirectory => 126
  | _ => 127

/-- Starts a program. A file that names no reader is read by a shell. -/
def startOrRead (start : String → List String → Ending) (program : String)
    (arguments : List String) : Ending :=
  match start program arguments with
  | .notStarted .notRunnable => start "sh" (program :: arguments)
  | ending => ending

/-- What a program that was started does to the state: it writes and leaves a status. -/
def State.after (state : State) : Ending → State
  | .notStarted error => state.result (unstarted error)
  | .nulInArgument => state.result 126
  | .finished output status => (state.write output).result (statusNumber status)

/-- What a program does that takes the place of the script. -/
def State.replacedBy (state : State) : Ending → State
  | .notStarted error => state.leave (unstarted error)
  | .nulInArgument => state.leave 126
  | .finished output status => (state.write output).finish status

/-- Asks whether a file is there, and of which kind it is. -/
def askFile (around : Surroundings) (question path : String) : Option Bool :=
  let found := around.find path
  match question with
  | "-e" => some found.isOk
  | "-f" => some (match found with
    | .ok (.file _ _) => true
    | .ok (.program _) => true
    | _ => false)
  | "-d" => some (match found with
    | .ok (.directory _) => true
    | _ => false)
  | "-x" => some (match found with
    | .ok (.file _ executable) => executable
    | .ok _ => true
    | _ => false)
  | "-s" => some (match found with
    | .ok (.file content _) => content.size ≠ 0
    | .ok _ => true
    | _ => false)
  | "-r" => some found.isOk
  | "-w" => some found.isOk
  | _ => none

/-- Asks how two texts or numbers are related. -/
def askPair (question first second : String) : Option Bool :=
  let numbers (related : Int → Int → Bool) : Option Bool :=
    match integer? first, integer? second with
    | some first, some second => some (related first second)
    | _, _ => none
  match question with
  | "=" => some (first = second)
  | "!=" => some (first ≠ second)
  | "-eq" => numbers (· = ·)
  | "-ne" => numbers (· ≠ ·)
  | "-lt" => numbers (· < ·)
  | "-le" => numbers (· ≤ ·)
  | "-gt" => numbers (· > ·)
  | "-ge" => numbers (· ≥ ·)
  | _ => none

/-- Answers a question, if it is one. -/
def ask (around : Surroundings) (words : List String) : Option Bool :=
  match words with
  | [] => some false
  | [word] => some (word ≠ "")
  | ["!", word] => some (word = "")
  | ["-n", word] => some (word ≠ "")
  | ["-z", word] => some (word = "")
  | [question, word] => askFile around question word
  | [first, question, second] =>
    match askPair question first second with
    | some answer => some answer
    | none => if first = "!" then (ask around [question, second]).map (!·) else none
  | "!" :: words => (ask around words).map (!·)
  | _ => none

/-- The status of a question: the answer no is a failure of its own. -/
def askStatus (around : Surroundings) (words : List String) : Nat :=
  match ask around words with
  | some true => 0
  | some false => 1
  | none => 2

/-- Sends a signal, which only the script itself can be sent. -/
def State.kill (state : State) (words : List String) : State :=
  let send (signal process : String) : State :=
    if process ≠ processNumber then state.result 1
    else if signal = "0" then state.result 0
    else
      match signals.find? fun (number, name) => toString number = signal || name = signal with
      | some (number, name) => state.finish (some (.signal number ("SIG" ++ name)))
      | none => state.result 2
  match words with
  | ["-s", signal, process] => send signal process
  | [option, process] =>
    match option.toList with
    | '-' :: signal => send (String.ofList signal) process
    | _ => state.result 1
  | [process] => send "TERM" process
  | _ => state.result 2

/-- Takes options of the shell, and arguments that replace those of the script. -/
def State.set (state : State) (words : List String) : State :=
  match words with
  | [] => state
  | "--" :: arguments => state.withArguments arguments
  | word :: words =>
    match word.toList with
    | '-' :: letter :: letters =>
      State.set { state with
        stopsOnFailure := state.stopsOnFailure || (letter :: letters).contains 'e' } words
    | '+' :: letters =>
      State.set { state with
        stopsOnFailure := state.stopsOnFailure && !letters.contains 'e' } words
    | _ => state.withArguments (word :: words)

/-- Gives variables the values that words give them. -/
def State.assignWords (state : State) (words : List String) : State :=
  words.foldl (fun state word =>
    match word.toList.span (· ≠ '=') with
    | (name, '=' :: value) => state.assign (String.ofList name) (String.ofList value)
    | _ => state) state

/-- Ends the script with the number that it is given, or with the status of the last command. -/
def State.leaveWith (state : State) (words : List String) : State :=
  match words with
  | [] => state.leave state.scope.status
  | word :: _ => state.leave ((number? word).getD 2)

/-- Takes the values of variables away. -/
def State.unset (state : State) (words : List String) : State :=
  words.foldl (fun state word => state.assign word "") state

/-- Does what the words of a simple command say. -/
def State.perform (state : State) (around : Surroundings) (command : String)
    (arguments : List String) : State :=
  match command with
  | ":" => state.result 0
  | "true" => state.result 0
  | "false" => state.result 1
  | "echo" =>
    (state.write (if around.escapes then echoEscaped arguments
      else echoWithOptions false true arguments)).result 0
  | "printf" => (state.write (printed arguments)).result (if arguments.isEmpty then 2 else 0)
  | "test" => state.result (askStatus around arguments)
  | "[" =>
    state.result (if arguments.getLast? = some "]" then askStatus around arguments.dropLast else 2)
  | "exit" => state.leaveWith arguments
  | "return" => state.leaveWith arguments
  | "kill" => state.kill arguments
  | "shift" =>
    match number? (arguments.headD "1") with
    | some places =>
      if places ≤ state.scope.arguments.length then
        (state.withArguments (state.scope.arguments.drop places)).result 0
      else state.leave 2
    | none => state.leave 2
  | "set" => (state.set arguments).result 0
  | "export" => (state.assignWords arguments).result 0
  | "readonly" => (state.assignWords arguments).result 0
  | "unset" => (state.unset arguments).result 0
  | "exec" =>
    match arguments with
    | [] => state.result 0
    | program :: arguments => state.replacedBy (startOrRead around.start program arguments)
  | program => state.after (startOrRead around.start program arguments)

/-! ### Commands -/

/-- How often a loop is repeated at most. -/
def mostRounds : Nat := 10000

/-- Repeats a step as long as it wants to be repeated. -/
def rounds (step : State → State × Bool) : (count : Nat) → State → State
  | 0, state => state
  | count + 1, state =>
    match step state with
    | (state, true) => rounds step count state
    | (state, false) => state

/-- Does a command. Where its status is asked about, a failure does not stop the script. -/
def Command.run (around : Surroundings) : (command : Command) → (asked : Bool) → State → State
  | nothing, _, state => state.result 0
  | misread, _, state => state.leave 2
  | simple assignments words, asked, state =>
    match state.scope.expand words with
    | [] =>
      (assignments.foldl (fun state (name, value) =>
        state.assign name (state.scope.text value)) state).result 0
    | command :: arguments => (state.perform around command arguments).settle asked
  | redirected command redirections, asked, state =>
    let after := command.run around asked (redirections.foldl State.lead state)
    { after with streams := state.streams }
  | both first second, asked, state =>
    let state := first.run around asked state
    if state.goesOn then second.run around asked state else state
  | ifSuccess first second, asked, state =>
    let state := first.run around true state
    if state.goesOn && state.succeeded then second.run around asked state else state
  | ifFailure first second, asked, state =>
    let state := first.run around true state
    if state.goesOn && !state.succeeded then second.run around asked state else state
  | negated command, _, state =>
    let state := command.run around true state
    state.result (if state.succeeded then 1 else 0)
  | branch condition yes no, asked, state =>
    let state := condition.run around true state
    if !state.goesOn then state
    else if state.succeeded then yes.run around asked state
    else no.run around asked state
  | forEach name words body, asked, state =>
    (state.scope.expand words).foldl (fun state value =>
      if state.goesOn then body.run around asked (state.assign name value) else state)
      (state.result 0)
  | repeated expected condition body, asked, state =>
    rounds (fun before =>
      let state := condition.run around true before
      if !state.goesOn then (state, false)
      else if state.succeeded = expected then
        let state := body.run around asked state
        (state, state.goesOn)
      else (state.result before.scope.status, false)) mostRounds (state.result 0)
  | apart command, asked, state =>
    let after := command.run around asked state
    let state := { state with output := after.output }
    match after.ended with
    | some (some (.signal number name)) => state.finish (some (.signal number name))
    | some status => (state.result (statusNumber status)).settle asked
    | none => (state.result after.scope.status).settle asked

/-- Runs a script. Its status is that of its last command. -/
def runScript (around : Surroundings) (stopsOnFailure : Bool) (text name : String)
    (arguments : List String) : Ending :=
  let state := (commands text).foldl (fun state command =>
    if state.goesOn then command.run around false state else state)
    { scope := { name, arguments }, stopsOnFailure : State }
  .finished state.output (state.ended.getD (statusOf state.scope.status))

end FilterGraph.Rehearsal.Shell
