/-
A host made of files in memory, to try descriptions and commands on without touching anything.
Its programs are the scripts among the files, and those that every host has.

This module and the others under `Rehearsal` are test support and no part of the compiler. They
stand in for the operating system and its shell where the library is run on examples. Nothing in
the library imports them and no theorem is about them: what is proved of a host holds of every
`Host`, and of this one among them.
-/

import FilterGraph.Rehearsal.Program
import FilterGraph.Rehearsal.Shell.Run

namespace FilterGraph.Rehearsal

/-! ### The programs of every host -/

/-- Starts the program that comes first with the arguments behind it, after variables that are set
for it. The first argument may hold several, and there are no other options. -/
def runEnvironment (start : String → List String → Ending) (arguments : List String) : Ending :=
  match arguments with
  | [] => .finished "" none
  | argument :: arguments =>
    let launch (program : String) (arguments : List String) : Ending :=
      match Shell.startOrRead start program arguments with
      | .notStarted error => .finished "" (some (.code (if error = .notFound then 127 else 126)))
      | .nulInArgument => .finished "" (some (.code 126))
      | .finished output status => .finished output status
    match argument.toList with
    | '-' :: 'S' :: words =>
      match (words.splitOn ' ').filter (!·.isEmpty) with
      | [] => .finished "" none
      | program :: first =>
        launch (String.ofList program) (first.map String.ofList ++ arguments)
    | ['-', 'i'] => runEnvironment start arguments
    | ['-'] => runEnvironment start arguments
    | '-' :: _ => .finished "" (some (.code 125))
    | characters =>
      if characters.contains '=' then runEnvironment start arguments
      else launch argument arguments

/-- What a shell was asked to do: to read a text, or a file, with a name and arguments. -/
inductive Task where
  | text (text name : String) (arguments : List String)
  | file (path : String) (arguments : List String)
  | nothing
  | misused

/-- What words without options ask for. -/
def Task.ofWords : List String → Task
  | [] => .nothing
  | path :: arguments => .file path arguments

/-- Takes the options of a shell: a text instead of a file, and stopping on failure. -/
def Task.ofArguments (stopsOnFailure : Bool) (arguments : List String) : Bool × Task :=
  match arguments with
  | [] => (stopsOnFailure, .nothing)
  | argument :: arguments =>
    match argument.toList with
    | ['-'] => (stopsOnFailure, ofWords arguments)
    | ['-', '-'] => (stopsOnFailure, ofWords arguments)
    | '-' :: letters =>
      if !letters.all (['a', 'b', 'c', 'e', 'f', 'h', 'm', 'n', 'u', 'v', 'x'].contains ·) then
        (stopsOnFailure, .misused)
      else if letters.contains 'c' then
        match arguments with
        | [] => (stopsOnFailure, .misused)
        | [script] => (stopsOnFailure || letters.contains 'e', .text script "sh" [])
        | script :: name :: arguments =>
          (stopsOnFailure || letters.contains 'e', .text script name arguments)
      else ofArguments (stopsOnFailure || letters.contains 'e') arguments
    | _ => (stopsOnFailure, .file argument arguments)

/-- Runs a shell. A file that cannot be read is a failure. -/
def runShell (root : Node) (start : String → List String → Ending) (escapes : Bool)
    (arguments : List String) : Ending :=
  let around : Shell.Surroundings := { start, find := root.find, escapes }
  match Task.ofArguments false arguments with
  | (_, .nothing) => .finished "" none
  | (_, .misused) => .finished "" (some (.code 2))
  | (stops, .text text name arguments) => Shell.runScript around stops text name arguments
  | (stops, .file path arguments) =>
    match root.find path with
    | .ok (.file content _) =>
      Shell.runScript around stops (textOf content.toList) path arguments
    | .ok (.directory _) => .finished "" (if escapes then none else some (.code 126))
    | .ok _ => .finished "" (some (.code 126))
    | .error _ => .finished "" (some (.code (if escapes then 2 else 127)))

/-! ### Starting programs -/

/-- How many programs can have started each other. -/
def mostPrograms : Nat := 64

/-- Starts a program, which may start others. -/
def startProgram (root : Node) (depth : Nat) (program : String) (arguments : List String) :
    Ending :=
  match depth with
  | 0 => .notStarted (.other "Resource temporarily unavailable (os error 11)")
  | depth + 1 =>
    match root.command mostReaders (programPath program) arguments with
    | .error error => .notStarted error
    | .ok (.succeed, _) => .finished "" none
    | .ok (.fail, _) => .finished "" (some (.code 1))
    | .ok (.echo, words) => .finished (Shell.echoWithOptions false true words) none
    | .ok (.environment, words) => runEnvironment (startProgram root depth) words
    | .ok (.shell escapes, words) => runShell root (startProgram root depth) escapes words

/-- Starts a program, whose arguments must be free of NUL. -/
def start (root : Node) (program : String) (arguments : List String) : Ending :=
  if (program :: arguments).any (·.contains '\x00') then .nulInArgument
  else startProgram root mostPrograms program arguments

/-- The host of a tree of files. -/
def host (root : Node) : Host where
  read := root.read
  start := start root

end FilterGraph.Rehearsal
