/-
What is started for a path: one of the programs that every host has, or a script among the files,
which is read by the program that its first line names. That one may be a script as well.

Test support, as told in `Rehearsal.Host`: the library does not depend on it.
-/

import FilterGraph.Rehearsal.FileTree

namespace FilterGraph.Rehearsal

/-! ### The first line of a script -/

/-- How much of a script is looked at for its first line, in bytes. -/
def firstLineLimit : Nat := 256

/-- The text of bytes; each byte is a character where they are no text. -/
def textOf (bytes : List UInt8) : String :=
  (String.fromUTF8? ⟨bytes.toArray⟩).getD
    (String.ofList (bytes.map fun byte => Char.ofNat byte.toNat))

/-- The program that reads a script, and the argument it is given before all others. They stand
behind `#!` on the first line; the name must not reach beyond what is looked at. -/
def interpreter? (content : ByteArray) : Option (String × Option String) :=
  let isBlank (byte : UInt8) : Bool := byte = 32 || byte = 9
  let isLineEnd (byte : UInt8) : Bool := byte = 10
  let start := content.toList.take firstLineLimit
  match start with
  | 35 :: 33 :: rest =>
    let line := (rest.takeWhile (!isLineEnd ·)).dropWhile isBlank
    let line := if rest.any isLineEnd then (line.reverse.dropWhile isBlank).reverse else line
    let name := line.takeWhile fun byte => !isBlank byte && byte ≠ 0
    let behind := line.dropWhile fun byte => !isBlank byte && byte ≠ 0
    let argument := ((behind.takeWhile (· ≠ 0)).dropWhile isBlank)
    if rest.any isLineEnd && name.isEmpty then none
    else if !rest.any isLineEnd && start.length = firstLineLimit && behind.isEmpty then none
    else some (textOf name, if argument.isEmpty then none else some (textOf argument))
  | _ => none

/-! ### From a path to a program -/

/-- What can be started at a path: a program of the host, or the bytes of a script. A directory
cannot, and neither can a file that is not executable. -/
def Node.startable (root : Node) (path : String) : Except SystemError (Program ⊕ ByteArray) :=
  match root.find path with
  | .error error => .error error
  | .ok (.program known) => .ok (.inl known)
  | .ok (.file content true) => .ok (.inr content)
  | .ok _ => .error .notPermitted

/-- How many scripts can stand between a script and the program that reads the last of them. -/
def mostReaders : Nat := 5

/-- The program that is started for a path, and the arguments it gets. A script is handed to its
reader by its path. -/
def Node.command (root : Node) (readers : Nat) (path : String) (arguments : List String) :
    Except SystemError (Program × List String) :=
  match root.startable path with
  | .error error => .error error
  | .ok (.inl known) => .ok (known, arguments)
  | .ok (.inr content) =>
    match interpreter? content with
    | none => .error .notRunnable
    | some ("", _) => .error .notPermitted
    | some (reader, argument) =>
      match readers with
      | 0 =>
        match root.startable reader with
        | .error error => .error error
        | .ok _ => .error .tooManyLevels
      | readers + 1 => root.command readers reader (argument.toList ++ path :: arguments)

/-- The path of a program. A name without a slash is looked for in the directory of programs. -/
def programPath (program : String) : String :=
  if program.isEmpty || program.contains '/' then program else "/usr/bin/" ++ program

end FilterGraph.Rehearsal
