/-
The writing of words, as `echo` and `printf` do it: what stands between the words, at the end, and
in the place of backslashes is as the program and its options say.

Test support, as told in `Rehearsal.Host`: the library does not depend on it.
-/

namespace FilterGraph.Rehearsal.Shell

/-! ### Backslashes -/

/-- The characters that a backslash and a letter stand for when words are written. -/
def letters : List (Char × Char) :=
  [('\\', '\\'), ('a', '\x07'), ('b', '\x08'), ('e', '\x1b'), ('f', '\x0c'), ('n', '\n'),
    ('r', '\r'), ('t', '\t'), ('v', '\x0b')]

/-- Whether a character is a digit to the base of eight. -/
def isOctal (char : Char) : Bool :=
  '0' ≤ char && char ≤ '7'

/-- The number that digits to the base of eight stand for. -/
def octal (digits : List Char) : Nat :=
  digits.foldl (fun number digit => 8 * number + (digit.toNat - '0'.toNat)) 0

/-- A text with its backslashes replaced, and whether it goes on to its end; what stands behind `\c`
is not written any more. A character can be written as up to three octal digits, which a zero may
precede. -/
def unescape (text : List Char) : List Char × Bool :=
  match text with
  | [] => ([], true)
  | '\\' :: 'c' :: _ => ([], false)
  | '\\' :: letter :: rest =>
    match letters.lookup letter with
    | some char =>
      let (text, goesOn) := unescape rest
      (char :: text, goesOn)
    | none =>
      if isOctal letter then
        let digits := (rest.take (if letter = '0' then 3 else 2)).takeWhile isOctal
        let (text, goesOn) := unescape (rest.drop digits.length)
        (Char.ofNat (octal (letter :: digits) % 256) :: text, goesOn)
      else
        let (text, goesOn) := unescape (letter :: rest)
        ('\\' :: text, goesOn)
  | char :: rest =>
    let (text, goesOn) := unescape rest
    (char :: text, goesOn)
termination_by text.length
decreasing_by
  all_goals
    simp only [List.length_cons, List.length_drop]
    omega

/-! ### Words -/

/-- Words between blanks, on a line or not, with their backslashes replaced or not. -/
def joined (escapes endsLine : Bool) (words : List String) : String :=
  let text := " ".intercalate words
  let lineEnd := if endsLine then "\n" else ""
  if escapes then
    let (text, goesOn) := unescape text.toList
    String.ofList text ++ if goesOn then lineEnd else ""
  else text ++ lineEnd

/-- The letters of an option, if the word is one that `echo` knows. -/
def echoOption? (word : String) : Option (List Char) :=
  match word.toList with
  | '-' :: letter :: letters =>
    if (letter :: letters).all ['n', 'e', 'E'].contains then some (letter :: letters) else none
  | _ => none

/-- Writes words, after options for the end of the line and the backslashes. -/
def echoWithOptions (escapes endsLine : Bool) (words : List String) : String :=
  match words with
  | [] => joined escapes endsLine []
  | word :: words =>
    match echoOption? word with
    | none => joined escapes endsLine (word :: words)
    | some options =>
      let escapes := options.foldl (fun escapes option =>
        if option = 'e' then true else if option = 'E' then false else escapes) escapes
      echoWithOptions escapes (endsLine && !options.contains 'n') words

/-- Writes words, after an option for the end of the line; backslashes are always replaced. -/
def echoEscaped (words : List String) : String :=
  match words with
  | "-n" :: words => joined true false words
  | words => joined true true words

/-! ### Formats -/

/-- Writes a format once, with arguments in it, and returns the arguments that are left. -/
def printOnce (format : List Char) (arguments : List String) : List Char × List String :=
  match format with
  | '%' :: '%' :: rest =>
    let (text, arguments) := printOnce rest arguments
    ('%' :: text, arguments)
  | '%' :: kind :: rest =>
    if kind = 's' || kind = 'd' || kind = 'i' then
      let value := arguments.headD (if kind = 's' then "" else "0")
      let (text, arguments) := printOnce rest (arguments.drop 1)
      (value.toList ++ text, arguments)
    else
      let (text, arguments) := printOnce (kind :: rest) arguments
      ('%' :: text, arguments)
  | char :: rest =>
    let (text, arguments) := printOnce rest arguments
    (char :: text, arguments)
  | [] => ([], arguments)

/-- Writes a format as often as there are arguments for it. -/
def printAll (times : Nat) (format : List Char) (arguments : List String) : List Char :=
  match times with
  | 0 => []
  | times + 1 =>
    let (text, left) := printOnce format arguments
    if left.isEmpty || left.length = arguments.length then text
    else text ++ printAll times format left

/-- Writes arguments the way a format says. -/
def printed (words : List String) : String :=
  match words with
  | [] => ""
  | format :: arguments =>
    String.ofList (printAll (arguments.length + 1) (unescape format.toList).1 arguments)

end FilterGraph.Rehearsal.Shell
