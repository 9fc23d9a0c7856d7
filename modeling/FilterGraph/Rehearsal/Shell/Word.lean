/-
The words of the shell's language: what is written between blanks, with quote marks around some of
it and names of things to be put in. Expanding a word gives any number of texts, because what is put
in without quote marks is cut at its blanks.

Test support, as told in `Rehearsal.Host`: the library does not depend on it.
-/

namespace FilterGraph.Rehearsal.Shell

/-! ### Words -/

/-- What a dollar sign stands for: a variable, an argument by its place, the number of arguments,
all arguments, apart or joined, the status of the last command, the number of the process. -/
inductive Parameter where
  | variable (name : String)
  | argument (place : Nat)
  | count
  | each
  | joined
  | status
  | process
  deriving DecidableEq, Repr

/-- A piece of a word. Quote marks with nothing between them are a piece as well, since they make a
word of nothing. -/
inductive Piece where
  | char (char : Char) (quoted : Bool)
  | parameter (parameter : Parameter) (quoted : Bool)
  | emptyQuotes
  deriving DecidableEq, Repr

/-- A word. -/
abbrev Word := List Piece

/-- The text of a word that has neither quote marks nor anything to be put in. -/
def Word.plain? (word : Word) : Option String :=
  (word.mapM fun piece : Piece =>
    match piece with
    | .char char false => some char
    | _ => none).map String.ofList

/-- Whether a character can stand in a name. -/
def isNameChar (char : Char) : Bool :=
  char.isAlphanum || char = '_'

/-- Whether a text can be the name of a variable. -/
def isName (name : List Char) : Bool :=
  name.all isNameChar && name.head?.any fun char => !char.isDigit

/-- The variable and the value, if the word gives a variable a value. -/
def Word.assignment? (word : Word) : Option (String × Word) :=
  let isPlain (piece : Piece) : Bool :=
    match piece with
    | .char char false => isNameChar char
    | _ => false
  match (Word.plain? (word.takeWhile isPlain)).map String.toList, word.dropWhile isPlain with
  | some name, .char '=' false :: value =>
    if isName name then some (String.ofList name, value) else none
  | _, _ => none

/-! ### Parameters -/

/-- The parameters that are written as one character. -/
def signs : List (Char × Parameter) :=
  [('#', .count), ('$', .process), ('@', .each), ('*', .joined), ('?', .status)]

/-- The parameter that is called by a name between curly brackets. -/
def Parameter.ofName? (name : List Char) : Option Parameter :=
  match name with
  | [] => none
  | [char] =>
    match signs.lookup char with
    | some parameter => some parameter
    | none => if char.isDigit then some (.argument (char.toNat - '0'.toNat))
      else if isName [char] then some (.variable char.toString)
      else none
  | name =>
    if name.all Char.isDigit then (String.ofList name).toNat?.map .argument
    else if isName name then some (.variable (String.ofList name))
    else none

/-- The parameter that a dollar sign and the text behind it name, and the rest of the text. -/
def dollar (text : List Char) : Option Parameter × List Char :=
  match text with
  | '{' :: rest =>
    match Parameter.ofName? (rest.takeWhile (· ≠ '}')) with
    | some parameter => (some parameter, (rest.dropWhile (· ≠ '}')).drop 1)
    | none => (none, text)
  | char :: rest =>
    match signs.lookup char with
    | some parameter => (some parameter, rest)
    | none =>
      if char.isDigit then (some (.argument (char.toNat - '0'.toNat)), rest)
      else if isNameChar char then
        (some (.variable (String.ofList (char :: rest.takeWhile isNameChar))),
          rest.dropWhile isNameChar)
      else (none, text)
  | [] => (none, [])

theorem length_dollar_le (text : List Char) : (dollar text).2.length ≤ text.length := by
  unfold dollar
  split
  · rename_i rest
    split
    · have := (List.dropWhile_sublist (l := rest) (· ≠ '}')).length_le
      simp only [List.length_drop, List.length_cons]
      omega
    · simp
  · rename_i rest _
    split
    · simp
    · split
      · simp
      · split
        · have := (List.dropWhile_sublist (l := rest) isNameChar).length_le
          simp only [List.length_cons]
          omega
        · simp
  · simp

/-! ### Expansion -/

/-- What parameters stand for while a script runs. -/
structure Scope where
  name : String
  arguments : List String
  values : List (String × String) := []
  status : Nat := 0

/-- The number of the process that runs a script. -/
def processNumber : String := "2"

/-- The text of a parameter, with all arguments joined. -/
def Scope.value (scope : Scope) : Parameter → String
  | .variable name => (scope.values.lookup name).getD ""
  | .argument 0 => scope.name
  | .argument (place + 1) => scope.arguments[place]?.getD ""
  | .count => toString scope.arguments.length
  | .each => " ".intercalate scope.arguments
  | .joined => " ".intercalate scope.arguments
  | .status => toString scope.status
  | .process => processNumber

/-- A part of expanded text: a character, a place where something is, if only an empty text, and a
place where the text is cut. -/
inductive Part where
  | char (char : Char)
  | something
  | cut
  deriving DecidableEq, Repr

/-- A text that is cut at its blanks. -/
def loose (text : String) : List Part :=
  text.toList.map fun char =>
    if char = ' ' || char = '\t' || char = '\n' then .cut else .char char

/-- A text that is kept as it is. -/
def fixed (text : String) : List Part :=
  .something :: text.toList.map .char

/-- What is put in for a piece of a word. -/
def Scope.parts (scope : Scope) : Piece → List Part
  | .char char _ => [.char char]
  | .emptyQuotes => [.something]
  | .parameter .each true => [Part.cut].intercalate (scope.arguments.map fixed)
  | .parameter .each false => [Part.cut].intercalate (scope.arguments.map loose)
  | .parameter .joined false => [Part.cut].intercalate (scope.arguments.map loose)
  | .parameter parameter true => fixed (scope.value parameter)
  | .parameter parameter false => loose (scope.value parameter)

/-- The texts between the cuts, without those where nothing is. -/
def texts (parts : List Part) : List String :=
  ((parts.splitOn .cut).filter (!·.isEmpty)).map fun parts =>
    String.ofList (parts.filterMap fun part =>
      match part with
      | .char char => some char
      | _ => none)

/-- The texts that words stand for. -/
def Scope.expand (scope : Scope) (words : List Word) : List String :=
  words.flatMap fun word => texts (word.flatMap scope.parts)

/-- The one text that a word stands for where nothing is cut. -/
def Scope.text (scope : Scope) (word : Word) : String :=
  String.join (word.map fun piece : Piece =>
    match piece with
    | .char char _ => char.toString
    | .parameter parameter _ => scope.value parameter
    | .emptyQuotes => "")

end FilterGraph.Rehearsal.Shell
