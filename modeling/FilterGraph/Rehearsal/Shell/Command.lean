/-
The commands of the shell's language. A script is first cut into tokens; commands are then read from
the tokens line by line, so that a line which cannot be read stops a script only when it is reached.

Test support, as told in `Rehearsal.Host`: the library does not depend on it.
-/

import FilterGraph.Rehearsal.Shell.Word

namespace FilterGraph.Rehearsal.Shell

/-! ### Tokens -/

/-- A token of a script. A redirection is that of a numbered stream, and says whether the word
behind it is the number of another one. -/
inductive Token where
  | word (word : Word)
  | redirect (stream : Nat) (toStream : Bool)
  | lineEnd
  | semicolon
  | andAlso
  | orElse
  | sign (char : Char)
  deriving DecidableEq, Repr

/-- Whether the cutting is inside of quote marks, and which. -/
inductive Quoting where
  | none
  | single
  | double
  deriving DecidableEq, Repr

/-- Finishes the word that was being cut, if there is one. -/
def finishWord (current : Option Word) (tokens : List Token) : List Token :=
  match current with
  | none => tokens
  | some word => .word word.reverse :: tokens

/-- The number of a stream, if the word that was being cut is one. -/
def streamNumber? (current : Option Word) : Option Nat :=
  match current with
  | some [.char char false] => if char.isDigit then some (char.toNat - '0'.toNat) else none
  | _ => none

/-- The tokens with a redirection, whose stream may be the last thing that was cut. -/
def addRedirect (current : Option Word) (usual : Nat) (toStream : Bool) (tokens : List Token) :
    List Token :=
  match streamNumber? current with
  | some stream => .redirect stream toStream :: tokens
  | none => .redirect usual toStream :: finishWord current tokens

/-- Whether a backslash between double quote marks takes the meaning of a character away. The last
one is the grave accent. -/
def isSpecial (char : Char) : Bool :=
  char = '$' || char = '"' || char = '\\' || char.toNat = 96

/-- Cuts a script into tokens, the last one first. A comment goes as far as the end of its line. A
quote mark without its partner is a token by itself. -/
def cut (quoting : Quoting) (current : Option Word) (tokens : List Token) (text : List Char) :
    List Token :=
  match text with
  | [] => if quoting = .none then finishWord current tokens else .sign '"' :: tokens
  | char :: rest =>
    let add (piece : Piece) : Option Word := some (piece :: current.getD [])
    match quoting with
    | .single =>
      if char = '\'' then cut .none current tokens rest
      else cut .single (add (.char char true)) tokens rest
    | .double =>
      if char = '"' then cut .none current tokens rest
      else if char = '$' then
        match dollar rest, length_dollar_le rest with
        | (some parameter, rest'), _ => cut .double (add (.parameter parameter true)) tokens rest'
        | (none, _), _ => cut .double (add (.char '$' true)) tokens rest
      else if char = '\\' then
        match rest with
        | '\n' :: rest => cut .double current tokens rest
        | next :: rest =>
          let kept : Word := if isSpecial next then [] else [.char char true]
          cut .double (some (.char next true :: kept ++ current.getD [])) tokens rest
        | [] => .sign '"' :: tokens
      else cut .double (add (.char char true)) tokens rest
    | .none =>
      let next (token : Token) : List Token := token :: finishWord current tokens
      match char, rest with
      | '\'', '\'' :: rest => cut .none (add .emptyQuotes) tokens rest
      | '"', '"' :: rest => cut .none (add .emptyQuotes) tokens rest
      | '\'', rest => cut .single (some (current.getD [])) tokens rest
      | '"', rest => cut .double (some (current.getD [])) tokens rest
      | '$', rest =>
        match dollar rest, length_dollar_le rest with
        | (some parameter, rest'), _ => cut .none (add (.parameter parameter false)) tokens rest'
        | (none, _), _ => cut .none (add (.char '$' false)) tokens rest
      | '\\', '\n' :: rest => cut .none current tokens rest
      | '\\', char :: rest => cut .none (add (.char char true)) tokens rest
      | '\n', rest => cut .none none (next .lineEnd) rest
      | ';', ';' :: rest => cut .none none (next (.sign ';')) rest
      | ';', rest => cut .none none (next .semicolon) rest
      | '&', '&' :: rest => cut .none none (next .andAlso) rest
      | '|', '|' :: rest => cut .none none (next .orElse) rest
      | '>', '&' :: rest => cut .none none (addRedirect current 1 true tokens) rest
      | '>', '>' :: rest => cut .none none (addRedirect current 1 false tokens) rest
      | '>', rest => cut .none none (addRedirect current 1 false tokens) rest
      | '<', rest => cut .none none (addRedirect current 0 false tokens) rest
      | char, rest =>
        if char = ' ' || char = '\t' then cut .none none (finishWord current tokens) rest
        else if char = '&' || char = '|' || char = '(' || char = ')' then
          cut .none none (next (.sign char)) rest
        else if char = '#' ∧ current = none then
          cut .none none tokens (rest.dropWhile (· ≠ '\n'))
        else cut .none (add (.char char false)) tokens rest
termination_by text.length
decreasing_by
  all_goals
    have := (List.dropWhile_sublist (l := rest) (· ≠ '\n')).length_le
    simp_all only [List.length_cons]
    omega

/-- The tokens of a script. -/
def tokens (text : List Char) : List Token :=
  (cut .none none [] text).reverse

/-! ### Commands -/

/-- Where a stream is led: to another stream, or to some file. -/
structure Redirection where
  stream : Nat
  toStream : Bool
  target : Word
  deriving DecidableEq, Repr

/-- A command. -/
inductive Command where
  | nothing
  | misread
  | simple (assignments : List (String × Word)) (words : List Word)
  | redirected (command : Command) (redirections : List Redirection)
  | both (first second : Command)
  | ifSuccess (first second : Command)
  | ifFailure (first second : Command)
  | negated (command : Command)
  | branch (condition yes no : Command)
  | forEach (name : String) (words : List Word) (body : Command)
  | repeated (expected : Bool) (condition body : Command)
  | apart (command : Command)
  deriving Repr

/-- A command and the tokens behind it, unless the tokens cannot be read. -/
abbrev Reading := Option (Command × List Token)

/-- The words that stand between commands, not for a command. -/
def closers : List String :=
  ["then", "else", "elif", "fi", "do", "done", "\x7d"]

/-- The plain word that comes first. -/
def keyword? (tokens : List Token) : Option String :=
  match tokens with
  | .word word :: _ => word.plain?
  | _ => none

/-- Whether a list of commands ends here. -/
def isClosed (tokens : List Token) : Bool :=
  match tokens with
  | [] => true
  | .sign ')' :: _ => true
  | tokens => (keyword? tokens).any closers.contains

/-- Passes over the ends of lines. -/
def skipLineEnds (tokens : List Token) : List Token :=
  tokens.dropWhile (· = .lineEnd)

/-- The tokens behind a word that has to come next. -/
def expect (keyword : String) (tokens : List Token) : Option (List Token) :=
  if keyword? tokens = some keyword then some (tokens.drop 1) else none

/-- The redirections that come next, and the tokens behind them. -/
def redirections (tokens : List Token) : List Redirection × List Token :=
  match tokens with
  | .redirect stream toStream :: .word target :: rest =>
    let (others, rest) := redirections rest
    (⟨stream, toStream, target⟩ :: others, rest)
  | tokens => ([], tokens)

/-- A command, led elsewhere if there is a redirection. -/
def Command.leading (command : Command) (redirections : List Redirection) : Command :=
  if redirections.isEmpty then command else redirected command redirections

/-- The words and redirections up to the end of a simple command. -/
def simpleWords (tokens : List Token) : List Word × List Redirection × List Token :=
  match tokens with
  | .word word :: rest =>
    let (words, others, rest) := simpleWords rest
    (word :: words, others, rest)
  | .redirect stream toStream :: .word target :: rest =>
    let (words, others, rest) := simpleWords rest
    (words, ⟨stream, toStream, target⟩ :: others, rest)
  | tokens => ([], [], tokens)

/-- The assignments at the beginning of a simple command, and its other words. -/
def assignments (words : List Word) : List (String × Word) × List Word :=
  match words with
  | [] => ([], [])
  | word :: words =>
    match word.assignment? with
    | some assignment =>
      let (others, words) := assignments words
      (assignment :: others, words)
    | none => ([], word :: words)

/-- Reads a simple command. -/
def simple (tokens : List Token) : Reading :=
  match simpleWords tokens with
  | ([], [], _) => none
  | (words, redirections, rest) =>
    let (assignments, words) := assignments words
    some ((Command.simple assignments words).leading redirections, rest)

/-- The words a loop goes through, which are all arguments if there are none. -/
def loopWords (tokens : List Token) : List Word × List Token :=
  match tokens with
  | .word [.char 'i' false, .char 'n' false] :: rest =>
    let (words, _, rest) := simpleWords rest
    (words, rest)
  | tokens => ([[.parameter .each true]], tokens)

/-- Passes over the end of a command, which is a semicolon or the end of a line. -/
def skipEnd (tokens : List Token) : List Token :=
  match tokens with
  | .semicolon :: rest => skipLineEnds rest
  | tokens => skipLineEnds tokens

mutual

/-- Reads commands up to a word that closes them, with a bound on how deep they can be. -/
def readList (depth : Nat) (tokens : List Token) : Reading :=
  match depth with
  | 0 => none
  | depth + 1 =>
    let tokens := skipLineEnds tokens
    if isClosed tokens then some (.nothing, tokens)
    else
      match readChain depth tokens with
      | none => none
      | some (first, rest) =>
        match rest with
        | .semicolon :: rest => readMore depth first rest
        | .lineEnd :: rest => readMore depth first rest
        | rest => some (first, rest)

/-- Reads the commands behind another one. -/
def readMore (depth : Nat) (first : Command) (tokens : List Token) : Reading :=
  match depth with
  | 0 => none
  | depth + 1 =>
    match readList depth tokens with
    | none => none
    | some (.nothing, rest) => some (first, rest)
    | some (second, rest) => some (.both first second, rest)

/-- Reads commands of which the next one depends on how the last one went. -/
def readChain (depth : Nat) (tokens : List Token) : Reading :=
  match depth with
  | 0 => none
  | depth + 1 =>
    match readNegation depth tokens with
    | none => none
    | some (first, rest) => readLinks depth first rest

/-- Reads the commands that are chained to another one. -/
def readLinks (depth : Nat) (first : Command) (tokens : List Token) : Reading :=
  match depth with
  | 0 => none
  | depth + 1 =>
    match tokens with
    | .andAlso :: rest =>
      match readNegation depth (skipLineEnds rest) with
      | none => none
      | some (second, rest) => readLinks depth (.ifSuccess first second) rest
    | .orElse :: rest =>
      match readNegation depth (skipLineEnds rest) with
      | none => none
      | some (second, rest) => readLinks depth (.ifFailure first second) rest
    | tokens => some (first, tokens)

/-- Reads a command, whose status may be turned round. -/
def readNegation (depth : Nat) (tokens : List Token) : Reading :=
  match depth with
  | 0 => none
  | depth + 1 =>
    if keyword? tokens = some "!" then
      (readCommand depth (tokens.drop 1)).map fun (command, rest) => (.negated command, rest)
    else readCommand depth tokens

/-- Reads one command. -/
def readCommand (depth : Nat) (tokens : List Token) : Reading :=
  match depth with
  | 0 => none
  | depth + 1 =>
    let compound : Reading :=
      match tokens with
      | .sign '(' :: rest => do
        let (command, rest) ← readList depth rest
        match rest with
        | .sign ')' :: rest => some (.apart command, rest)
        | _ => none
      | tokens =>
        match keyword? tokens with
        | some "if" => readBranch depth (tokens.drop 1)
        | some "while" => readRepeated depth true (tokens.drop 1)
        | some "until" => readRepeated depth false (tokens.drop 1)
        | some "for" => readForEach depth (tokens.drop 1)
        | some "\x7b" => do
          let (command, rest) ← readList depth (tokens.drop 1)
          let rest ← expect "\x7d" rest
          some (command, rest)
        | _ => none
    match compound with
    | some (command, rest) =>
      let (redirections, rest) := redirections rest
      some (command.leading redirections, rest)
    | none =>
      match tokens with
      | .sign _ :: _ => none
      | tokens =>
        if isClosed tokens || ["if", "while", "until", "for", "\x7b", "case", "!"].any
            (keyword? tokens = some ·) then none
        else simple tokens

/-- Reads what stands behind `if`. -/
def readBranch (depth : Nat) (tokens : List Token) : Reading :=
  match depth with
  | 0 => none
  | depth + 1 => do
    let (condition, rest) ← readList depth tokens
    let (yes, rest) ← readList depth (← expect "then" rest)
    match keyword? rest with
    | some "elif" =>
      let (no, rest) ← readBranch depth (rest.drop 1)
      some (.branch condition yes no, rest)
    | some "else" =>
      let (no, rest) ← readList depth (rest.drop 1)
      some (.branch condition yes no, ← expect "fi" rest)
    | _ => some (.branch condition yes .nothing, ← expect "fi" rest)

/-- Reads what stands behind `while` and `until`. -/
def readRepeated (depth : Nat) (expected : Bool) (tokens : List Token) : Reading :=
  match depth with
  | 0 => none
  | depth + 1 => do
    let (condition, rest) ← readList depth tokens
    let (body, rest) ← readList depth (← expect "do" rest)
    some (.repeated expected condition body, ← expect "done" rest)

/-- Reads what stands behind `for`. -/
def readForEach (depth : Nat) (tokens : List Token) : Reading :=
  match depth with
  | 0 => none
  | depth + 1 => do
    let name ← keyword? tokens
    let (words, rest) := loopWords (tokens.drop 1)
    let (body, rest) ← readList depth (← expect "do" (skipEnd rest))
    if isName name.toList then some (.forEach name words body, ← expect "done" rest) else none

end

/-- Reads the commands that begin on a line. -/
def readLine (depth : Nat) (count : Nat) (tokens : List Token) : Reading :=
  match count with
  | 0 => none
  | count + 1 =>
    match readChain depth tokens with
    | none => none
    | some (first, rest) =>
      match rest with
      | [] => some (first, [])
      | .lineEnd :: rest => some (first, rest)
      | .semicolon :: [] => some (first, [])
      | .semicolon :: .lineEnd :: rest => some (first, rest)
      | .semicolon :: rest =>
        (readLine depth count rest).map fun (second, rest) => (.both first second, rest)
      | _ => none

/-- Reads the commands of a script line by line. -/
def readLines (depth : Nat) (count : Nat) (tokens : List Token) : List Command :=
  match count with
  | 0 => []
  | count + 1 =>
    let tokens := skipLineEnds tokens
    if tokens.isEmpty then []
    else
      match readLine depth (tokens.length + 1) tokens with
      | none => [.misread]
      | some (command, rest) => command :: readLines depth count rest

/-- The commands of a script. Each token is passed at a depth that is a few steps deeper. -/
def commands (text : String) : List Command :=
  let tokens := tokens text.toList
  readLines (8 * tokens.length + 8) (tokens.length + 1) tokens

end FilterGraph.Rehearsal.Shell
