/-
Writing JSON: on one line without blanks, or with one item or member a line, indented by two blanks
for each open bracket. An empty list or object stays on one line.
-/

import FilterGraph.Json.Quoted

namespace FilterGraph.Json

/-- The text of a scalar. -/
def Scalar.write : Scalar → List Char
  | null => ['n', 'u', 'l', 'l']
  | bool true => ['t', 'r', 'u', 'e']
  | bool false => ['f', 'a', 'l', 's', 'e']
  | number value => value.text
  | text value => Quoted.encode value.toList

namespace Value

/-! ### On one line -/

mutual

/-- The value on one line, without blanks. -/
def write : Value → List Char
  | scalar value => value.write
  | list items => '[' :: writeItems items
  | object members => '\x7b' :: writeMembers members

/-- The items and the bracket behind them. -/
def writeItems : List Value → List Char
  | [] => [']']
  | item :: others => item.write ++ writeMoreItems others

/-- The items behind another one, and the bracket behind them. -/
def writeMoreItems : List Value → List Char
  | [] => [']']
  | item :: others => ',' :: item.write ++ writeMoreItems others

/-- The members and the bracket behind them. -/
def writeMembers : List (String × Value) → List Char
  | [] => ['\x7d']
  | (key, value) :: others =>
    Quoted.encode key.toList ++ ':' :: value.write ++ writeMoreMembers others

/-- The members behind another one, and the bracket behind them. -/
def writeMoreMembers : List (String × Value) → List Char
  | [] => ['\x7d']
  | (key, value) :: others =>
    ',' :: Quoted.encode key.toList ++ ':' :: value.write ++ writeMoreMembers others

end

/-- The value as a text on one line. -/
def compact (value : Value) : String :=
  String.ofList value.write

/-! ### On several lines -/

/-- A line break and the indentation of what follows it. -/
def newline (level : Nat) : List Char :=
  '\n' :: List.replicate (2 * level) ' '

mutual

/-- The value with its parts on lines of their own, inside of `level` open brackets. -/
def writeIndented (level : Nat) : Value → List Char
  | scalar value => value.write
  | list [] => ['[', ']']
  | list (item :: others) =>
    '[' :: newline (level + 1) ++ item.writeIndented (level + 1) ++
      writeIndentedItems level others
  | object [] => ['\x7b', '\x7d']
  | object ((key, value) :: others) =>
    '\x7b' :: newline (level + 1) ++ Quoted.encode key.toList ++
      ':' :: ' ' :: value.writeIndented (level + 1) ++ writeIndentedMembers level others

/-- The items behind another one, and the bracket behind them. -/
def writeIndentedItems (level : Nat) : List Value → List Char
  | [] => newline level ++ [']']
  | item :: others =>
    ',' :: newline (level + 1) ++ item.writeIndented (level + 1) ++
      writeIndentedItems level others

/-- The members behind another one, and the bracket behind them. -/
def writeIndentedMembers (level : Nat) : List (String × Value) → List Char
  | [] => newline level ++ ['\x7d']
  | (key, value) :: others =>
    ',' :: newline (level + 1) ++ Quoted.encode key.toList ++
      ':' :: ' ' :: value.writeIndented (level + 1) ++ writeIndentedMembers level others

end

/-- The value as a text on several lines. -/
def pretty (value : Value) : String :=
  String.ofList (value.writeIndented 0)

end Value

end FilterGraph.Json
