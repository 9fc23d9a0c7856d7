/-
Text between quote marks, the way messages show what they found: control characters that have a
short name, the quote mark and the backslash are escaped, characters without a glyph of their own
are written by their number, and all else stands for itself.
-/

import FilterGraph.Text.Unprintable

namespace FilterGraph.Text

/-- One character as it stands between quote marks. -/
def quotedChar (char : Char) : List Char :=
  match char with
  | '\x00' => ['\\', '0']
  | '\t' => ['\\', 't']
  | '\r' => ['\\', 'r']
  | '\n' => ['\\', 'n']
  | '"' => ['\\', '"']
  | '\\' => ['\\', '\\']
  | char =>
    if isUnprintable char then
      ['\\', 'u', '\x7b'] ++ Nat.toDigits 16 char.toNat ++ ['\x7d']
    else [char]

/-- A text between quote marks. -/
def quoted (text : String) : String :=
  "\"" ++ String.ofList (text.toList.flatMap quotedChar) ++ "\""

end FilterGraph.Text
