/-
Texts between quote marks. A backslash begins an escape: a letter for one of a few characters, or
four hexadecimal digits for a 16-bit unit; a character above the 16-bit range takes a leading and a
trailing unit. Reading and skipping a text share the escapes; skipping does not care how units pair.
-/

import FilterGraph.Json.Reader

namespace FilterGraph.Json.Quoted

/-! ### Escapes -/

/-- What an escape stands for: a character, or a 16-bit unit that may be half of one. -/
inductive Escape where
  | char (char : Char)
  | unit (value : Nat)
  deriving DecidableEq, Repr

/-- The characters that have a letter of their own. -/
def letterEscape : Char → Option Char
  | '"' => some '"'
  | '\\' => some '\\'
  | '/' => some '/'
  | 'b' => some '\x08'
  | 'f' => some '\x0c'
  | 'n' => some '\n'
  | 'r' => some '\r'
  | 't' => some '\t'
  | _ => none

/-- The value of a hexadecimal digit, in either case. -/
def hexDigit (char : Char) : Option Nat :=
  if '0' ≤ char ∧ char ≤ '9' then some (char.toNat - '0'.toNat)
  else if 'a' ≤ char ∧ char ≤ 'f' then some (char.toNat - 'a'.toNat + 10)
  else if 'A' ≤ char ∧ char ≤ 'F' then some (char.toNat - 'A'.toNat + 10)
  else none

/-- The number of a row of hexadecimal digits. -/
def hexNumber (digits : List Char) : Option Nat :=
  digits.foldlM (fun number digit => (hexDigit digit).map (16 * number + ·)) 0

/-- Four hexadecimal digits. A text of less than four bytes ends too early; otherwise all four
bytes are looked at. -/
def hexUnit (text : List Char) : Except Fault (Nat × List Char) :=
  let digits := text.take 4
  match hexNumber digits with
  | some value =>
    if digits.length = 4 then .ok (value, text.drop 4) else .error (.here .endInText [])
  | none =>
    if byteCount digits < 4 then .error (.here .endInText [])
    else .error ⟨.invalidEscape, text, 4⟩

/-- What follows a backslash. -/
def escape (text : List Char) : Except Fault (Escape × List Char) :=
  match text with
  | [] => .error (.here .endInText [])
  | letter :: rest =>
    if letter = 'u' then
      match hexUnit rest with
      | .error fault => .error fault
      | .ok (value, rest) => .ok (.unit value, rest)
    else
      match letterEscape letter with
      | some char => .ok (.char char, rest)
      | none => .error (.next .invalidEscape (letter :: rest))

theorem length_hexUnit_lt {text rest : List Char} {value : Nat}
    (ok : hexUnit text = .ok (value, rest)) : rest.length < text.length := by
  unfold hexUnit at ok
  simp only at ok
  split at ok
  · split at ok
    · next four =>
      cases ok
      rw [List.length_take] at four
      rw [List.length_drop]
      omega
    · cases ok
  · split at ok <;> cases ok

theorem length_escape_lt {text rest : List Char} {found : Escape}
    (ok : escape text = .ok (found, rest)) : rest.length < text.length := by
  unfold escape at ok
  split at ok
  · cases ok
  · split at ok
    · split at ok
      · cases ok
      · next unit => cases ok; exact Nat.lt_trans (length_hexUnit_lt unit) (Nat.lt_succ_self _)
    · split at ok <;> cases ok
      exact Nat.lt_succ_self _

/-! ### Reading -/

/-- Whether a unit is the first half of a character above the 16-bit range. -/
def isLeading (unit : Nat) : Bool :=
  0xd800 ≤ unit && unit < 0xdc00

/-- Whether a unit is the second half of a character above the 16-bit range. -/
def isTrailing (unit : Nat) : Bool :=
  0xdc00 ≤ unit && unit < 0xe000

/-- The character that two units make up. -/
def joined (leading trailing : Nat) : Char :=
  Char.ofNat (0x10000 + 0x400 * (leading - 0xd800) + (trailing - 0xdc00))

/-- The character that begins with the unit. After a leading unit the escape of a trailing one has
to follow. -/
def character (unit : Nat) (text : List Char) : Except Fault (Char × List Char) :=
  if isTrailing unit then .error (.here .loneSurrogate text)
  else if isLeading unit then
    match text with
    | [] => .error (.here .endInText [])
    | '\\' :: [] => .error (.here .endInText [])
    | '\\' :: 'u' :: rest =>
      match hexUnit rest with
      | .error fault => .error fault
      | .ok (second, rest) =>
        if isTrailing second then .ok (joined unit second, rest)
        else .error (.here .loneSurrogate rest)
    | '\\' :: rest => .error (.next .unfinishedPair rest)
    | rest => .error (.next .unfinishedPair rest)
  else .ok (Char.ofNat unit, text)

/-- The next character of a quoted text; none is the closing mark. -/
def piece (text : List Char) : Except Fault (Option Char × List Char) :=
  match text with
  | [] => .error (.here .endInText [])
  | char :: rest =>
    if char = '"' then .ok (none, rest)
    else if char = '\\' then
      match escape rest with
      | .error fault => .error fault
      | .ok (.char char, rest) => .ok (some char, rest)
      | .ok (.unit unit, rest) =>
        match character unit rest with
        | .error fault => .error fault
        | .ok (char, rest) => .ok (some char, rest)
    else if char.toNat < 0x20 then .error (.next .controlCharacter (char :: rest))
    else .ok (some char, rest)

theorem length_character_le {unit : Nat} {text rest : List Char} {char : Char}
    (ok : character unit text = .ok (char, rest)) : rest.length ≤ text.length := by
  unfold character at ok
  split at ok
  · cases ok
  · split at ok
    · split at ok
      · cases ok
      · cases ok
      · next others =>
        split at ok
        · cases ok
        · next second =>
          have shorter := length_hexUnit_lt second
          split at ok
          · rw [← (Prod.mk.inj (Except.ok.inj ok)).2]
            simp only [List.length_cons]
            omega
          · cases ok
      · cases ok
      · cases ok
    · cases ok; exact Nat.le_refl _

theorem length_piece_lt {text rest : List Char} {char : Option Char}
    (ok : piece text = .ok (char, rest)) : rest.length < text.length := by
  unfold piece at ok
  split at ok
  · cases ok
  · next others =>
    split at ok
    · cases ok; exact Nat.lt_succ_self _
    · split at ok
      · split at ok
        · cases ok
        · next escaped =>
          cases ok
          exact Nat.lt_trans (length_escape_lt escaped) (Nat.lt_succ_self _)
        · next escaped =>
          have shorter := length_escape_lt escaped
          split at ok
          · cases ok
          · next found =>
            cases ok
            have := length_character_le found
            rw [List.length_cons]
            omega
      · split at ok <;> cases ok
        exact Nat.lt_succ_self _

/-- The characters up to the closing mark. -/
def body (text : List Char) : Except Fault (List Char × List Char) :=
  match _ : piece text with
  | .error fault => .error fault
  | .ok (none, rest) => .ok ([], rest)
  | .ok (some char, rest) =>
    match body rest with
    | .error fault => .error fault
    | .ok (chars, rest) => .ok (char :: chars, rest)
termination_by text.length
decreasing_by exact length_piece_lt (by assumption)

theorem length_body_lt {text rest chars : List Char} (ok : body text = .ok (chars, rest)) :
    rest.length < text.length := by
  fun_induction body text generalizing chars rest with
  | case1 => cases ok
  | case2 text rest' found => cases ok; exact length_piece_lt found
  | case3 => cases ok
  | case4 text char rest' found chars' rest'' _ ih =>
    cases ok
    exact Nat.lt_trans (ih (by assumption)) (length_piece_lt found)

/-! ### Skipping -/

/-- Gets past the next character; tells whether it was the closing mark. -/
def skipPiece (text : List Char) : Except Fault (Bool × List Char) :=
  match text with
  | [] => .error (.here .endInText [])
  | char :: rest =>
    if char = '"' then .ok (true, rest)
    else if char = '\\' then
      match escape rest with
      | .error fault => .error fault
      | .ok (_, rest) => .ok (false, rest)
    else if char.toNat < 0x20 then .error (.here .controlCharacter (char :: rest))
    else .ok (false, rest)

theorem length_skipPiece_lt {text rest : List Char} {closed : Bool}
    (ok : skipPiece text = .ok (closed, rest)) : rest.length < text.length := by
  unfold skipPiece at ok
  split at ok
  · cases ok
  · split at ok
    · cases ok; exact Nat.lt_succ_self _
    · split at ok
      · split at ok
        · cases ok
        · next escaped =>
          cases ok
          exact Nat.lt_trans (length_escape_lt escaped) (Nat.lt_succ_self _)
      · split at ok <;> cases ok
        exact Nat.lt_succ_self _

/-- Gets past the closing mark. -/
def skipBody (text : List Char) : Except Fault (List Char) :=
  match _ : skipPiece text with
  | .error fault => .error fault
  | .ok (true, rest) => .ok rest
  | .ok (false, rest) => skipBody rest
termination_by text.length
decreasing_by exact length_skipPiece_lt (by assumption)

theorem length_skipBody_lt {text rest : List Char} (ok : skipBody text = .ok rest) :
    rest.length < text.length := by
  fun_induction skipBody text with
  | case1 => cases ok
  | case2 text rest' found => cases ok; exact length_skipPiece_lt found
  | case3 text rest' found ih => exact Nat.lt_trans (ih ok) (length_skipPiece_lt found)

/-! ### Writing -/

/-- A character as it is written between quote marks: only the marks themselves, the backslash and
the control characters are escaped. -/
def encodeChar (char : Char) : List Char :=
  match char with
  | '"' => ['\\', '"']
  | '\\' => ['\\', '\\']
  | '\x08' => ['\\', 'b']
  | '\t' => ['\\', 't']
  | '\n' => ['\\', 'n']
  | '\x0c' => ['\\', 'f']
  | '\r' => ['\\', 'r']
  | char =>
    if char.toNat < 0x20 then
      ['\\', 'u', '0', '0', Nat.digitChar (char.toNat / 16), Nat.digitChar (char.toNat % 16)]
    else [char]

/-- A text between quote marks. -/
def encode (text : List Char) : List Char :=
  '"' :: text.flatMap encodeChar ++ ['"']

end FilterGraph.Json.Quoted
