/-
Skipping a value nobody asks for. The grammar is that of a value, but what only the value's meaning
would show does not matter: numbers may be too large, units may be unpaired, and brackets may nest
without limit, since the open ones are kept on a list.
-/

import FilterGraph.Json.Document

namespace FilterGraph.Json.Skip

/-! ### Scalars and keys -/

/-- Gets past a value that does not begin with a bracket. -/
def scalar (text : List Char) : Except Fault (List Char) :=
  match text with
  | [] => .error (.next .endInValue [])
  | char :: rest =>
    match wordOf char with
    | some (word, _) => restOfWord word rest
    | none =>
      if char = '"' then Quoted.skipBody rest
      else if char = '-' ∨ char.isDigit then
        match Literal.scan .invalidNumber (char :: rest) with
        | .error fault => .error fault
        | .ok (_, rest) => .ok rest
      else .error (.next .expectedValue (char :: rest))

/-- Gets past a key and the colon behind it. -/
def key (text : List Char) : Except Fault (List Char) :=
  match skipBlanks text with
  | [] => .error (.next .endInObject [])
  | char :: rest =>
    if char = '"' then
      match Quoted.skipBody rest with
      | .error fault => .error fault
      | .ok rest => colon rest
    else .error (.next .keyNotText (char :: rest))

/-- Gets to the value of the next part: past its key, in an object. -/
def part (bracket : Bracket) (text : List Char) : Except Fault (List Char) :=
  match bracket with
  | .list => .ok text
  | .object => key text

theorem length_scalar_lt {text rest : List Char} (ok : scalar text = .ok rest) :
    rest.length < text.length := by
  unfold scalar at ok
  split at ok
  · cases ok
  · split at ok
    · exact Nat.lt_succ_of_le (length_restOfWord_le ok)
    · split at ok
      · exact Nat.lt_trans (Quoted.length_skipBody_lt ok) (Nat.lt_succ_self _)
      · split at ok
        · split at ok
          · cases ok
          · next scanned => cases ok; exact Literal.length_scan_lt scanned
        · cases ok

theorem length_key_lt {text rest : List Char} (ok : key text = .ok rest) :
    rest.length < text.length := by
  have skipped := length_skipBlanks_le text
  unfold key at ok
  split at ok
  · cases ok
  · next found =>
    rw [found, List.length_cons] at skipped
    split at ok
    · split at ok
      · cases ok
      · next body =>
        have := Quoted.length_skipBody_lt body
        have := length_colon_lt ok
        omega
    · cases ok

theorem length_part_le {bracket : Bracket} {text rest : List Char}
    (ok : part bracket text = .ok rest) : rest.length ≤ text.length := by
  unfold part at ok
  split at ok
  · cases ok; exact Nat.le_refl _
  · exact Nat.le_of_lt (length_key_lt ok)

/-! ### Values -/

/-- Where the skipping stands: before a value, behind an opening bracket, or behind a value. -/
inductive Place where
  | value
  | opened
  | after
  deriving DecidableEq, Repr

/-- What is left to do at a place is bounded by the text, except that behind an opening bracket a
value may begin at once. -/
def Place.remaining (place : Place) (text : List Char) : Nat :=
  2 * text.length + if place = opened then 1 else 0

theorem remaining_lt {text rest : List Char} {char : Char} {place next : Place}
    (found : skipBlanks text = char :: rest) : next.remaining rest < place.remaining text := by
  have skipped := length_skipBlanks_le text
  rw [found, List.length_cons] at skipped
  unfold Place.remaining
  split <;> split <;> omega

theorem remaining_scalar_lt {text unblanked rest : List Char} {place next : Place}
    (found : skipBlanks text = unblanked) (ok : scalar unblanked = .ok rest) :
    next.remaining rest < place.remaining text := by
  have skipped := length_skipBlanks_le text
  have := length_scalar_lt ok
  subst found
  unfold Place.remaining
  split <;> split <;> omega

theorem remaining_part_lt {text rest rest' : List Char} {bracket : Bracket} {char : Char}
    {place : Place} (found : skipBlanks text = char :: rest)
    (ok : part bracket rest = .ok rest') :
    Place.value.remaining rest' < place.remaining text := by
  have skipped := length_skipBlanks_le text
  have := length_part_le ok
  rw [found, List.length_cons] at skipped
  simp only [Place.remaining, reduceCtorEq, if_false]
  split <;> omega

theorem remaining_first_lt {text rest rest' : List Char} {bracket : Bracket} {char : Char}
    (found : skipBlanks text = char :: rest)
    (ok : part bracket (char :: rest) = .ok rest') :
    Place.value.remaining rest' < Place.opened.remaining text := by
  have skipped := length_skipBlanks_le text
  have := length_part_le ok
  rw [found] at skipped
  simp only [Place.remaining, reduceCtorEq, if_false, if_true]
  omega

/-- Gets past the value, and past all brackets that are open, the innermost first. -/
def skip (place : Place) (brackets : List Bracket) (text : List Char) :
    Except Fault (List Char) :=
  match place, brackets with
  | .value, brackets =>
    match _ : skipBlanks text with
    | '[' :: rest => skip .opened (.list :: brackets) rest
    | '\x7b' :: rest => skip .opened (.object :: brackets) rest
    | text =>
      match _ : scalar text with
      | .error fault => .error fault
      | .ok rest => skip .after brackets rest
  | .opened, [] => .ok text
  | .after, [] => .ok text
  | .opened, bracket :: brackets =>
    match _ : skipBlanks text with
    | [] => .error (.next bracket.endCause [])
    | char :: rest =>
      if char = bracket.closing then skip .after brackets rest
      else
        match _ : part bracket (char :: rest) with
        | .error fault => .error fault
        | .ok rest => skip .value (bracket :: brackets) rest
  | .after, bracket :: brackets =>
    match _ : skipBlanks text with
    | [] => .error (.next bracket.endCause [])
    | char :: rest =>
      if char = bracket.closing then skip .after brackets rest
      else if char = ',' then
        match _ : part bracket rest with
        | .error fault => .error fault
        | .ok rest => skip .value (bracket :: brackets) rest
      else .error (.next bracket.commaCause (char :: rest))
termination_by place.remaining text
decreasing_by
  · exact remaining_lt (by assumption)
  · exact remaining_lt (by assumption)
  · exact remaining_scalar_lt (by assumption) (by assumption)
  · exact remaining_lt (by assumption)
  · exact remaining_first_lt (by assumption) (by assumption)
  · exact remaining_lt (by assumption)
  · exact remaining_part_lt (by assumption) (by assumption)

theorem length_skip {place : Place} {brackets : List Bracket} {text rest : List Char}
    (ok : skip place brackets text = .ok rest) :
    rest.length + (if place = .value then 1 else 0) ≤ text.length := by
  fun_induction skip place brackets text with
  | case1 text _ _ found ih =>
    have := length_lt_of_skipBlanks found
    have := ih ok
    simp at this ⊢
    omega
  | case2 text _ _ found ih =>
    have := length_lt_of_skipBlanks found
    have := ih ok
    simp at this ⊢
    omega
  | case3 => cases ok
  | case4 text _ _ _ _ read ih =>
    have := length_scalar_lt read
    have := length_skipBlanks_le text
    have := ih ok
    simp at this ⊢
    omega
  | case5 => cases ok; simp
  | case6 => cases ok; simp
  | case7 => cases ok
  | case8 text _ _ _ found ih =>
    have := length_lt_of_skipBlanks found
    have := ih ok
    simp at this ⊢
    omega
  | case9 => cases ok
  | case10 text _ _ _ _ found _ _ read ih =>
    have shorter := length_part_le read
    have := length_lt_of_skipBlanks found
    have := ih ok
    simp at this shorter ⊢
    omega
  | case11 => cases ok
  | case12 text _ _ _ found ih =>
    have := length_lt_of_skipBlanks found
    have := ih ok
    simp at this ⊢
    omega
  | case13 => cases ok
  | case14 text _ _ _ _ read found _ ih =>
    have := length_part_le read
    have := length_lt_of_skipBlanks found
    have := ih ok
    simp at this ⊢
    omega
  | case15 => cases ok

end FilterGraph.Json.Skip

namespace FilterGraph.Json

/-- Skips a value. -/
def skipValue : Reader Unit where
  run text :=
    match Skip.skip .value [] text with
    | .error fault => .error fault
    | .ok rest => .ok ((), rest)
  shortens ok := by
    split at ok
    · cases ok
    · next skipped => cases ok; exact Skip.length_skip skipped

end FilterGraph.Json
