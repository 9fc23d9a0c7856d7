/-
Readers take something off the front of a text, or say why they cannot. A reader never succeeds
without reading something, so a loop over readers ends because the text does; the proof travels
with the reader. Lists and objects share one loop: what a bracket opens goes on, after each part,
with a comma or with the matching bracket.
-/

import FilterGraph.Json.Fault

namespace FilterGraph.Json

/-! ### Readers -/

/-- Takes a value off the front of a text and gives it with the rest, which is always shorter. -/
structure Reader (α : Type) where
  run : List Char → Except Fault (α × List Char)
  shortens : ∀ {text value rest}, run text = .ok (value, rest) → rest.length < text.length

/-- Reads the same text as another reader and gives a function of its value. -/
def Reader.map {α β : Type} (f : α → β) (reader : Reader α) : Reader β where
  run text :=
    match reader.run text with
    | .error fault => .error fault
    | .ok (value, rest) => .ok (f value, rest)
  shortens {text value rest} ok := by
    split at ok
    · cases ok
    · next found => cases ok; exact reader.shortens found

/-! ### Blanks -/

/-- The characters that may stand between the parts of a text. -/
def isBlank (char : Char) : Bool :=
  char = ' ' || char = '\n' || char = '\t' || char = '\r'

/-- The text without the blanks at its front. -/
def skipBlanks (text : List Char) : List Char :=
  text.dropWhile isBlank

theorem length_skipBlanks_le (text : List Char) : (skipBlanks text).length ≤ text.length :=
  (List.dropWhile_sublist _).length_le

theorem length_lt_of_skipBlanks {text rest : List Char} {char : Char}
    (found : skipBlanks text = char :: rest) : rest.length < text.length := by
  have skipped := length_skipBlanks_le text
  rw [found, List.length_cons] at skipped
  exact skipped

/-! ### What a bracket opens -/

/-- The two kinds of bracket. -/
inductive Bracket where
  | list
  | object
  deriving DecidableEq, Repr

namespace Bracket

/-- The character that closes what the bracket opened. -/
def closing : Bracket → Char
  | list => ']'
  | object => '\x7d'

/-- The fault of a text that ends before the bracket is closed. -/
def endCause : Bracket → Cause
  | list => .endInList
  | object => .endInObject

/-- The fault of a part that is followed by neither a comma nor the closing bracket. -/
def commaCause : Bracket → Cause
  | list => .expectedCommaInList
  | object => .expectedCommaInObject

end Bracket

/-- How the inside of a bracket goes on: with one more part, or behind the closing bracket. -/
inductive Continuation where
  | another (text : List Char)
  | closed (rest : List Char)

namespace Continuation

/-- The text at which the inside of the bracket goes on. -/
def text : Continuation → List Char
  | another text => text
  | closed rest => rest

end Continuation

namespace Bracket

/-- A part begins here; in an object it has to begin with its key. -/
def part (bracket : Bracket) (text : List Char) : Except Fault Continuation :=
  match bracket with
  | list => .ok (.another text)
  | object => if text.head? = some '"' then .ok (.another text) else .error (.next .keyNotText text)

/-- What follows the opening bracket. -/
def first (bracket : Bracket) (text : List Char) : Except Fault Continuation :=
  match skipBlanks text with
  | [] => .error (.next bracket.endCause [])
  | char :: rest =>
    if char = bracket.closing then .ok (.closed rest) else bracket.part (char :: rest)

/-- What follows the comma behind a part: a comma never stands before the closing bracket. -/
def afterComma (bracket : Bracket) (text : List Char) : Except Fault Continuation :=
  match skipBlanks text with
  | [] => .error (.next .endInValue [])
  | char :: rest =>
    if char = bracket.closing then .error (.next .trailingComma (char :: rest))
    else bracket.part (char :: rest)

/-- What follows a part. -/
def after (bracket : Bracket) (text : List Char) : Except Fault Continuation :=
  match skipBlanks text with
  | [] => .error (.next bracket.endCause [])
  | char :: rest =>
    if char = bracket.closing then .ok (.closed rest)
    else if char = ',' then bracket.afterComma rest
    else .error (.next bracket.commaCause (char :: rest))

theorem part_eq {bracket : Bracket} {text : List Char} {continuation : Continuation}
    (ok : bracket.part text = .ok continuation) : continuation = .another text := by
  unfold part at ok
  split at ok
  · cases ok; rfl
  · split at ok <;> cases ok; rfl

theorem length_afterComma_le {bracket : Bracket} {text : List Char} {continuation : Continuation}
    (ok : bracket.afterComma text = .ok continuation) :
    continuation.text.length ≤ text.length := by
  have skipped := length_skipBlanks_le text
  unfold afterComma at ok
  split at ok
  · cases ok
  · next char rest found =>
    rw [found] at skipped
    split at ok
    · cases ok
    · rw [part_eq ok]; exact skipped

theorem length_first_le {bracket : Bracket} {text : List Char} {continuation : Continuation}
    (ok : bracket.first text = .ok continuation) : continuation.text.length ≤ text.length := by
  have skipped := length_skipBlanks_le text
  unfold first at ok
  split at ok
  · cases ok
  · next char rest found =>
    rw [found] at skipped
    split at ok
    · cases ok
      exact Nat.le_of_succ_le skipped
    · rw [part_eq ok]; exact skipped

theorem length_after_lt {bracket : Bracket} {text : List Char} {continuation : Continuation}
    (ok : bracket.after text = .ok continuation) : continuation.text.length < text.length := by
  have skipped := length_skipBlanks_le text
  unfold after at ok
  split at ok
  · cases ok
  · next char rest found =>
    rw [found, List.length_cons] at skipped
    split at ok
    · cases ok
      exact skipped
    · split at ok
      · exact Nat.lt_of_le_of_lt (length_afterComma_le ok) skipped
      · cases ok

/-! ### The loop over the parts -/

/-- Reads the parts inside a bracket up to the closing one. Each part is read in view of the
state reached so far and gives the next state. -/
def fold {σ : Type} (bracket : Bracket) (part : σ → Reader σ) (state : σ)
    (continuation : Continuation) : Except Fault (σ × List Char) :=
  match continuation with
  | .closed rest => .ok (state, rest)
  | .another text =>
    match _ : (part state).run text with
    | .error fault => .error fault
    | .ok (state, rest) =>
      match _ : bracket.after rest with
      | .error fault => .error fault
      | .ok continuation => bracket.fold part state continuation
termination_by continuation.text.length
decreasing_by
  exact Nat.lt_trans (length_after_lt (by assumption)) ((part _).shortens (by assumption))

theorem length_fold_le {σ : Type} {bracket : Bracket} {part : σ → Reader σ} {state final : σ}
    {continuation : Continuation} {rest : List Char}
    (ok : bracket.fold part state continuation = .ok (final, rest)) :
    rest.length ≤ continuation.text.length := by
  fun_induction bracket.fold part state continuation with
  | case1 state rest => cases ok; exact Nat.le_refl _
  | case2 => cases ok
  | case3 => cases ok
  | case4 state text state' rest' found continuation follows ih =>
    exact Nat.le_trans (ih ok) (Nat.le_of_lt
      (Nat.lt_trans (length_after_lt follows) ((part state).shortens found)))

/-- Reads all parts, from behind the opening bracket. -/
def parts {σ : Type} (bracket : Bracket) (part : σ → Reader σ) (state : σ) (text : List Char) :
    Except Fault (σ × List Char) :=
  match bracket.first text with
  | .error fault => .error fault
  | .ok continuation => bracket.fold part state continuation

theorem length_parts_le {σ : Type} {bracket : Bracket} {part : σ → Reader σ} {state final : σ}
    {text rest : List Char} (ok : bracket.parts part state text = .ok (final, rest)) :
    rest.length ≤ text.length := by
  unfold parts at ok
  split at ok
  · cases ok
  · next found => exact Nat.le_trans (length_fold_le ok) (length_first_le found)

/-- Reads the parts of a list or object in their order, from behind the opening bracket. -/
def collect {α : Type} (bracket : Bracket) (part : Reader α) (text : List Char) :
    Except Fault (List α × List Char) :=
  match bracket.parts (fun read => part.map (· :: read)) [] text with
  | .error fault => .error fault
  | .ok (read, rest) => .ok (read.reverse, rest)

theorem length_collect_le {α : Type} {bracket : Bracket} {part : Reader α} {text rest : List Char}
    {all : List α} (ok : bracket.collect part text = .ok (all, rest)) :
    rest.length ≤ text.length := by
  unfold collect at ok
  split at ok
  · cases ok
  · next found => cases ok; exact length_parts_le found

/-- The text a fault without a place of its own leaves unread, when it came up inside the bracket:
the bracket is closed, if that is what comes next. A list also gets past a comma. -/
def leave (bracket : Bracket) (text : List Char) : List Char :=
  match skipBlanks text with
  | [] => []
  | char :: rest =>
    if char = bracket.closing then rest
    else if bracket = list ∧ char = ',' then skipBlanks rest
    else char :: rest

end Bracket

/-- The colon between a key and its value, and the blanks before it. -/
def colon (text : List Char) : Except Fault (List Char) :=
  match skipBlanks text with
  | [] => .error (.next .endInObject [])
  | char :: rest =>
    if char = ':' then .ok rest else .error (.next .expectedColon (char :: rest))

theorem length_colon_lt {text rest : List Char} (ok : colon text = .ok rest) :
    rest.length < text.length := by
  have skipped := length_skipBlanks_le text
  unfold colon at ok
  split at ok
  · cases ok
  · next char rest' found =>
    rw [found, List.length_cons] at skipped
    split at ok <;> cases ok
    exact skipped

end FilterGraph.Json
