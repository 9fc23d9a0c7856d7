/-
Reading whole JSON values. How deep lists and objects may nest is limited by a budget, which every
opening bracket lowers by one; the bracket that finds it spent is refused.
-/

import FilterGraph.Json.Literal
import FilterGraph.Json.Quoted

namespace FilterGraph.Json

/-! ### Scalars -/

/-- The rest of a word whose first letter is read. -/
def restOfWord : (word text : List Char) → Except Fault (List Char)
  | [], text => .ok text
  | _ :: _, [] => .error (.here .endInValue [])
  | letter :: word, char :: text =>
    if char = letter then restOfWord word text
    else .error (.next .expectedWord (char :: text))

theorem length_restOfWord_le {word text rest : List Char} (ok : restOfWord word text = .ok rest) :
    rest.length ≤ text.length := by
  fun_induction restOfWord word text with
  | case1 => cases ok; exact Nat.le_refl _
  | case2 => cases ok
  | case3 _ _ _ ih => exact Nat.le_succ_of_le (ih ok)
  | case4 => cases ok

/-- The words, by their first letter: what is left of the word, and what it stands for. -/
def wordOf (char : Char) : Option (List Char × Scalar) :=
  match char with
  | 'n' => some (['u', 'l', 'l'], .null)
  | 't' => some (['r', 'u', 'e'], .bool true)
  | 'f' => some (['a', 'l', 's', 'e'], .bool false)
  | _ => none

/-- Reads a value that is neither a list nor an object. -/
def readScalar : Reader Scalar where
  run text :=
    match skipBlanks text with
    | [] => .error (.next .endInValue [])
    | char :: rest =>
      match wordOf char with
      | some (word, scalar) =>
        match restOfWord word rest with
        | .error fault => .error fault
        | .ok rest => .ok (scalar, rest)
      | none =>
        if char = '"' then
          match Quoted.body rest with
          | .error fault => .error fault
          | .ok (chars, rest) => .ok (.text (String.ofList chars), rest)
        else if char = '-' ∨ char.isDigit then (readNumber.map Scalar.number).run (char :: rest)
        else .error (.next .expectedValue (char :: rest))
  shortens {text _ _} ok := by
    have skipped := length_skipBlanks_le text
    split at ok
    · cases ok
    · next char rest found =>
      rw [found, List.length_cons] at skipped
      split at ok
      · split at ok
        · cases ok
        · next word => cases ok; exact Nat.lt_of_le_of_lt (length_restOfWord_le word) skipped
      · split at ok
        · split at ok
          · cases ok
          · next body =>
            cases ok
            exact Nat.lt_of_lt_of_le (Quoted.length_body_lt body) (Nat.le_of_lt skipped)
        · split at ok
          · have := (readNumber.map Scalar.number).shortens ok
            rw [List.length_cons] at this
            omega
          · cases ok

/-- The fault of a text that holds something else than expected. A scalar is read to its end, so a
fault inside it comes first; an opening bracket is not touched. -/
def unexpected (expected : String) (text : List Char) : Fault :=
  match skipBlanks text with
  | '[' :: rest => .here (.wrongKind .list expected) ('[' :: rest)
  | '\x7b' :: rest => .here (.wrongKind .object expected) ('\x7b' :: rest)
  | text =>
    match readScalar.run text with
    | .error fault => fault
    | .ok (scalar, rest) => .here (.wrongKind (.scalar scalar) expected) rest

/-- Reads a text between quote marks. -/
def readText : Reader String where
  run text :=
    match skipBlanks text with
    | '"' :: rest =>
      match Quoted.body rest with
      | .error fault => .error fault
      | .ok (chars, rest) => .ok (String.ofList chars, rest)
    | _ => .error (unexpected "a string" text)
  shortens {text _ _} ok := by
    have skipped := length_skipBlanks_le text
    split at ok
    · next rest found =>
      rw [found, List.length_cons] at skipped
      split at ok
      · cases ok
      · next body => cases ok; exact Nat.lt_trans (Quoted.length_body_lt body) skipped
    · cases ok

/-! ### Members and lists -/

/-- Reads a key and the value behind the colon. -/
def readMember {α : Type} (value : String → Reader α) : Reader α where
  run text :=
    match text with
    | '"' :: rest =>
      match Quoted.body rest with
      | .error fault => .error fault
      | .ok (key, rest) =>
        match colon rest with
        | .error fault => .error fault
        | .ok rest => (value (String.ofList key)).run rest
    | text => .error (.next .keyNotText text)
  shortens ok := by
    split at ok
    · next rest =>
      split at ok
      · cases ok
      · next body =>
        split at ok
        · cases ok
        · next behind =>
          have := Quoted.length_body_lt body
          have := length_colon_lt behind
          have := (value _).shortens ok
          rw [List.length_cons]
          omega
    · cases ok

/-- Reads a list of things of one kind. -/
def readList {α : Type} (item : Reader α) : Reader (List α) where
  run text :=
    match skipBlanks text with
    | '[' :: rest => Bracket.list.collect item rest
    | _ => .error (unexpected "a sequence" text)
  shortens {text _ _} ok := by
    have skipped := length_skipBlanks_le text
    split at ok
    · next rest found =>
      rw [found, List.length_cons] at skipped
      exact Nat.lt_of_le_of_lt (Bracket.length_collect_le ok) skipped
    · cases ok

/-! ### Values -/

/-- The inside of a bracket, to be read by `inside`; a bracket that nothing can be read in is one
too many. -/
def readInside {α : Type} (bracket : Bracket) (inside : Option (Reader α)) (text rest : List Char) :
    Except Fault (List α × List Char) :=
  match inside with
  | none => .error (.next .tooDeep text)
  | some reader => bracket.collect reader rest

theorem length_readInside_le {α : Type} {bracket : Bracket} {inside : Option (Reader α)}
    {text rest rest' : List Char} {all : List α}
    (ok : readInside bracket inside text rest = .ok (all, rest')) : rest'.length ≤ rest.length := by
  unfold readInside at ok
  split at ok
  · cases ok
  · exact Bracket.length_collect_le ok

/-- Reads any value, where `inside` reads the values inside of lists and objects, if there may be
any. -/
def readValueWith (inside : Option (Reader Value)) : Reader Value where
  run text :=
    match skipBlanks text with
    | '[' :: rest =>
      match readInside .list inside ('[' :: rest) rest with
      | .error fault => .error fault
      | .ok (items, rest) => .ok (.list items, rest)
    | '\x7b' :: rest =>
      match readInside .object (inside.map fun reader =>
          readMember fun key => reader.map fun value => (key, value)) ('\x7b' :: rest) rest with
      | .error fault => .error fault
      | .ok (members, rest) => .ok (.object members, rest)
    | text => (readScalar.map Value.scalar).run text
  shortens {text _ _} ok := by
    have skipped := length_skipBlanks_le text
    split at ok
    · next rest found =>
      rw [found, List.length_cons] at skipped
      split at ok
      · cases ok
      · next read => cases ok; exact Nat.lt_of_le_of_lt (length_readInside_le read) skipped
    · next rest found =>
      rw [found, List.length_cons] at skipped
      split at ok
      · cases ok
      · next read => cases ok; exact Nat.lt_of_le_of_lt (length_readInside_le read) skipped
    · exact Nat.lt_of_lt_of_le ((readScalar.map Value.scalar).shortens ok) skipped

/-- Reads any value; lists and objects may nest as deep as the budget says. -/
def readValue : (budget : Nat) → Reader Value
  | 0 => readValueWith none
  | budget + 1 => readValueWith (some (readValue budget))

/-- How deep a whole text may nest. -/
def depthLimit : Nat := 127

/-! ### Whole texts -/

/-- Whether only blanks are left. -/
def onlyBlanks (text : List Char) : Except Fault Unit :=
  match skipBlanks text with
  | [] => .ok ()
  | char :: rest => .error (.next .trailingCharacters (char :: rest))

/-- A fault as a problem of the whole text. -/
def Fault.problem (fault : Fault) (whole : List Char) : Problem :=
  ⟨fault.cause, some (fault.position whole)⟩

/-- Reads a whole text. -/
def Reader.readAll {α : Type} (reader : Reader α) (source : String) : Except Problem α :=
  let text := source.toList
  match reader.run text with
  | .error fault => .error (fault.problem text)
  | .ok (value, rest) =>
    match onlyBlanks rest with
    | .error fault => .error (fault.problem text)
    | .ok () => .ok value

/-- Reads a whole text whose value may turn out not to fit; that has no place in the text, and it
comes before anything that is wrong behind the value. -/
def Reader.readAllFitting {α : Type} (reader : Reader (Except Cause α)) (source : String) :
    Except Problem α :=
  let text := source.toList
  match reader.run text with
  | .error fault => .error (fault.problem text)
  | .ok (.error cause, _) => .error ⟨cause, none⟩
  | .ok (.ok value, rest) =>
    match onlyBlanks rest with
    | .error fault => .error (fault.problem text)
    | .ok () => .ok value

end FilterGraph.Json
