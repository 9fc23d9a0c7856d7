/-
Records are written in two ways: as an object with a member for each field, in any order and with
other members between them, or as a list of the fields in their order. The shape of a record says
what its fields are; a draft collects the fields that were read.
-/

import FilterGraph.Json.Skip

namespace FilterGraph.Json

/-! ### Shapes -/

/-- A field of a record: its name, whether a draft has it, and how its value is read. A value may
be well formed and still not fit the field. -/
structure Field (σ : Type) where
  name : String
  isGiven : σ → Bool
  value : Reader (Except Cause (σ → σ))

/-- The shape of a record: drafts of type `σ` start empty, the fields fill them, and a draft that
has enough of them is finished; otherwise the first missing field is named. -/
structure Shape (σ α : Type) where
  name : String
  start : σ
  fields : List (Field σ)
  finish : σ → Except String α

variable {σ α : Type}

/-! ### Reading a field -/

/-- Reads the value of a field into the draft. A value that does not fit is found after the bracket
around the fields has been left. -/
def Field.read (bracket : Bracket) (field : Field σ) (draft : σ) : Reader σ where
  run text :=
    match field.value.run text with
    | .error fault => .error fault
    | .ok (.error cause, rest) => .error (.here cause (bracket.leave rest))
    | .ok (.ok change, rest) => .ok (change draft, rest)
  shortens ok := by
    split at ok
    · cases ok
    · cases ok
    · next read => cases ok; exact field.value.shortens read

namespace Shape

/-! ### Fields by name -/

/-- Reads one member. A key that names no field is skipped with its value; a field that the draft
has already is refused right behind its key. -/
def member (shape : Shape σ α) (draft : σ) : Reader σ where
  run text :=
    match text with
    | '"' :: rest =>
      match Quoted.body rest with
      | .error fault => .error fault
      | .ok (key, rest) =>
        match shape.fields.find? (·.name = String.ofList key) with
        | none =>
          match colon rest with
          | .error fault => .error fault
          | .ok rest => (skipValue.map fun () => draft).run rest
        | some field =>
          if field.isGiven draft then
            .error (.here (.duplicateField field.name) (Bracket.object.leave rest))
          else
            match colon rest with
            | .error fault => .error fault
            | .ok rest => (field.read .object draft).run rest
    | text => .error (.next .keyNotText text)
  shortens ok := by
    split at ok
    · next rest =>
      rw [List.length_cons]
      split at ok
      · cases ok
      · next body =>
        have := Quoted.length_body_lt body
        split at ok
        · split at ok
          · cases ok
          · next behind =>
            have := length_colon_lt behind
            have := (skipValue.map fun () => draft).shortens ok
            omega
        · next field _ =>
          split at ok
          · cases ok
          · split at ok
            · cases ok
            · next behind =>
              have := length_colon_lt behind
              have := (field.read .object draft).shortens ok
              omega
    · cases ok

/-- Reads the members behind the opening bracket. -/
def byName (shape : Shape σ α) (text : List Char) : Except Fault (α × List Char) :=
  match Bracket.object.parts shape.member shape.start text with
  | .error fault => .error fault
  | .ok (draft, rest) =>
    match shape.finish draft with
    | .error missing => .error (.here (.missingField missing) rest)
    | .ok value => .ok (value, rest)

theorem length_byName_le {shape : Shape σ α} {text rest : List Char} {value : α}
    (ok : shape.byName text = .ok (value, rest)) : rest.length ≤ text.length := by
  unfold byName at ok
  split at ok
  · cases ok
  · next parts =>
    split at ok <;> cases ok
    exact Bracket.length_parts_le parts

/-! ### Fields by position -/

/-- The end of a list whose fields are all read: nothing but the closing bracket may follow. -/
def closeList (text : List Char) : Except Fault (List Char) :=
  match skipBlanks text with
  | [] => .error (.next .endInList [])
  | ']' :: rest => .ok rest
  | ',' :: rest =>
    match skipBlanks rest with
    | ']' :: rest => .error (.next .trailingComma (']' :: rest))
    | rest => .error (.next .trailingCharacters rest)
  | rest => .error (.next .trailingCharacters rest)

/-- Reads the fields one after the other, until they are all read or the list is closed; gives the
number of fields that are left. `follows` finds the next item. -/
def items (follows : List Char → Except Fault Continuation) (draft : σ) (text : List Char) :
    List (Field σ) → Except Fault (σ × Nat × List Char)
  | [] =>
    match closeList text with
    | .error fault => .error fault
    | .ok rest => .ok (draft, 0, rest)
  | field :: others =>
    match follows text with
    | .error fault => .error fault
    | .ok (.closed rest) => .ok (draft, others.length + 1, rest)
    | .ok (.another text) =>
      match (field.read .list draft).run text with
      | .error fault => .error fault
      | .ok (draft, rest) => items Bracket.list.after draft rest others

/-- Reads the items behind the opening bracket. -/
def byPosition (shape : Shape σ α) (text : List Char) : Except Fault (α × List Char) :=
  match items Bracket.list.first shape.start text shape.fields with
  | .error fault => .error fault
  | .ok (draft, left, rest) =>
    match shape.finish draft with
    | .error _ =>
      let count := shape.fields.length
      .error (.here (.wrongLength (count - left) shape.name count) rest)
    | .ok value => .ok (value, rest)

theorem length_closeList_lt {text rest : List Char} (ok : closeList text = .ok rest) :
    rest.length < text.length := by
  unfold closeList at ok
  split at ok
  · cases ok
  · next found => cases ok; exact length_lt_of_skipBlanks found
  · split at ok <;> cases ok
  · cases ok

theorem length_items_le {follows : List Char → Except Fault Continuation} {draft final : σ}
    {text rest : List Char} {fields : List (Field σ)} {left : Nat}
    (shorter : ∀ {text continuation}, follows text = .ok continuation →
      continuation.text.length ≤ text.length)
    (ok : items follows draft text fields = .ok (final, left, rest)) :
    rest.length ≤ text.length := by
  induction fields generalizing follows draft text with
  | nil =>
    unfold items at ok
    split at ok <;> cases ok
    next closed => exact Nat.le_of_lt (length_closeList_lt closed)
  | cons field others ih =>
    unfold items at ok
    split at ok
    · cases ok
    · next found => cases ok; exact shorter found
    · next item found =>
      have := shorter found
      split at ok
      · cases ok
      · next read =>
        have := (field.read .list draft).shortens read
        have := ih (fun after => Nat.le_of_lt (Bracket.length_after_lt after)) ok
        simp only [Continuation.text] at *
        omega

theorem length_byPosition_le {shape : Shape σ α} {text rest : List Char} {value : α}
    (ok : shape.byPosition text = .ok (value, rest)) : rest.length ≤ text.length := by
  unfold byPosition at ok
  split at ok
  · cases ok
  · next items =>
    split at ok <;> cases ok
    exact length_items_le Bracket.length_first_le items

/-! ### Records -/

/-- Reads a record in either way. -/
def reader (shape : Shape σ α) : Reader α where
  run text :=
    match skipBlanks text with
    | '\x7b' :: rest => shape.byName rest
    | '[' :: rest => shape.byPosition rest
    | _ => .error (unexpected ("struct " ++ shape.name) text)
  shortens ok := by
    split at ok
    · next found => exact Nat.lt_of_le_of_lt (length_byName_le ok) (length_lt_of_skipBlanks found)
    · next found =>
      exact Nat.lt_of_le_of_lt (length_byPosition_le ok) (length_lt_of_skipBlanks found)
    · cases ok

end Shape

end FilterGraph.Json
