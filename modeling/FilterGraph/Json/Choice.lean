/-
A choice between two words. It is written as one of them, or as an object with the word as its only
key and `null` as the value.
-/

import FilterGraph.Json.Document

namespace FilterGraph.Json

/-- Two words and what each stands for. -/
structure Choice (α : Type) where
  first : String × α
  second : String × α

namespace Choice

variable {α : Type}

/-- What the word stands for. -/
def pick (choice : Choice α) (word : String) : Except Cause α :=
  if word = choice.first.1 then .ok choice.first.2
  else if word = choice.second.1 then .ok choice.second.2
  else .error (.unknownChoice word choice.first.1 choice.second.1)

/-- Reads one of the words, from behind the opening mark. -/
def word (choice : Choice α) (text : List Char) : Except Fault (α × List Char) :=
  match Quoted.body text with
  | .error fault => .error fault
  | .ok (chars, rest) =>
    match choice.pick (String.ofList chars) with
    | .error cause => .error (.here cause rest)
    | .ok value => .ok (value, rest)

/-- The value `null`. -/
def nothing (text : List Char) : Except Fault (List Char) :=
  match skipBlanks text with
  | 'n' :: rest => restOfWord ['u', 'l', 'l'] rest
  | _ => .error (unexpected "unit" text)

/-- What follows the word when it is a key. -/
def behindKey (text : List Char) : Except Fault (List Char) :=
  match colon text with
  | .error fault => .error fault
  | .ok rest =>
    match nothing rest with
    | .error fault => .error fault
    | .ok rest =>
      match skipBlanks rest with
      | [] => .error (.here .endInObject [])
      | '\x7d' :: rest => .ok rest
      | rest => .error (.here .expectedValue rest)

/-- Reads the object form, from behind the opening bracket. -/
def asKey (choice : Choice α) (text : List Char) : Except Fault (α × List Char) :=
  match skipBlanks text with
  | [] => .error (.next .endInObject [])
  | '\x7d' :: rest => .error (.next .expectedValue ('\x7d' :: rest))
  | '"' :: rest =>
    match choice.word rest with
    | .error fault => .error fault
    | .ok (value, rest) =>
      match behindKey rest with
      | .error fault => .error fault
      | .ok rest => .ok (value, rest)
  | rest => .error (.next .keyNotText rest)

theorem length_word_lt {choice : Choice α} {text rest : List Char} {value : α}
    (ok : choice.word text = .ok (value, rest)) : rest.length < text.length := by
  unfold word at ok
  split at ok
  · cases ok
  · next body => split at ok <;> cases ok; exact Quoted.length_body_lt body

theorem length_nothing_lt {text rest : List Char} (ok : nothing text = .ok rest) :
    rest.length < text.length := by
  unfold nothing at ok
  split at ok
  · next found =>
    exact Nat.lt_of_le_of_lt (length_restOfWord_le ok) (length_lt_of_skipBlanks found)
  · cases ok

theorem length_behindKey_lt {text rest : List Char} (ok : behindKey text = .ok rest) :
    rest.length < text.length := by
  unfold behindKey at ok
  split at ok
  · cases ok
  · next behind =>
    have := length_colon_lt behind
    split at ok
    · cases ok
    · next null =>
      have := length_nothing_lt null
      split at ok
      · cases ok
      · next found => cases ok; have := length_lt_of_skipBlanks found; omega
      · cases ok

theorem length_asKey_lt {choice : Choice α} {text rest : List Char} {value : α}
    (ok : choice.asKey text = .ok (value, rest)) : rest.length < text.length := by
  unfold asKey at ok
  split at ok
  · cases ok
  · cases ok
  · next found =>
    have := length_lt_of_skipBlanks found
    split at ok
    · cases ok
    · next word =>
      have := length_word_lt word
      split at ok
      · cases ok
      · next behind => cases ok; have := length_behindKey_lt behind; omega
  · cases ok

/-- Reads a choice in either form. -/
def reader (choice : Choice α) : Reader α where
  run text :=
    match skipBlanks text with
    | [] => .error (.next .endInValue [])
    | '"' :: rest => choice.word rest
    | '\x7b' :: rest => choice.asKey rest
    | rest => .error (.next .expectedValue rest)
  shortens ok := by
    split at ok
    · cases ok
    · next found => exact Nat.lt_trans (length_word_lt ok) (length_lt_of_skipBlanks found)
    · next found => exact Nat.lt_trans (length_asKey_lt ok) (length_lt_of_skipBlanks found)
    · cases ok

end Choice

end FilterGraph.Json
