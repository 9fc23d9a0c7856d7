/-
What can be wrong with a JSON text, and where. A reader that fails says which text was still unread;
the line and column follow from that and the whole text. A cause that concerns a value as a whole
has no place of its own: the innermost list or object that is being read gives it one.
-/

import FilterGraph.Json.Value
import FilterGraph.Text.Quoted

namespace FilterGraph.Json

/-! ### Causes -/

/-- What was found where another kind of value was expected. -/
inductive Found where
  | scalar (value : Scalar)
  | list
  | object

/-- Why a text is refused. -/
inductive Cause where
  | endInValue
  | endInList
  | endInObject
  | endInText
  | expectedValue
  | expectedWord
  | expectedColon
  | expectedCommaInList
  | expectedCommaInObject
  | keyNotText
  | trailingComma
  | trailingCharacters
  | controlCharacter
  | invalidEscape
  | loneSurrogate
  | unfinishedPair
  | invalidNumber
  | numberOutOfRange
  | tooDeep
  | wrongKind (found : Found) (expected : String)
  | wrongLength (length : Nat) (name : String) (expected : Nat)
  | unknownChoice (found first second : String)
  | missingField (name : String)
  | duplicateField (name : String)
  | noVariant (name : String)

/-- The name of what was found, with the scalar itself. -/
def Found.message : Found → String
  | scalar .null => "null"
  | scalar (.bool value) => s!"boolean `{value}`"
  | scalar (.number (.integer value _)) =>
    "integer `" ++ String.ofList (Number.integerText value) ++ "`"
  | scalar (.number (.real value _)) =>
    "floating point `" ++ String.ofList (Number.realStyle.writeFloat value) ++ "`"
  | scalar (.text value) => "string " ++ Text.quoted value
  | list => "sequence"
  | object => "map"

/-- The wording of a cause, without its place. -/
def Cause.message : Cause → String
  | endInValue => "EOF while parsing a value"
  | endInList => "EOF while parsing a list"
  | endInObject => "EOF while parsing an object"
  | endInText => "EOF while parsing a string"
  | expectedValue => "expected value"
  | expectedWord => "expected ident"
  | expectedColon => "expected `:`"
  | expectedCommaInList => "expected `,` or `]`"
  | expectedCommaInObject => "expected `,` or `\x7d`"
  | keyNotText => "key must be a string"
  | trailingComma => "trailing comma"
  | trailingCharacters => "trailing characters"
  | controlCharacter => "control character (\\u0000-\\u001F) found while parsing a string"
  | invalidEscape => "invalid escape"
  | loneSurrogate => "lone leading surrogate in hex escape"
  | unfinishedPair => "unexpected end of hex escape"
  | invalidNumber => "invalid number"
  | numberOutOfRange => "number out of range"
  | tooDeep => "recursion limit exceeded"
  | wrongKind found expected => "invalid type: " ++ found.message ++ ", expected " ++ expected
  | wrongLength length name expected =>
    s!"invalid length {length}, expected struct {name} with {expected} elements"
  | unknownChoice found first second =>
    s!"unknown variant `{found}`, expected `{first}` or `{second}`"
  | missingField name => s!"missing field `{name}`"
  | duplicateField name => s!"duplicate field `{name}`"
  | noVariant name => s!"data did not match any variant of untagged enum {name}"

/-! ### Places -/

/-- A place in a text: lines count from one, columns are the bytes since the last line break. -/
structure Position where
  line : Nat
  column : Nat
  deriving DecidableEq, Repr

/-- The position after so many bytes of the text, coming from a position before it. -/
def Position.advance (position : Position) : (bytes : Nat) → (text : List Char) → Position
  | 0, _ => position
  | _, [] => position
  | bytes + 1, char :: text =>
    if bytes + 1 < char.utf8Size then ⟨position.line, position.column + bytes + 1⟩
    else if char = '\n' then
      Position.advance ⟨position.line + 1, 0⟩ (bytes + 1 - char.utf8Size) text
    else Position.advance ⟨position.line, position.column + char.utf8Size⟩
      (bytes + 1 - char.utf8Size) text

/-- The number of bytes of a text in UTF-8. -/
def byteCount (text : List Char) : Nat :=
  text.foldr (fun char bytes => char.utf8Size + bytes) 0

/-- A failed reading: its cause, the text that was still unread, and how many bytes of that text
the place of the failure lies ahead. -/
structure Fault where
  cause : Cause
  unread : List Char
  ahead : Nat

namespace Fault

/-- A fault at the end of what was read. -/
def here (cause : Cause) (unread : List Char) : Fault :=
  ⟨cause, unread, 0⟩

/-- A fault of the next byte. -/
def next (cause : Cause) (unread : List Char) : Fault :=
  ⟨cause, unread, 1⟩

/-- The place of a fault in the whole text; it never lies behind the end. -/
def position (fault : Fault) (whole : List Char) : Position :=
  Position.advance ⟨1, 0⟩ (byteCount whole - byteCount fault.unread + fault.ahead) whole

end Fault

/-- Why a whole text could not be read, and the place, if the cause has one. -/
structure Problem where
  cause : Cause
  position : Option Position

/-- The wording of a problem. -/
def Problem.message (problem : Problem) : String :=
  match problem.position with
  | none => problem.cause.message
  | some position =>
    s!"{problem.cause.message} at line {position.line} column {position.column}"

end FilterGraph.Json
