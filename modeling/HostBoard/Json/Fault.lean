import HostBoard.Json.Cursor
import HostBoard.Json.Printer
import HostBoard.Text.Quoted

/-!
# Faults of a JSON text

Everything that can be wrong with a JSON text or with its shape, each fault with the place where
it was noticed. The wording is kept in one place, `Fault.message`.
-/

namespace HostBoard

/-- What stood where something else was expected. -/
inductive Found where
  | scalar (value : Json)
  | sequence
  | map

/-- What is wrong with a text. -/
inductive Cause where
  | endInValue
  | endInString
  | endInList
  | endInObject
  | noValue
  | noIdentifier
  | noColon
  | noListEnd
  | noObjectEnd
  | badEscape
  | badNumber
  | numberTooLarge
  | controlCharacter
  | keyNotString
  | loneSurrogate
  | halfSurrogatePair
  | trailingComma
  | trailingCharacters
  | tooDeep
  | wrongType (found : Found) (expected : String)
  | missingField (name : String)
  | duplicateField (name : String)
  | wrongLength (count : Nat) (expected : String)

/-- A cause and the place where it was noticed. -/
structure Fault where
  cause : Cause
  position : Position

/-- The words for what was found. -/
def Found.description : Found → String
  | .scalar .null => "null"
  | .scalar (.bool b) => "boolean `" ++ (Json.bool b).compact ++ "`"
  | .scalar (.number (.int n)) => "integer `" ++ (Json.number (.int n)).compact ++ "`"
  | .scalar (.number (.float x)) => "floating point `" ++ (Json.number (.float x)).compact ++ "`"
  | .scalar (.string s) => "string " ++ Text.quoted s
  | .scalar (.array _) => "sequence"
  | .scalar (.object _) => "map"
  | .sequence => "sequence"
  | .map => "map"

/-- The words for a cause. -/
def Cause.description : Cause → String
  | .endInValue => "EOF while parsing a value"
  | .endInString => "EOF while parsing a string"
  | .endInList => "EOF while parsing a list"
  | .endInObject => "EOF while parsing an object"
  | .noValue => "expected value"
  | .noIdentifier => "expected ident"
  | .noColon => "expected `:`"
  | .noListEnd => "expected `,` or `]`"
  | .noObjectEnd => "expected `,` or `\x7d`"
  | .badEscape => "invalid escape"
  | .badNumber => "invalid number"
  | .numberTooLarge => "number out of range"
  | .controlCharacter => "control character (\\u0000-\\u001F) found while parsing a string"
  | .keyNotString => "key must be a string"
  | .loneSurrogate => "lone leading surrogate in hex escape"
  | .halfSurrogatePair => "unexpected end of hex escape"
  | .trailingComma => "trailing comma"
  | .trailingCharacters => "trailing characters"
  | .tooDeep => "recursion limit exceeded"
  | .wrongType found expected =>
    "invalid type: " ++ found.description ++ ", expected " ++ expected
  | .missingField name => "missing field `" ++ name ++ "`"
  | .duplicateField name => "duplicate field `" ++ name ++ "`"
  | .wrongLength count expected =>
    "invalid length " ++ toString count ++ ", expected " ++ expected

/-- The fault in words, with its line and column. -/
def Fault.message (fault : Fault) : String :=
  fault.cause.description ++ " at line " ++ toString fault.position.line ++
    " column " ++ toString fault.position.column

/-- A fault at the place reached. -/
def Cursor.fault (c : Cursor) (cause : Cause) : Fault :=
  ⟨cause, c.position⟩

/-- A fault at the next octet. -/
def Cursor.faultAhead (c : Cursor) (cause : Cause) : Fault :=
  ⟨cause, c.ahead⟩

end HostBoard
