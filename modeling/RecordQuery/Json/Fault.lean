set_option autoImplicit false

/-!
# Faults of JSON texts

What can be wrong with a JSON text, and where. Places are a line and a column, lines counted from
one, columns in bytes of UTF-8 up to and including the byte that is wrong.
-/

namespace RecordQuery.Json

/-- What is wrong with a JSON text. -/
inductive Cause where
  | endInList
  | endInObject
  | endInString
  | endInValue
  | expectedColon
  | expectedListEnd
  | expectedObjectEnd
  | expectedWord
  | expectedValue
  | invalidEscape
  | invalidNumber
  | numberOutOfRange
  | controlCharacter
  | keyNotString
  | loneSurrogate
  | trailingComma
  | trailingCharacters
  | unexpectedEscapeEnd
  | tooDeep
deriving DecidableEq, Repr

namespace Cause

/-- The wording of a cause. -/
def message : Cause → String
  | endInList => "EOF while parsing a list"
  | endInObject => "EOF while parsing an object"
  | endInString => "EOF while parsing a string"
  | endInValue => "EOF while parsing a value"
  | expectedColon => "expected `:`"
  | expectedListEnd => "expected `,` or `]`"
  | expectedObjectEnd => "expected `,` or `\x7d`"
  | expectedWord => "expected ident"
  | expectedValue => "expected value"
  | invalidEscape => "invalid escape"
  | invalidNumber => "invalid number"
  | numberOutOfRange => "number out of range"
  | controlCharacter =>
    "control character (\\u0000-\\u001F) found while parsing a string"
  | keyNotString => "key must be a string"
  | loneSurrogate => "lone leading surrogate in hex escape"
  | trailingComma => "trailing comma"
  | trailingCharacters => "trailing characters"
  | unexpectedEscapeEnd => "unexpected end of hex escape"
  | tooDeep => "recursion limit exceeded"

end Cause

/-- A cause at a place. -/
structure Fault where
  cause : Cause
  line : Nat
  column : Nat
deriving DecidableEq, Repr

/-- The wording of a fault. -/
def Fault.message (f : Fault) : String :=
  f.cause.message ++ " at line " ++ toString f.line ++ " column " ++ toString f.column

end RecordQuery.Json
