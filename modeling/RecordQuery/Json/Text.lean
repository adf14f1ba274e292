import RecordQuery.Json.Basic
import RecordQuery.Number.Text

set_option autoImplicit false

/-!
# JSON as text

Writing a JSON value on one line without blanks.

## Main definitions

* `RecordQuery.Json.numberStyle` — how numbers that are not kept as integers are written.
* `RecordQuery.Json.quote` — a text as a JSON string.
* `RecordQuery.Json.toText` — a value as JSON text.
-/

namespace RecordQuery.Json

/-- All places are written from `0.00001` up to sixteen digits before the point, and a whole number
shows a zero behind the point. Of two decimals that are equally near the even one is taken. -/
def numberStyle : NumberStyle := ⟨.even, fun e => -5 ≤ e && e < 16, ".0"⟩

/-- The two hexadecimal digits of a number below 256. -/
def twoHex (n : Nat) : List Char := [Nat.digitChar (n / 16), Nat.digitChar (n % 16)]

/-- A character inside a JSON string. Only quotes, backslashes and control characters below the
blank are escaped, five of them by a letter. -/
def escape (c : Char) : List Char :=
  if c = '"' then ['\\', '"']
  else if c = '\\' then ['\\', '\\']
  else if c = '\x08' then ['\\', 'b']
  else if c = '\x0c' then ['\\', 'f']
  else if c = '\n' then ['\\', 'n']
  else if c = '\r' then ['\\', 'r']
  else if c = '\t' then ['\\', 't']
  else if c.toNat < 0x20 then ['\\', 'u', '0', '0'] ++ twoHex c.toNat
  else [c]

/-- A text as a JSON string. -/
def quote (s : String) : List Char := '"' :: s.toList.flatMap escape ++ ['"']

mutual

/-- The characters of a value. -/
def write : Json → List Char
  | null => "null".toList
  | bool true => "true".toList
  | bool false => "false".toList
  | integer n => (toString n).toList
  | decimal x => (x.toText numberStyle).toList
  | string s => quote s
  | array items => '[' :: writeItems items ++ [']']
  | object members => '\x7b' :: writeMembers members ++ ['\x7d']

/-- The characters of the items of an array, with commas between them. -/
def writeItems : List Json → List Char
  | [] => []
  | [v] => write v
  | v :: w :: rest => write v ++ ',' :: writeItems (w :: rest)

/-- The characters of the members of an object, with commas between them. -/
def writeMembers : List (String × Json) → List Char
  | [] => []
  | [(k, v)] => quote k ++ ':' :: write v
  | (k, v) :: m :: rest => quote k ++ ':' :: write v ++ ',' :: writeMembers (m :: rest)

end

/-- A value as JSON text on one line. -/
def toText (v : Json) : String := String.ofList v.write

end RecordQuery.Json
