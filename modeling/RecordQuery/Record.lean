import RecordQuery.Calendar.Reading
import RecordQuery.Calendar.Text
import RecordQuery.Json.Text
import RecordQuery.Number.Reading

set_option autoImplicit false

/-!
# Records

A record holds values under field names. A value is a text, a number or a date, and each kind can
be viewed as a text, and some texts as a number or a date.

## Main definitions

* `RecordQuery.Value` — the value of a field.
* `RecordQuery.Value.text`, `RecordQuery.Value.number?`, `RecordQuery.Value.date?` — its views.
* `RecordQuery.Record` — values under field names.
* `RecordQuery.Record.ofJson?` — the record that a JSON object is.
-/

namespace RecordQuery

/-- The value of a field. -/
inductive Value where
  | text (s : String)
  | number (x : Number)
  | date (t : Instant)
deriving DecidableEq, Repr

namespace Value

/-- A value as text, which texts and patterns of a query are matched against. -/
def toText : Value → String
  | text s => s
  | number x => x.text
  | date t => t.text

/-- A value as a number: a number, or a text that is one but for white space around it. -/
def number? : Value → Option Number
  | text s => Number.read? (Text.trim s.toList)
  | number x => some x
  | date _ => none

/-- A value as a date: a date, or a text that is one. -/
def date? : Value → Option Instant
  | text s => Instant.read? s.toList
  | number _ => none
  | date t => some t

end Value

/-- A record: values under field names. -/
abbrev Record := Entries Value

/-- The value of a member of a JSON object. A null is no value; truth values become texts, and
arrays and objects the text of their JSON. -/
def Json.toValue? : Json → Option Value
  | .null => none
  | .bool true => some (.text "true")
  | .bool false => some (.text "false")
  | .integer n => some (.number (Number.ofInt n))
  | .decimal x => some (.number x)
  | .string s => some (.text s)
  | .array items => some (.text (Json.array items).toText)
  | .object members => some (.text (Json.object members).toText)

/-- The record that a JSON object is; other JSON values are none. -/
def Record.ofJson? : Json → Option Record
  | .object members => some (members.filterMap fun m => m.2.toValue?.map (m.1, ·))
  | _ => none

end RecordQuery
