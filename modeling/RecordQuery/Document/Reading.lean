import RecordQuery.Json.Reader
import RecordQuery.Record
import RecordQuery.Text.Blank

set_option autoImplicit false

/-!
# Reading documents

A document holds JSON objects, either as the items of one array or one on each line. It is an array
if its first character that is not white space is an opening bracket.

## Main definitions

* `RecordQuery.Item` — a JSON value next to the record that it is.
* `RecordQuery.Document.Fault` — what can be wrong with a document.
* `RecordQuery.Document.read` — the items of a document.
-/

namespace RecordQuery

/-- A JSON value next to the record that it is. -/
structure Item where
  json : Json
  record : Record

namespace Document

/-- What is wrong with a document. Lines and records are counted from one. -/
inductive Fault where
  | array (fault : Json.Fault)
  | line (number : Nat) (fault : Json.Fault)
  | notAnObject (number : Nat)
deriving DecidableEq, Repr

namespace Fault

/-- The wording of a fault. -/
def message : Fault → String
  | array _ => "Input: Invalid JSON array"
  | line number _ => "Input: Invalid JSON on line " ++ toString number
  | notAnObject number => "Input: Record " ++ toString number ++ " is not a JSON object"

/-- The wording of what a fault comes from, if it comes from something else. -/
def reason? : Fault → Option String
  | array fault => some fault.message
  | line _ fault => some fault.message
  | notAnObject _ => none

end Fault

/-- The values on lines that are not blank; the first line has the given number. -/
def readLines (number : Nat) : List (List Char) → Except Fault (List Json)
  | [] => .ok []
  | line :: rest =>
    if line.all Text.isBlank then readLines (number + 1) rest
    else match Json.read line with
      | .error fault => .error (.line number fault)
      | .ok v => (readLines (number + 1) rest).map (v :: ·)

/-- The values of a document. -/
def readValues (content : List Char) : Except Fault (List Json) :=
  if (Text.trimStart content).head? = some '[' then (Json.readList content).mapError .array
  else readLines 1 (Text.lines content)

/-- Values as items; all of them have to be objects. The first value has the given number. -/
def itemsOf (number : Nat) : List Json → Except Fault (List Item)
  | [] => .ok []
  | v :: rest =>
    match Record.ofJson? v with
    | none => .error (.notAnObject number)
    | some record => (itemsOf (number + 1) rest).map (⟨v, record⟩ :: ·)

/-- The items of a document. -/
def read (content : String) : Except Fault (List Item) :=
  match readValues content.toList with
  | .error fault => .error fault
  | .ok values => itemsOf 1 values

end Document

end RecordQuery
