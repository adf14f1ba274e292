import RecordQuery.Json.Text

set_option autoImplicit false

/-!
# Document layouts

Writing JSON values as a document: as one array with an item on each line, or as lines alone.

## Main definitions

* `RecordQuery.Layout` — the two ways to write a document.
* `RecordQuery.Layout.write` — a document of some values.
* `RecordQuery.Layout.ofName?` — the layout that a name stands for.
-/

namespace RecordQuery

/-- How a document is laid out. -/
inductive Layout where
  | array
  | lines
deriving DecidableEq, Repr

namespace Layout

/-- The name of a layout. -/
def name : Layout → String
  | array => "json"
  | lines => "jsonl"

/-- The layout with a name. -/
def ofName? (name : String) : Option Layout :=
  if name = "json" then some array
  else if name = "jsonl" || name = "ndjson" then some lines
  else none

/-- The items of an array, each on a line of its own, with commas between them. -/
def writeItems (first : Bool) : List Json → List Char
  | [] => []
  | v :: rest => (if first then ['\n'] else [',', '\n']) ++ [' ', ' '] ++ v.write ++
      writeItems false rest

/-- The characters of a document of some values. -/
def write (layout : Layout) (values : List Json) : List Char :=
  match layout with
  | array => '[' :: writeItems true values ++ ['\n', ']', '\n']
  | lines => values.flatMap fun v => v.write ++ ['\n']

/-- A document of some values. -/
def toText (layout : Layout) (values : List Json) : String := String.ofList (layout.write values)

end Layout

end RecordQuery
