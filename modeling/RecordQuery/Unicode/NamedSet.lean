import RecordQuery.Unicode.CodeSet

set_option autoImplicit false

/-!
# Named sets of code points

The entries of the Unicode tables: a set under its full and its short name.
-/

namespace RecordQuery.Unicode

/-- A set of code points under a full and a short name, its ranges in hexadecimal on several lines. -/
structure NamedSet where
  name : String
  short : String
  ranges : List String

/-- The members of the set. -/
def NamedSet.codes (s : NamedSet) : CodeSet := CodeSet.ofLines s.ranges

/-- The members of the set of that full name; a table without it has none. -/
def codesNamed (table : List NamedSet) (name : String) : CodeSet :=
  match table.find? (·.name == name) with
  | some s => s.codes
  | none => CodeSet.empty

end RecordQuery.Unicode
