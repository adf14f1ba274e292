import RecordQuery.Entries
import RecordQuery.Number.Basic

set_option autoImplicit false

/-!
# JSON values

The values of JSON. Whole numbers of up to 64 bits are kept exactly, all others as the nearest
number. The members of an object stand in the order of their names.
-/

namespace RecordQuery

/-- A JSON value. -/
inductive Json where
  | null
  | bool (b : Bool)
  | integer (n : Int)
  | decimal (x : Number)
  | string (s : String)
  | array (items : List Json)
  | object (members : List (String × Json))
deriving Inhabited, BEq, Repr

end RecordQuery
