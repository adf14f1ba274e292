set_option autoImplicit false

/-!
# Settings

The options that shape how a query is read and what it selects.
-/

namespace RecordQuery

/-- The options of a query. -/
structure Settings where
  /-- Texts and patterns match in exact case. -/
  caseSensitive : Bool := false
  /-- Bare values are patterns. -/
  preferPatterns : Bool := false
  /-- The field that holds the date of a record. -/
  dateKey : String := "date"
deriving DecidableEq, Repr, Inhabited

end RecordQuery
