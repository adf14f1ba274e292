import RecordQuery.Number.Basic

set_option autoImplicit false

/-!
# Comparisons

The four ways in which a query compares a field with a number.
-/

namespace RecordQuery

/-- A comparison of numbers. -/
inductive Comparison where
  | less
  | greater
  | atMost
  | atLeast
deriving DecidableEq, Repr

namespace Comparison

/-- The sign of a comparison. -/
def sign : Comparison → String
  | less => "<"
  | greater => ">"
  | atMost => "<="
  | atLeast => ">="

/-- Whether two numbers stand in the comparison. -/
def holds : Comparison → Number → Number → Bool
  | less, x, y => x.lt y
  | greater, x, y => y.lt x
  | atMost, x, y => x.le y
  | atLeast, x, y => y.le x

end Comparison

end RecordQuery
