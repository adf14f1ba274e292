import RecordQuery.Pattern
import RecordQuery.Query.Comparison

set_option autoImplicit false

/-!
# Query trees

What a query says: selections joined by `AND` and `OR`.

## Main definitions

* `RecordQuery.Literal` — a text or a pattern that values are matched against.
* `RecordQuery.Tree` — a query.
* `RecordQuery.Tree.same` — equality of queries.
-/

namespace RecordQuery

/-- How two selections are joined. -/
inductive Joint where
  | and
  | or
deriving DecidableEq, Repr

/-- The side of a bound on which a date has to lie. -/
inductive Side where
  | before
  | after
deriving DecidableEq, Repr

/-- The side that a reserved key stands for. -/
def Side.ofKey? (key : String) : Option Side :=
  if key = "before" then some .before
  else if key = "after" then some .after
  else none

/-- What the value of a field is matched against. -/
inductive Literal where
  | text (s : String)
  | pattern (p : Pattern)

/-- Equality of literals; patterns are compared by their source. -/
def Literal.same : Literal → Literal → Bool
  | text s, text t => s == t
  | pattern p, pattern q => p.source == q.source
  | _, _ => false

/-- A query. -/
inductive Tree where
  /-- The empty query, which selects every record. -/
  | everything
  /-- Two queries joined. -/
  | joined (joint : Joint) (left right : Tree)
  /-- A field matches a literal. -/
  | field (key : String) (negated : Bool) (literal : Literal)
  /-- A field stands in a comparison with a number. -/
  | number (key : String) (comparison : Comparison) (negated : Bool) (bound : Number)
  /-- The date of the record lies on one side of a bound. -/
  | date (side : Side) (negated : Bool) (bound : String)
  /-- Some field matches a literal. -/
  | anyField (literal : Literal)

/-- Equality of queries. -/
def Tree.same : Tree → Tree → Bool
  | everything, everything => true
  | joined j l r, joined j' l' r' => j == j' && l.same l' && r.same r'
  | field k n v, field k' n' v' => k == k' && n == n' && v.same v'
  | number k c n x, number k' c' n' x' => k == k' && c == c' && n == n' && x.eq x'
  | date s n b, date s' n' b' => s == s' && n == n' && b == b'
  | anyField v, anyField v' => v.same v'
  | _, _ => false

end RecordQuery
