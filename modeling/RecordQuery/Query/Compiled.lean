import RecordQuery.Query.Parser
import RecordQuery.Query.Predicate

set_option autoImplicit false

/-!
# Compiled queries

A query text made ready for any number of records.

## Main definitions

* `RecordQuery.Query.compile` — a query text under some settings.
* `RecordQuery.Query.filter`, `RecordQuery.Query.positions` — the records that a query selects,
  and where they stand.
-/

namespace RecordQuery

/-- A compiled query. -/
structure Query where
  source : String
  predicate : Predicate
  warnings : List Warning

namespace Query

/-- Compiles a query text. -/
def compile (s : Settings) (source : String) : Except QueryFault Query :=
  match Tree.ofText s source with
  | .error fault => .error fault
  | .ok tree => .ok ⟨source, tree.predicate s, tree.warnings⟩

/-- A text is compiled if it is a query, and then asks the predicate of its tree. -/
theorem compile_eq_ok_iff {s : Settings} {source : String} {q : Query} :
    compile s source = .ok q ↔
      ∃ t, Tree.ofText s source = .ok t ∧ q = ⟨source, t.predicate s, t.warnings⟩ := by
  unfold compile
  cases Tree.ofText s source with
  | error fault => simp
  | ok t => simp [eq_comm]

/-- Whether a record is selected at a moment. -/
def selects (q : Query) (now : Instant) (record : Record) : Bool := q.predicate now record

/-- The selected records, in order. -/
def filter (q : Query) (now : Instant) (records : List Record) : List Record :=
  records.filter (q.selects now)

/-- The positions of the selected records, counted from zero. -/
def positions (q : Query) (now : Instant) (records : List Record) : List Nat :=
  (records.zipIdx.filter fun p => q.selects now p.1).map (·.2)

end Query

end RecordQuery
