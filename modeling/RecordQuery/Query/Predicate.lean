import RecordQuery.Query.Tree
import RecordQuery.Record
import RecordQuery.Settings.Basic
import RecordQuery.Text.Lower
import RecordQuery.Text.Quoted

set_option autoImplicit false

/-!
# Predicates

A query is turned into a predicate once and then asked about many records. Whatever does not depend
on the record is done when the predicate is made: literals are lowered, bounds are read, and a
warning is raised for each bound that is no date. Only the time at which `yesterday` is meant is
left to the moment of asking.

## Main definitions

* `RecordQuery.Predicate` — a question about a record at a moment.
* `RecordQuery.Warning` — a bound that is no date.
* `RecordQuery.Tree.predicate`, `RecordQuery.Tree.warnings` — what a query becomes.
-/

namespace RecordQuery

/-- A question about a record, asked at a moment. -/
abbrev Predicate := (now : Instant) → Record → Bool

/-! ## Literals -/

/-- A literal made ready for matching. -/
inductive Matcher where
  | exact (s : String)
  /-- Matches texts that are `s` in lower case. -/
  | lowered (s : String)
  | pattern (p : Pattern)

namespace Matcher

/-- A literal made ready under some settings. -/
def ofLiteral (s : Settings) : Literal → Matcher
  | .text t => if s.caseSensitive then exact t else lowered (Text.lower t)
  | .pattern p => pattern p

/-- Whether a value matches. -/
def accepts (m : Matcher) (v : Value) : Bool :=
  match m with
  | exact s => v.toText == s
  | lowered s => Text.lower v.toText == s
  | pattern p => p.occursIn v.toText

end Matcher

/-! ## Bounds -/

/-- A bound for dates. -/
inductive Bound where
  /-- 24 hours before the moment of asking. -/
  | yesterday
  | fixed (t : Instant)

namespace Bound

/-- The bound that a text names, if it names one. -/
def ofText? (text : String) : Option Bound :=
  if text.toList.map lowerAscii = "yesterday".toList then some yesterday
  else (Instant.read? text.toList).map fixed

/-- The instant of a bound when it is asked about at `now`. -/
def resolve (now : Instant) : Bound → Instant
  | yesterday => now.dayEarlier
  | fixed t => t

end Bound

/-- Whether a date lies on a side of a bound. -/
def Side.holds : Side → Instant → Instant → Bool
  | before, t, bound => t.before bound
  | after, t, bound => bound.before t

/-- A bound that is no date, and the side of it that was asked for. -/
structure Warning where
  side : Side
  bound : String
deriving DecidableEq, Repr

/-- The wording of a warning. -/
def Warning.message (w : Warning) : String :=
  let side := match w.side with
    | .before => "Before"
    | .after => "After"
  "Unrecognized date " ++ Text.quote w.bound ++ " in " ++ side ++
    " selection; it matches nothing"

/-! ## Queries -/

namespace Tree

/-- The predicate of a selection by date. A bound that is no date is never met. -/
def datePredicate (s : Settings) (side : Side) (negated : Bool) (bound : String) : Predicate :=
  match Bound.ofText? bound with
  | none => fun _ _ => negated
  | some b => fun now record =>
    let hit := match (record.get? s.dateKey).bind Value.date? with
      | some t => side.holds t (b.resolve now)
      | none => false
    hit != negated

/-- The predicate of a query. -/
def predicate (s : Settings) : Tree → Predicate
  | everything => fun _ _ => true
  | joined .and left right =>
    let p := left.predicate s
    let q := right.predicate s
    fun now record => p now record && q now record
  | joined .or left right =>
    let p := left.predicate s
    let q := right.predicate s
    fun now record => p now record || q now record
  | field key negated literal =>
    let m := Matcher.ofLiteral s literal
    fun _ record => (record.get? key).any m.accepts != negated
  | number key comparison negated bound =>
    fun _ record =>
      ((record.get? key).bind Value.number?).any (comparison.holds · bound) != negated
  | date side negated bound => datePredicate s side negated bound
  | anyField literal =>
    let m := Matcher.ofLiteral s literal
    fun _ record => record.values.any m.accepts

/-- The bounds of a query that are no dates, in reading order. -/
def warnings : Tree → List Warning
  | joined _ left right => left.warnings ++ right.warnings
  | date side _ bound => if (Bound.ofText? bound).isSome then [] else [⟨side, bound⟩]
  | _ => []

end Tree

end RecordQuery
