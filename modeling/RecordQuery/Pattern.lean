import RecordQuery.Pattern.Construction
import RecordQuery.Pattern.Meaning
import RecordQuery.Pattern.Reading
import RecordQuery.Pattern.Search

set_option autoImplicit false

/-!
# Patterns

A regular expression that has been read and made ready for searching.

## Main definitions

* `RecordQuery.Pattern` — a pattern.
* `RecordQuery.Pattern.compile` — the pattern that a source text is.
* `RecordQuery.Pattern.occursIn` — whether a text holds a match.
-/

namespace RecordQuery

/-- A pattern: its source, whether it ignores the case of letters, and its automaton. -/
structure Pattern where
  source : String
  fold : Bool
  automaton : Pattern.Automaton

namespace Pattern

/-- The expression that a source text means. -/
def Expr.ofText (fold : Bool) (source : String) : Except Slip Expr := do
  let f ← Form.read source.toList
  let (e, _) ← f.toExpr { fold := fold }
  return e

/-- The pattern that a source text is; `fold` says whether it ignores the case of letters. -/
def compile (fold : Bool) (source : String) : Except Fault Pattern :=
  match Expr.ofText fold source with
  | .error slip => .error (.slip slip)
  | .ok e =>
    match Automaton.ofExpr? footprintLimit e with
    | some a => .ok ⟨source, fold, a⟩
    | none => .error .tooLarge

/-- Whether a text holds a match. -/
def occursIn (p : Pattern) (text : String) : Bool := p.automaton.accepts text.toList

end Pattern

end RecordQuery
