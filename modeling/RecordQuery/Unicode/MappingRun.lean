set_option autoImplicit false

/-!
# Runs of character mappings

Letter case maps long runs of characters to equally long runs, so a table of runs is short.
-/

namespace RecordQuery.Unicode

/-- Every `step`-th code point from `first` to `last`, mapped to as far from `target` as it is
from `first`. -/
structure MappingRun where
  first : Nat
  last : Nat
  step : Nat
  target : Nat
deriving Repr

namespace MappingRun

/-- Whether the run maps `c`. -/
def covers (r : MappingRun) (c : Nat) : Bool :=
  r.first ≤ c && c ≤ r.last && (c - r.first) % r.step == 0

/-- What the run maps `c` to, if it covers it. -/
def image? (r : MappingRun) (c : Nat) : Option Nat :=
  if r.covers c then some (r.target + (c - r.first)) else none

/-- The pairs of the run. -/
def pairs (r : MappingRun) : List (Nat × Nat) :=
  (List.range ((r.last - r.first) / r.step + 1)).map fun i =>
    (r.first + i * r.step, r.target + i * r.step)

end MappingRun

/-- What the first run that covers `c` maps it to. -/
def image? (runs : List MappingRun) (c : Nat) : Option Nat :=
  runs.findSome? (·.image? c)

end RecordQuery.Unicode
