import RecordQuery.Number.Basic

set_option autoImplicit false

/-!
# Shortest decimals

The decimal with the fewest digits that reads back as a given magnitude, and of several such the
one nearest to it. Two of them can be equally near, and which one is taken then is up to the place
that the number is written to.

A decimal reads back as a magnitude exactly when it lies between the two points halfway to the
magnitude's neighbours; the points themselves count when its place is even, since ties go there.
If any point of a decimal grid lies in that interval, then so does one of the two grid points next
to the magnitude, so only those two are tried, on finer and finer grids.

## Main definitions

* `RecordQuery.Decimal` — a whole number of powers of ten.
* `RecordQuery.Tie` — which of two decimals is taken that are equally near.
* `RecordQuery.Magnitude.shortest` — the shortest decimal of a magnitude.
-/

namespace RecordQuery

/-- The decimal `digits · 10 ^ exponent`. -/
structure Decimal where
  digits : Nat
  exponent : Int
deriving DecidableEq, Repr

namespace Decimal

/-- Moves trailing zeros of the digits into the exponent, at most `n` of them. -/
def dropZeros : (n : Nat) → Decimal → Decimal
  | 0, d => d
  | n + 1, d =>
    if d.digits % 10 = 0 then dropZeros n ⟨d.digits / 10, d.exponent + 1⟩ else d

/-- The exponent of the first digit. -/
def leading (d : Decimal) : Int := d.exponent + (Nat.repr d.digits).length - 1

end Decimal

/-! ## Ties -/

/-- Where a value goes that is halfway between two whole numbers: to the greater one or to the even
one. -/
inductive Tie where
  | up
  | even
deriving DecidableEq, Repr

/-- A fraction rounded to a whole number; a half goes up. -/
def roundHalfUp (num den : Nat) : Nat := (2 * num + den) / (2 * den)

/-- A fraction rounded to a whole number. -/
def Tie.round : Tie → Nat → Nat → Nat
  | up => roundHalfUp
  | even => roundHalfEven

/-! ## The search on the grids -/

namespace Magnitude

/-- The number of decimal digits of a number, where the numbers of digits in `steps` are split off
one after the other while enough digits are left. -/
def digitCount : (steps : List Nat) → Nat → Nat
  | [], _ => 1
  | step :: steps, n =>
    if Nat.pow 10 step ≤ n then step + digitCount steps (n / Nat.pow 10 step)
    else digitCount steps n

/-- Powers of two from 512 down to 1: steps that count up to 1024 digits. -/
def digitSteps : List Nat := [512, 256, 128, 64, 32, 16, 8, 4, 2, 1]

/-- The exponent of ten of the first digit of a positive finite magnitude. -/
def leadingExponent (m : Magnitude) : Int :=
  (digitCount digitSteps (m.scaled * Nat.pow 10 400 / unitsPerOne) : Int) - 401

/-- Ten to a power, as a fraction. -/
def tenTo (exponent : Int) : Nat × Nat :=
  if 0 ≤ exponent then (Nat.pow 10 exponent.toNat, 1) else (1, Nat.pow 10 (-exponent).toNat)

/-- Whether `digits · 10 ^ exponent` reads back as the magnitude. -/
def readsBack (m : Magnitude) (digits : Nat) (exponent : Int) : Bool :=
  let (num, den) := tenTo exponent
  let x := 2 * digits * num * unitsPerOne
  let low := (scaledRank (m.rank - 1) + m.scaled) * den
  let high := (m.scaled + scaledRank (m.rank + 1)) * den
  if m.rank % 2 = 0 then low ≤ x && x ≤ high else low < x && x < high

/-- The point of the grid of `10 ^ exponent` that reads back as the magnitude, the nearer one if
both neighbours do. If both are equally near, the one that `tie` says is tried first. -/
def onGrid? (m : Magnitude) (tie : Tie) (exponent : Int) : Option Decimal :=
  let (num, den) := tenTo exponent
  let exact := m.scaled * den
  let step := num * unitsPerOne
  let below := exact / step
  let nearer := tie.round exact step
  let farther := if nearer = below then below + 1 else below
  if m.readsBack nearer exponent then some ⟨nearer, exponent⟩
  else if m.readsBack farther exponent then some ⟨farther, exponent⟩
  else none

/-- The shortest decimal that reads back as a positive finite magnitude. Seventeen digits always
suffice. -/
def shortest (m : Magnitude) (tie : Tie) : Decimal :=
  let top := m.leadingExponent
  match (List.range 17).findSome? fun (n : Nat) => m.onGrid? tie (top - n) with
  | some d => d.dropZeros 17
  | none => ⟨m.scaled, 0⟩

end Magnitude

end RecordQuery
