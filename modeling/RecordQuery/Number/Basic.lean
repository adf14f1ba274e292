set_option autoImplicit false

/-!
# Numbers

The numbers of queries and records: binary floating point of 64 bits, with two infinities, two
zeros and one value that is not a number. The magnitudes are held by their place in their order,
so comparing numbers is comparing places, and every operation is exact arithmetic followed by one
rounding to the nearest magnitude.

## Main definitions

* `RecordQuery.Magnitude` — a magnitude as its place in the order, infinity last.
* `RecordQuery.Magnitude.scaled` — its value in units of the smallest positive magnitude.
* `RecordQuery.Magnitude.nearest` — the magnitude nearest to a fraction.
* `RecordQuery.Number` — a signed magnitude, or not a number.
* `RecordQuery.Number.order?` — the place of a number among all numbers.
-/

namespace RecordQuery

/-- How many magnitudes share an exponent. -/
def perExponent : Nat := 0x10000000000000

/-- The place of infinity in the order of the magnitudes. -/
def infinityRank : Nat := 2047 * perExponent

/-- A magnitude as its place in the order of all magnitudes: zero first, infinity last. -/
structure Magnitude where
  rank : Nat
  rank_le : rank ≤ infinityRank
deriving DecidableEq, Repr

/-- A fraction rounded to a whole number; a half goes to the even neighbour. -/
def roundHalfEven (num den : Nat) : Nat :=
  let q := num / den
  let r := num % den
  if 2 * r < den then q
  else if den < 2 * r then q + 1
  else if q % 2 = 0 then q else q + 1

namespace Magnitude

/-- The place `rank`, or infinity if there is no such place. -/
def ofRank (rank : Nat) : Magnitude := ⟨min rank infinityRank, Nat.min_le_right _ _⟩

/-- Zero. -/
def zero : Magnitude := ofRank 0

/-- Infinity. -/
def infinity : Magnitude := ofRank infinityRank

/-- Whether the magnitude is infinite. -/
def isInfinite (m : Magnitude) : Bool := m.rank == infinityRank

/-- The value at a place of the order, in units of the smallest positive magnitude. The first two
blocks of places have unit steps; each later block has steps twice those of the block before. -/
def scaledRank (rank : Nat) : Nat :=
  let block := rank / perExponent
  if block = 0 then rank else (perExponent + rank % perExponent) <<< (block - 1)

/-- The value of a finite magnitude in units of the smallest positive one. -/
def scaled (m : Magnitude) : Nat := scaledRank m.rank

/-- How many of those units make one. -/
def unitsPerOne : Nat := 1 <<< 1074

/-- The magnitude nearest to `num / den`; a tie goes to the even place. From the halfway point above
the largest finite magnitude on it is infinity. -/
def nearest (num den : Nat) : Magnitude :=
  let units := num * unitsPerOne
  let shift := (units / den).log2 - 52
  ofRank (shift * perExponent + roundHalfEven units (den <<< shift))

/-- The rounded product of finite magnitudes. -/
def mul (a b : Magnitude) : Magnitude :=
  nearest (a.scaled * b.scaled) (unitsPerOne * unitsPerOne)

/-- The rounded quotient of finite magnitudes, the second of them not zero. -/
def div (a b : Magnitude) : Magnitude := nearest a.scaled b.scaled

/-- The magnitude nearest to `digits · 10 ^ exponent`. Far beyond the ends of the range the answer
is known from the number of digits alone. -/
def ofDecimal (digits : Nat) (exponent : Int) : Magnitude :=
  let top := exponent + (Nat.repr digits).length
  if digits = 0 then zero
  else if 310 < top then infinity
  else if top < -330 then zero
  else if 0 ≤ exponent then nearest (digits * Nat.pow 10 exponent.toNat) 1
  else nearest digits (Nat.pow 10 (-exponent).toNat)

end Magnitude

/-- A number: not a number at all, or a magnitude with a sign. -/
inductive Number where
  | nan
  | real (negative : Bool) (magnitude : Magnitude)
deriving DecidableEq, Repr

namespace Number

/-- The number nearest to a natural number. -/
def ofNat (n : Nat) : Number := .real false (Magnitude.nearest n 1)

/-- The number nearest to an integer. -/
def ofInt (n : Int) : Number := .real (n < 0) (Magnitude.nearest n.natAbs 1)

/-- The place of a number among all numbers; the two zeros share theirs, and what is not a number
has none. -/
def order? : Number → Option Int
  | nan => none
  | real true m => some (-(m.rank : Int))
  | real false m => some m.rank

/-- Less than; false if one side is not a number. -/
def lt (x y : Number) : Bool :=
  match x.order?, y.order? with
  | some a, some b => a < b
  | _, _ => false

/-- Less than or equal; false if one side is not a number. -/
def le (x y : Number) : Bool :=
  match x.order?, y.order? with
  | some a, some b => a ≤ b
  | _, _ => false

/-- Equality as numbers; false if one side is not a number. -/
def eq (x y : Number) : Bool :=
  match x.order?, y.order? with
  | some a, some b => a = b
  | _, _ => false

/-- Whether the number is zero, of either sign. -/
def isZero (x : Number) : Bool := x.order? == some 0

end Number

end RecordQuery
