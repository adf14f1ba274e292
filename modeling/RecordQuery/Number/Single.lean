import RecordQuery.Number.Reading

set_option autoImplicit false

/-!
# Numbers of single precision

Among the numbers of 64 bits are those that need only 32: their magnitudes have 24 binary digits, and
the smallest positive one is two to the power of -149. A decimal is rounded to the nearest of them at
once, since rounding twice may end elsewhere.

## Main definitions

* `RecordQuery.Magnitude.nearestSingle` — the magnitude of single precision nearest to a fraction.
* `RecordQuery.Number.readSingle?` — the number of single precision that a decimal is.
-/

namespace RecordQuery

namespace Magnitude

/-- How many of the smallest positive magnitude of single precision make one. -/
def singleUnitsPerOne : Nat := 1 <<< 149

/-- From here on, in those units, magnitudes of single precision are infinite. -/
def singleLimit : Nat := 1 <<< 277

/-- The magnitude of single precision nearest to `num / den`; a tie goes to the even one. -/
def nearestSingle (num den : Nat) : Magnitude :=
  let units := num * singleUnitsPerOne
  let shift := (units / den).log2 - 23
  let rounded := roundHalfEven units (den <<< shift) <<< shift
  if singleLimit ≤ rounded then infinity else nearest rounded singleUnitsPerOne

/-- The magnitude of single precision nearest to `digits · 10 ^ exponent`. Far beyond the ends of the
range the answer is known from the number of digits alone. -/
def singleOfDecimal (digits : Nat) (exponent : Int) : Magnitude :=
  let top := exponent + (Nat.repr digits).length
  if digits = 0 then zero
  else if 50 < top then infinity
  else if top < -60 then zero
  else if 0 ≤ exponent then nearestSingle (digits * Nat.pow 10 exponent.toNat) 1
  else nearestSingle digits (Nat.pow 10 (-exponent).toNat)

end Magnitude

namespace Number

/-- The number of single precision that a decimal with an optional sign is. -/
def readSingle? (cs : List Char) : Option Number :=
  let (negative, rest) := splitSign cs
  (readDecimal? rest).map fun d => .real negative (Magnitude.singleOfDecimal d.1 d.2)

end Number

end RecordQuery
