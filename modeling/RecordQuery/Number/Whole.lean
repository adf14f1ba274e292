import RecordQuery.Number.Reading

set_option autoImplicit false

/-!
# Whole numbers

Reading a whole number of 64 bits from a whole text: digits in some base with an optional sign. A
character can be given by such a number as well.
-/

namespace RecordQuery

/-- The value of digits in a base up to sixteen. -/
def digitsValueIn? (base : Nat) (digits : List Char) : Option Nat :=
  digits.foldl (fun n? c =>
    match n?, hexDigit? c with
    | some n, some d => if d < base then some (base * n + d) else none
    | _, _ => none) (some 0)

/-- A magnitude with a sign, if it fits 64 bits with a sign. -/
def ofSigned? (negative : Bool) (n : Nat) : Option Int :=
  if negative then if n ≤ 0x8000000000000000 then some (-(n : Int)) else none
  else if n < 0x8000000000000000 then some n else none

/-- The whole number that a text is in a base up to sixteen; one that does not fit 64 bits with a
sign is none. -/
def readInteger? (base : Nat) (cs : List Char) : Option Int :=
  let (negative, digits) := splitSign cs
  if digits.isEmpty then none else (digitsValueIn? base digits).bind (ofSigned? negative)

/-- The character with a number in hexadecimal. -/
def charOfHex? (digits : List Char) : Option Char :=
  match digitsValueIn? 16 digits with
  | none => none
  | some n => if n.isValidChar then some (Char.ofNat n) else none

end RecordQuery
