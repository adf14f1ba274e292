import RecordQuery.Number.Basic
import RecordQuery.Text.Ascii

set_option autoImplicit false

/-!
# Reading numbers

Reading a number from a whole text: an optional sign, then `inf`, `infinity` or `nan` in any case,
or digits with an optional point among them and an optional exponent. The value is the number
nearest to the decimal.

## Main definitions

* `RecordQuery.Number.read?` — the number that a text is.
-/

namespace RecordQuery

/-- Splits a sign off a text. -/
def splitSign : List Char → Bool × List Char
  | '-' :: rest => (true, rest)
  | '+' :: rest => (false, rest)
  | cs => (false, cs)

namespace Number

/-- The exponent that ends a number: nothing, or `e` and digits with an optional sign. -/
def readExponent? : List Char → Option Int
  | [] => some 0
  | c :: rest =>
    if c = 'e' ∨ c = 'E' then
      let (negative, digits) := splitSign rest
      if digits.isEmpty || !digits.all isDigit then none
      else
        let n : Int := digitsValue digits
        some (if negative then -n else n)
    else none

/-- The digits of a decimal without a sign as a whole number, and the exponent of the last digit. -/
def readDecimal? (cs : List Char) : Option (Nat × Int) :=
  let whole := cs.takeWhile isDigit
  let afterWhole := cs.dropWhile isDigit
  let (fraction, afterFraction) := match afterWhole with
    | '.' :: rest => (rest.takeWhile isDigit, rest.dropWhile isDigit)
    | rest => ([], rest)
  if whole.isEmpty && fraction.isEmpty then none
  else
    (readExponent? afterFraction).map fun e =>
      (digitsValue (whole ++ fraction), e - fraction.length)

/-- The magnitude written without a sign. -/
def readMagnitude? (cs : List Char) : Option Magnitude :=
  (readDecimal? cs).map fun d => Magnitude.ofDecimal d.1 d.2

/-- The number that a text is, if it is one. -/
def read? (cs : List Char) : Option Number :=
  let (negative, rest) := splitSign cs
  let word := rest.map lowerAscii
  if word = "nan".toList then some .nan
  else if word = "inf".toList ∨ word = "infinity".toList then
    some (.real negative Magnitude.infinity)
  else (readMagnitude? rest).map (.real negative)

end Number

end RecordQuery
