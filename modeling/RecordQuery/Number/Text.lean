import RecordQuery.Number.Shortest

set_option autoImplicit false

/-!
# Numbers as text

Writing a number with its shortest digits. Which of two equally near decimals is taken, where the
digits stop being written out in full and what a whole number ends in differ between the places a
number is written to; those decisions are a `NumberStyle`.

## Main definitions

* `RecordQuery.NumberStyle` — the decisions in writing a number.
* `RecordQuery.Number.toText` — a number in some style.
* `RecordQuery.NumberStyle.full` — every number in full, as fields show it.
-/

namespace RecordQuery

/-- The decisions in writing a finite number. -/
structure NumberStyle where
  /-- Which of two shortest decimals is taken that are equally near. -/
  tie : Tie
  /-- The exponents of the first digit for which all places are written out. -/
  inFull : Int → Bool
  /-- What follows a whole number that is written out. -/
  wholeEnding : String

/-- `n` zeros. -/
def zeros (n : Nat) : String := String.ofList (List.replicate n '0')

namespace Decimal

/-- All places of the decimal; `ending` follows if none of them is behind the point. -/
def inFull (d : Decimal) (ending : String) : String :=
  let s := Nat.repr d.digits
  let n := s.length
  if 0 ≤ d.exponent then s ++ zeros d.exponent.toNat ++ ending
  else
    let behind := (-d.exponent).toNat
    if behind < n then
      String.ofList (s.toList.take (n - behind)) ++ "." ++
        String.ofList (s.toList.drop (n - behind))
    else "0." ++ zeros (behind - n) ++ s

/-- One digit, a point and the other digits, and the exponent of the first with its sign. -/
def scientific (d : Decimal) : String :=
  let s := (Nat.repr d.digits).toList
  let rest := s.drop 1
  let fraction := if rest.isEmpty then "" else "." ++ String.ofList rest
  let sign := if 0 ≤ d.leading then "+" else "-"
  String.ofList (s.take 1) ++ fraction ++ "e" ++ sign ++ Nat.repr d.leading.natAbs

end Decimal

/-- A finite magnitude in a style. -/
def Magnitude.toText (m : Magnitude) (style : NumberStyle) : String :=
  let d := if m.rank = 0 then ⟨0, 0⟩ else m.shortest style.tie
  if style.inFull d.leading then d.inFull style.wholeEnding else d.scientific

/-- A number in a style. -/
def Number.toText (x : Number) (style : NumberStyle) : String :=
  match x with
  | .nan => "NaN"
  | .real negative m =>
    (if negative then "-" else "") ++ if m.isInfinite then "inf" else m.toText style

/-- Every place is written out, and a whole number has no point. Of two decimals that are equally near
the greater one is taken. -/
def NumberStyle.full : NumberStyle := ⟨.up, fun _ => true, ""⟩

/-- The text of a number where it is matched and shown. -/
def Number.text (x : Number) : String := x.toText .full

end RecordQuery
