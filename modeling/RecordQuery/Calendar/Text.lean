import RecordQuery.Calendar.Instant

set_option autoImplicit false

/-!
# Instants as text

An instant is written as in RFC 3339 where that form can hold it: years from 0 to 9999, and offsets
of less than a day in whole minutes. Other instants are written in a form that no reader accepts.

## Main definitions

* `RecordQuery.Instant.isWritable` — whether RFC 3339 can hold the instant.
* `RecordQuery.Instant.text` — the text of an instant.
-/

namespace RecordQuery

/-- A number with zeros before it, `n` digits at least. -/
def padded (n : Nat) (k : Nat) : String :=
  let s := Nat.repr k
  String.ofList (List.replicate (n - s.length) '0') ++ s

namespace Instant

/-- Hours, minutes and seconds of a number of seconds. -/
def clockParts (n : Nat) : Nat × Nat × Nat := (n / 3600, n / 60 % 60, n % 60)

/-- The digits of the fraction of a second, without zeros at the end. -/
def fractionDigits (nanos : Nat) : String :=
  String.ofList ((padded 9 nanos).toList.reverse.dropWhile (· == '0')).reverse

/-- Whether RFC 3339 can hold the instant. -/
def isWritable (t : Instant) : Bool :=
  let year := t.localDay.year
  0 ≤ year && year ≤ 9999 && t.offset.natAbs < 86400 && t.offset.natAbs % 60 = 0

/-- The sign of an offset. -/
def offsetSign (t : Instant) : String := if t.offset < 0 then "-" else "+"

/-- An instant as in RFC 3339. -/
def writeFull (t : Instant) : String :=
  let d := t.localDay
  let (h, m, s) := clockParts t.localTime
  let fraction := if t.nanos = 0 then "" else "." ++ fractionDigits t.nanos
  let (oh, om, _) := clockParts t.offset.natAbs
  let offset := if t.offset = 0 then "Z" else t.offsetSign ++ padded 2 oh ++ ":" ++ padded 2 om
  padded 4 d.year.toNat ++ "-" ++ padded 2 d.month ++ "-" ++ padded 2 d.day ++ "T" ++
    padded 2 h ++ ":" ++ padded 2 m ++ ":" ++ padded 2 s ++ fraction ++ offset

/-- An instant in the form for those that RFC 3339 cannot hold: the hour is not padded, and offset
seconds are shown. -/
def writeOther (t : Instant) : String :=
  let d := t.localDay
  let (h, m, s) := clockParts t.localTime
  let fraction := if t.nanos = 0 then "0" else fractionDigits t.nanos
  let (oh, om, os) := clockParts t.offset.natAbs
  let sign := if d.year < 0 then "-" else if 9999 < d.year then "+" else ""
  sign ++ padded 4 d.year.natAbs ++ "-" ++ padded 2 d.month ++ "-" ++ padded 2 d.day ++ " " ++
    Nat.repr h ++ ":" ++ padded 2 m ++ ":" ++ padded 2 s ++ "." ++ fraction ++ " " ++
    t.offsetSign ++ padded 2 oh ++ ":" ++ padded 2 om ++ ":" ++ padded 2 os

/-- The text of an instant. -/
def text (t : Instant) : String := if t.isWritable then t.writeFull else t.writeOther

end Instant

end RecordQuery
