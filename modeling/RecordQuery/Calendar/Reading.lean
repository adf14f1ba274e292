import RecordQuery.Calendar.Instant
import RecordQuery.Number.Reading
import RecordQuery.Text.Blank

set_option autoImplicit false

/-!
# Reading dates

A date is written in one of four forms: a date-time with an offset as in RFC 3339, a day and a time
of day, a day alone with the year first, or a day alone with the month first. Without an offset UTC
is meant, without a time midnight.

## Main definitions

* `RecordQuery.Instant.readFull?`, `RecordQuery.Instant.readDayTime?`,
  `RecordQuery.Instant.readDay?`, `RecordQuery.Instant.readMonthFirst?` — the four forms.
* `RecordQuery.Instant.read?` — a text in any of them, white space around it aside.
-/

namespace RecordQuery

/-! ## Parts -/

/-- Reads exactly `n` digits. -/
def readDigits? (n : Nat) (cs : List Char) : Option (Nat × List Char) :=
  let digits := cs.take n
  if digits.length = n ∧ digits.all isDigit then some (digitsValue digits, cs.drop n) else none

/-- Reads one or two digits, two if there are two. -/
def readOneOrTwo? (cs : List Char) : Option (Nat × List Char) :=
  (readDigits? 2 cs).or (readDigits? 1 cs)

/-- Reads one given character. -/
def readChar? (c : Char) : List Char → Option (List Char)
  | [] => none
  | d :: rest => if c = d then some rest else none

/-- Reads a year of four digits with an optional sign. -/
def readYear? (cs : List Char) : Option (Int × List Char) := do
  let (negative, rest) := splitSign cs
  let (n, rest) ← readDigits? 4 rest
  return (if negative then -n else n, rest)

/-- Reads a day as year, month and day of the month, dashes between them. -/
def readYearMonthDay? (cs : List Char) : Option (Day × List Char) := do
  let (year, cs) ← readYear? cs
  let cs ← readChar? '-' cs
  let (month, cs) ← readDigits? 2 cs
  let cs ← readChar? '-' cs
  let (day, cs) ← readDigits? 2 cs
  return (⟨year, month, day⟩, cs)

/-- An hour, a minute and a second as written. -/
structure Clock where
  hour : Nat
  minute : Nat
  second : Nat
deriving DecidableEq, Repr

namespace Clock

/-- Whether a day has such a time. -/
def isValid (t : Clock) : Bool := t.hour < 24 && t.minute < 60 && t.second < 60

/-- The seconds since midnight. -/
def seconds (t : Clock) : Nat := 3600 * t.hour + 60 * t.minute + t.second

/-- Reads two digits each for hour, minute and second, colons between them. -/
def read? (cs : List Char) : Option (Clock × List Char) := do
  let (hour, cs) ← readDigits? 2 cs
  let cs ← readChar? ':' cs
  let (minute, cs) ← readDigits? 2 cs
  let cs ← readChar? ':' cs
  let (second, cs) ← readDigits? 2 cs
  return (⟨hour, minute, second⟩, cs)

end Clock

/-- Reads an optional fraction of a second in nanoseconds; digits beyond the ninth are dropped. -/
def readFraction? : List Char → Option (Nat × List Char)
  | '.' :: rest =>
    let digits := rest.takeWhile isDigit
    if digits.isEmpty then none
    else
      let nine := (digits ++ List.replicate 9 '0').take 9
      some (digitsValue nine, rest.dropWhile isDigit)
  | cs => some (0, cs)

/-- Reads an offset in seconds: `Z` of either case, or a sign, an hour and a minute. -/
def readOffset? : List Char → Option (Int × List Char)
  | [] => none
  | c :: rest =>
    if c = 'Z' ∨ c = 'z' then some (0, rest)
    else if c = '+' ∨ c = '-' then do
      let (hour, rest) ← readDigits? 2 rest
      let rest ← readChar? ':' rest
      let (minute, rest) ← readDigits? 2 rest
      if hour < 24 ∧ minute < 60 then
        let n : Int := 3600 * hour + 60 * minute
        return (if c = '-' then -n else n, rest)
      else none
    else none

/-- A day at a time and offset, if the calendar has the day. -/
def Day.at? (d : Day) (time : Clock) (nanos : Nat) (offset : Int) : Option Instant :=
  if d.isValid && time.isValid then some (Instant.ofLocal d time.seconds nanos offset) else none

namespace Instant

/-- Whether an instant is in the last second of a month of UTC, the only one that can be followed
by a leap second. -/
def endsMonth (t : Instant) : Bool :=
  let utc := { t with offset := 0 }
  utc.localTime = 86399 && utc.localDay.day = utc.localDay.monthLength

/-! ## The four forms -/

/-- Reads a date-time with an offset. Any one ASCII character stands between day and time. A leap
second counts as the last nanosecond of the second before it. -/
def readFull? (cs : List Char) : Option Instant := do
  let (year, cs) ← readDigits? 4 cs
  let cs ← readChar? '-' cs
  let (month, cs) ← readDigits? 2 cs
  let cs ← readChar? '-' cs
  let (day, cs) ← readDigits? 2 cs
  let separator ← cs.head?
  guard (separator.toNat < 0x80)
  let (time, cs) ← Clock.read? (cs.drop 1)
  let (nanos, cs) ← readFraction? cs
  let (offset, cs) ← readOffset? cs
  guard cs.isEmpty
  if time.second = 60 then
    let t ← Day.at? ⟨year, month, day⟩ { time with second := 59 } 999999999 offset
    if t.endsMonth then return t else none
  else Day.at? ⟨year, month, day⟩ time nanos offset

/-- Reads a day, a blank and a time of day. -/
def readDayTime? (cs : List Char) : Option Instant := do
  let (day, cs) ← readYearMonthDay? cs
  let cs ← readChar? ' ' cs
  let (time, cs) ← Clock.read? cs
  if cs.isEmpty then day.at? time 0 0 else none

/-- Reads a day with the year first. -/
def readDay? (cs : List Char) : Option Instant := do
  let (day, cs) ← readYearMonthDay? cs
  if cs.isEmpty then day.at? ⟨0, 0, 0⟩ 0 0 else none

/-- Reads a day with the month first, slashes between the parts. -/
def readMonthFirst? (cs : List Char) : Option Instant := do
  let (month, cs) ← readOneOrTwo? cs
  let cs ← readChar? '/' cs
  let (day, cs) ← readOneOrTwo? cs
  let cs ← readChar? '/' cs
  let (year, cs) ← readYear? cs
  if cs.isEmpty then Day.at? ⟨year, month, day⟩ ⟨0, 0, 0⟩ 0 0 else none

/-- Reads a date in any of the four forms, white space around it aside. -/
def read? (text : List Char) : Option Instant :=
  let cs := Text.trim text
  (readFull? cs).or <| (readDayTime? cs).or <| (readDay? cs).or (readMonthFirst? cs)

end Instant

end RecordQuery
