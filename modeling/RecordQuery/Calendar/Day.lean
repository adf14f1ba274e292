set_option autoImplicit false

/-!
# Days

The days of the Gregorian calendar, extended to all years, and their numbers counted from the
first of January 1970.

## Main definitions

* `RecordQuery.Day` — a day by year, month and day of the month.
* `RecordQuery.Day.isValid` — whether the calendar has such a day.
* `RecordQuery.Day.number`, `RecordQuery.Day.ofNumber` — days and their numbers.
-/

namespace RecordQuery

/-- A year, a month from 1 to 12 and a day of the month. -/
structure Day where
  year : Int
  month : Nat
  day : Nat
deriving DecidableEq, Repr

/-- Whether a year has a 29th of February. -/
def isLeapYear (y : Int) : Bool := y % 4 = 0 && (y % 100 ≠ 0 || y % 400 = 0)

/-- The lengths of the months of a year. -/
def monthLengths (y : Int) : List Nat :=
  [31, if isLeapYear y then 29 else 28, 31, 30, 31, 30, 31, 31, 30, 31, 30, 31]

/-- The number of days from the first of January of year 0 to that of year `y`. -/
def daysBeforeYear (y : Int) : Int :=
  365 * y + (y + 3) / 4 - (y + 99) / 100 + (y + 399) / 400

/-- The number of days of a year before a month. -/
def daysBeforeMonth (y : Int) (month : Nat) : Nat :=
  ((monthLengths y).take (month - 1)).foldl (· + ·) 0

/-- The number of days from the first of January of year 0 to that of 1970. -/
def daysBefore1970 : Int := 719528

namespace Day

/-- The length of the month of a day. -/
def monthLength (d : Day) : Nat := (monthLengths d.year).getD (d.month - 1) 0

/-- Whether the calendar has the day. -/
def isValid (d : Day) : Bool :=
  1 ≤ d.month && d.month ≤ 12 && 1 ≤ d.day && d.day ≤ d.monthLength

/-- The number of the day, the first of January 1970 being 0. -/
def number (d : Day) : Int :=
  daysBeforeYear d.year + daysBeforeMonth d.year d.month + (d.day - 1) -
    daysBefore1970

/-- The year in which the day falls that is `n` days after the first of January of year 0. The
average length of a year gives the year or one of its neighbours. -/
def yearOf (n : Int) : Int :=
  let y := n * 400 / 146097
  if n < daysBeforeYear y then y - 1
  else if daysBeforeYear (y + 1) ≤ n then y + 1
  else y

/-- The month and day of the month of the day that is `n` days into months of these lengths, the
first of them being month `month`. -/
def splitMonths (month : Nat) : (n : Nat) → List Nat → Nat × Nat
  | n, [] => (month, n + 1)
  | n, l :: rest => if n < l then (month, n + 1) else splitMonths (month + 1) (n - l) rest

/-- The day with a number. -/
def ofNumber (n : Int) : Day :=
  let days := n + daysBefore1970
  let y := yearOf days
  let (m, d) := splitMonths 1 (days - daysBeforeYear y).toNat (monthLengths y)
  ⟨y, m, d⟩

end Day

end RecordQuery
