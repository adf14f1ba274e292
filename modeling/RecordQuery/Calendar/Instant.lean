import RecordQuery.Calendar.Day

set_option autoImplicit false

/-!
# Instants

A moment in time together with the offset from UTC in which it is shown. Instants are ordered by
their moments alone.

## Main definitions

* `RecordQuery.Instant` — seconds since 1970, nanoseconds and an offset.
* `RecordQuery.Instant.before` — the order of moments.
* `RecordQuery.Instant.dayEarlier` — 24 hours earlier, but not before the first local day.
-/

namespace RecordQuery

/-- A moment, `seconds` and `nanos` after the start of 1970 in UTC, shown `offset` seconds east of
UTC. -/
structure Instant where
  seconds : Int
  nanos : Nat
  offset : Int
  nanos_lt : nanos < 1000000000 := by decide
deriving DecidableEq, Repr

/-- The moment a whole number of seconds after the start of 1970, shown in UTC. -/
def Instant.ofSeconds (seconds : Int) : Instant := { seconds := seconds, nanos := 0, offset := 0 }

/-- The moment a whole number of nanoseconds after the start of 1970, shown in UTC. -/
def Instant.ofNanos (nanos : Int) : Instant where
  seconds := nanos / 1000000000
  nanos := (nanos % 1000000000).toNat
  offset := 0
  nanos_lt := by omega

/-- The seconds of a day. -/
def secondsPerDay : Int := 86400

namespace Instant

/-- The moment in nanoseconds. -/
def moment (t : Instant) : Int := t.seconds * 1000000000 + t.nanos

/-- Whether the first moment comes before the second. -/
def before (s t : Instant) : Bool := s.moment < t.moment

/-- The seconds since the start of 1970 that a clock at the offset shows. -/
def localSeconds (t : Instant) : Int := t.seconds + t.offset

/-- The day that a calendar at the offset shows. -/
def localDay (t : Instant) : Day := Day.ofNumber (t.localSeconds / secondsPerDay)

/-- The seconds since midnight that a clock at the offset shows. -/
def localTime (t : Instant) : Nat := (t.localSeconds % secondsPerDay).toNat

/-- The seconds before 1970 of the first day of the first year that dates can have. -/
def firstLocalSecond : Int := (Day.mk (-9999) 1 1).number * secondsPerDay

/-- The moment 24 hours earlier. There is no local day before the first, so the result does not go
beyond its start. -/
def dayEarlier (t : Instant) : Instant :=
  if t.localSeconds - secondsPerDay < firstLocalSecond then
    { seconds := firstLocalSecond - t.offset, nanos := 0, offset := t.offset }
  else { t with seconds := t.seconds - secondsPerDay }

/-- The instant of a local day and time; `time` counts the seconds since midnight. -/
def ofLocal (day : Day) (time : Nat) (nanos : Nat) (offset : Int) : Instant where
  seconds := day.number * secondsPerDay + time - offset
  nanos := nanos % 1000000000
  offset := offset
  nanos_lt := Nat.mod_lt _ (by decide)

end Instant

end RecordQuery
