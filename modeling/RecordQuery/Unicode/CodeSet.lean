set_option autoImplicit false

/-!
# Sets of code points

A set of Unicode code points, kept as ascending ranges that neither overlap nor touch. The
operations are those of character classes: union, intersection, difference, symmetric
difference and complement.

## Main definitions

* `RecordQuery.Unicode.CodeSet` — a set as its ranges.
* `RecordQuery.Unicode.CodeSet.ofRanges` — the set of any ranges in any order.
* `RecordQuery.Unicode.CodeSet.ofLines` — the set written as hexadecimal ranges.
* `RecordQuery.Unicode.CodeSet.contains` — membership.
-/

namespace RecordQuery.Unicode

/-- A set of code points as ascending ranges, both ends of each included. -/
structure CodeSet where
  ranges : List (Nat × Nat)
deriving DecidableEq, Repr, Inhabited

/-- The largest code point. -/
def lastCode : Nat := 0x10FFFF

/-- The first code point after `c` that is not a surrogate. -/
def nextCode (c : Nat) : Nat := if c = 0xD7FF then 0xE000 else c + 1

/-- The last code point before `c` that is not a surrogate. -/
def previousCode (c : Nat) : Nat := if c = 0xE000 then 0xD7FF else c - 1

namespace CodeSet

/-! ## Building sets -/

/-- Joins neighbouring ranges of an ascending list where they overlap or touch. -/
def joinRanges : List (Nat × Nat) → List (Nat × Nat)
  | [] => []
  | [r] => [r]
  | (a, b) :: (c, d) :: rest =>
    if c ≤ b + 1 then joinRanges ((a, max b d) :: rest) else (a, b) :: joinRanges ((c, d) :: rest)
termination_by ranges => ranges.length

/-- The set of all code points in some of the ranges. -/
def ofRanges (ranges : List (Nat × Nat)) : CodeSet :=
  ⟨joinRanges (ranges.mergeSort fun r s => r.1 < s.1 || (r.1 == s.1 && r.2 ≤ s.2))⟩

/-- The set without members. -/
def empty : CodeSet := ⟨[]⟩

/-- The set of every code point. -/
def all : CodeSet := ⟨[(0, lastCode)]⟩

/-- The set of the code points from `a` to `b`. -/
def range (a b : Nat) : CodeSet := ⟨[(a, b)]⟩

/-- The set of one code point. -/
def single (c : Nat) : CodeSet := range c c

/-- The value of a hexadecimal digit in upper case; other characters count as zero. -/
def hexValue (c : Char) : Nat :=
  if '0' ≤ c ∧ c ≤ '9' then c.toNat - '0'.toNat
  else if 'A' ≤ c ∧ c ≤ 'F' then c.toNat - 'A'.toNat + 10
  else 0

/-- Reads ranges written in hexadecimal: `41-5A 5F` is A to Z and the underscore. `start` is the
lower end of the range under way, once its dash has been seen, and `code` the number under way. -/
def readRanges : List Char → (start : Option Nat) → (code : Nat) → List (Nat × Nat)
  | [], start, code => [(start.getD code, code)]
  | ' ' :: rest, start, code => (start.getD code, code) :: readRanges rest none 0
  | '-' :: rest, _, code => readRanges rest (some code) 0
  | c :: rest, start, code => readRanges rest start (16 * code + hexValue c)

/-- The set written as ascending hexadecimal ranges between blanks, on several lines. -/
def ofLines (lines : List String) : CodeSet :=
  ⟨lines.flatMap fun line => readRanges line.toList none 0⟩

/-! ## Operations -/

/-- Membership. -/
def contains (s : CodeSet) (c : Nat) : Bool := s.ranges.any fun r => r.1 ≤ c && c ≤ r.2

/-- A set without members has no ranges. -/
def isEmpty (s : CodeSet) : Bool := s.ranges.isEmpty

/-- Whether every member is an ASCII character. -/
def isAscii (s : CodeSet) : Bool := s.ranges.all fun r => r.2 < 0x80

/-- The members of either set. -/
def union (s t : CodeSet) : CodeSet := ofRanges (s.ranges ++ t.ranges)

/-- The members of one of the sets. -/
def unions (sets : List CodeSet) : CodeSet := ofRanges (sets.flatMap ranges)

/-- The gaps between ascending ranges, after the first. Two ranges that meet around the
surrogates leave the two characters next to them. -/
def gaps : List (Nat × Nat) → List (Nat × Nat)
  | (_, b) :: (c, d) :: rest =>
    let low := nextCode b
    let high := previousCode c
    (min low high, max low high) :: gaps ((c, d) :: rest)
  | [(_, b)] => if b < lastCode then [(nextCode b, lastCode)] else []
  | [] => []

/-- The code points that are not members. -/
def complement (s : CodeSet) : CodeSet :=
  match s.ranges with
  | [] => all
  | (a, b) :: rest =>
    ⟨(if 0 < a then [(0, previousCode a)] else []) ++ gaps ((a, b) :: rest)⟩

/-- The members of both sets. -/
def inter (s t : CodeSet) : CodeSet :=
  ofRanges <| s.ranges.flatMap fun r =>
    t.ranges.filterMap fun q =>
      let low := max r.1 q.1
      let high := min r.2 q.2
      if low ≤ high then some (low, high) else none

/-- What is left of the range from `a` to `b` when ascending ranges are taken out. -/
def cutRange (a b : Nat) : List (Nat × Nat) → List (Nat × Nat)
  | [] => [(a, b)]
  | (c, d) :: rest =>
    if d < a then cutRange a b rest
    else if b < c then [(a, b)]
    else
      (if a < c then [(a, previousCode c)] else []) ++
        (if d < b then cutRange (nextCode d) b rest else [])

/-- The members of the first set that are not in the second. -/
def diff (s t : CodeSet) : CodeSet :=
  ofRanges (s.ranges.flatMap fun r => cutRange r.1 r.2 t.ranges)

/-- The members of exactly one of the sets. -/
def symmDiff (s t : CodeSet) : CodeSet := (s.union t).diff (s.inter t)

/-- The only member of a set with one. -/
def single? (s : CodeSet) : Option Nat :=
  match s.ranges with
  | [(a, b)] => if a = b then some a else none
  | _ => none

end CodeSet

end RecordQuery.Unicode
