import RecordQuery.Unicode.CodeSet

set_option autoImplicit false

/-!
# Characters as bytes

The bytes of UTF-8 of all characters of a range, as sequences of byte ranges: a sequence stands for
every choice of one byte from each of its ranges.

## Main definitions

* `RecordQuery.Pattern.ByteRange` — some neighbouring bytes.
* `RecordQuery.Pattern.byteSequences` — the sequences for a range of characters.
* `RecordQuery.Pattern.classSequences` — the sequences for a set of characters.
-/

namespace RecordQuery.Pattern

open Unicode

/-- Neighbouring bytes, both ends included. -/
structure ByteRange where
  low : UInt8
  high : UInt8
deriving DecidableEq, Repr

/-- The bytes of a character. -/
def charBytes (c : Char) : List UInt8 := String.utf8EncodeChar c

/-- The last code point of which UTF-8 has one, two and three bytes. -/
def lengthEnds : List Nat := [0x7F, 0x7FF, 0xFFFF]

/-- Where a range has to be cut for its characters to share all but their last `6 * i` bits, or for
these to take all values: behind its start, or else before its end. -/
def alignedCut? (low high i : Nat) : Option Nat :=
  let block := 1 <<< (6 * i)
  if low / block = high / block then none
  else if low % block ≠ 0 then some (low / block * block + (block - 1))
  else if high % block ≠ block - 1 then some (high / block * block - 1)
  else none

/-- The last code point of the first part of a range that one sequence cannot stand for. -/
def firstCut? (low high : Nat) : Option Nat :=
  match lengthEnds.find? fun m => low ≤ m && m < high with
  | some m => some m
  | none =>
    if high ≤ 0x7F then none
    else [1, 2, 3].findSome? (alignedCut? low high)

/-- The sequences for the characters of a range without surrogates. -/
def byteSequences (low high : Nat) : List (List ByteRange) :=
  match firstCut? low high with
  | some m =>
    if _h : low ≤ m ∧ m < high then byteSequences low m ++ byteSequences (m + 1) high else []
  | none => [(charBytes (Char.ofNat low)).zipWith ByteRange.mk (charBytes (Char.ofNat high))]
termination_by high - low

/-- The parts of a range below and above the surrogates. -/
def withoutSurrogates (r : Nat × Nat) : List (Nat × Nat) :=
  [(r.1, min r.2 0xD7FF), (max r.1 0xE000, r.2)].filter fun q => q.1 ≤ q.2

/-- The sequences for the characters of a set, in ascending order. -/
def classSequences (s : CodeSet) : List (List ByteRange) :=
  (s.ranges.flatMap withoutSurrogates).flatMap fun r => byteSequences r.1 r.2

end RecordQuery.Pattern
