import RecordQuery.Unicode.CodeSet
import RecordQuery.Unicode.Table.Case

set_option autoImplicit false

/-!
# Letter case

When two characters are the same letter, and what a letter is in lower case.

## Main definitions

* `RecordQuery.Unicode.lowerCode` — the lower-case form of one code point.
* `RecordQuery.Unicode.CodeSet.closeUnderCase` — a set with all other cases of its letters.
-/

namespace RecordQuery.Unicode

/-- The lower-case form of a code point, where it is one code point. ASCII letters are lowered by
their distance of 32; all others by the table. -/
def lowerCode (c : Nat) : Nat :=
  if c < 0x80 then (if 0x41 ≤ c ∧ c ≤ 0x5A then c + 0x20 else c)
  else (image? Table.lowerRuns c).getD c

/-- Whether a run may have a letter of the set on one of its sides. -/
def MappingRun.meets (r : MappingRun) (s : CodeSet) : Bool :=
  s.ranges.any fun q =>
    (q.1 ≤ r.last && r.first ≤ q.2) || (q.1 ≤ r.target + (r.last - r.first) && r.target ≤ q.2)

namespace CodeSet

/-- Adds the partners of the members, one step far. -/
def addPartners (s : CodeSet) : CodeSet :=
  let pairs := (Table.foldRuns.filter (·.meets s)).flatMap (·.pairs)
  let new := pairs.filter fun p => s.contains p.1 || s.contains p.2
  match new with
  | [] => s
  | _ => ofRanges (s.ranges ++ new.flatMap fun p => [(p.1, p.1), (p.2, p.2)])

/-- The set with every case of its letters. Two steps reach all cases, since each is a partner of
the smallest. -/
def closeUnderCase (s : CodeSet) : CodeSet := s.addPartners.addPartners

end CodeSet

end RecordQuery.Unicode
