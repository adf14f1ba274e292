import RecordQuery.Pattern.Escape

set_option autoImplicit false

/-!
# Reading bracketed classes

A bracketed class holds characters, ranges, named classes, escapes and further brackets, and can be
combined of two sides by an operator. Operators bind weaker than standing side by side and take
what is on their left as a whole.

## Main definitions

* `RecordQuery.Pattern.ClassLevel` — a class that has been opened and not yet closed.
* `RecordQuery.Pattern.ClassState` — the open classes, from the inside out.
* `RecordQuery.Pattern.readBrackets` — a class from its opening bracket to its closing one.
-/

namespace RecordQuery.Pattern

/-- A class that has been opened and not yet closed. -/
structure ClassLevel where
  start : Place
  /-- What opens the class: the bracket, a caret and what must be a literal behind them. -/
  opening : Span
  negated : Bool
  /-- The left side of an operator, and the operator. -/
  left : Option (ClassForm × ClassOperator) := none
  /-- Where the members begin, should there be none. -/
  membersStart : Place
  /-- The members so far, the last one first. -/
  members : List ClassForm := []

namespace ClassLevel

/-- The class with one more member. -/
def add (c : ClassForm) (l : ClassLevel) : ClassLevel := { l with members := c :: l.members }

/-- The members so far as one class. -/
def side (l : ClassLevel) : ClassForm :=
  match l.members.getLast?, l.members.head? with
  | some first, some last =>
    .ofMembers ⟨first.span.start, last.span.stop⟩ l.members.reverse
  | _, _ => .members ⟨l.membersStart, l.membersStart⟩ []

/-- The class so far, with the left side of an operator. -/
def whole (l : ClassLevel) : ClassForm :=
  match l.left with
  | none => l.side
  | some (left, operator) =>
    .combined ⟨left.span.start, l.side.span.stop⟩ operator left l.side

/-- The class after an operator: what it holds so far becomes the left side. -/
def operate (operator : ClassOperator) (place : Place) (l : ClassLevel) : ClassLevel :=
  { l with left := some (l.whole, operator), membersStart := place, members := [] }

end ClassLevel

/-! ## Opening a class -/

/-- Reads the dashes that stand for themselves at the start of a class, `n` at most. -/
def readDashes (verbose : Bool) (start : Place) (members : List ClassForm) :
    Nat → Cursor → Except Slip (List ClassForm × Cursor)
  | 0, k => .ok (members, k)
  | n + 1, k =>
    if k.sees '-' then
      let member := ClassForm.character { span := k.char, char := '-' }
      let behind := k.advance verbose
      if behind.atEnd then .error (Mistake.classUnclosed.on ⟨start, start⟩)
      else readDashes verbose start (member :: members) n behind
    else .ok (members, k)

/-- Reads the start of a class: a bracket, a caret, dashes that stand for themselves, or else a
closing bracket that stands for itself. The cursor is before the bracket. -/
def openClass (verbose : Bool) (k : Cursor) : Except Slip (ClassLevel × Cursor) := do
  let start := k.place
  let mustGoOn (k : Cursor) : Except Slip Cursor :=
    if k.atEnd then .error (Mistake.classUnclosed.on (k.since start)) else .ok k
  let k ← mustGoOn (k.advance verbose)
  let negated := k.sees '^'
  let k ← if negated then mustGoOn (k.advance verbose) else pure k
  let membersStart := k.place
  let (members, k) ← readDashes verbose start [] k.rest.length k
  let level (members : List ClassForm) (k : Cursor) : ClassLevel × Cursor :=
    ({ start, opening := k.since start, negated, membersStart, members }, k)
  if members.isEmpty && k.sees ']' then
    let member := ClassForm.character { span := k.char, char := ']' }
    let k ← mustGoOn (k.advance verbose)
    return level [member] k
  else return level members k

/-! ## Members -/

/-- Reads a named class such as `[:alpha:]`; the cursor is before its bracket. Whatever is not
written exactly so is no named class. -/
def readAsciiClass? (k : Cursor) : Option (ClassForm × Cursor) := do
  let named := k.next
  guard (named.sees ':')
  let first := named.next
  let negated := first.sees '^'
  let first := if negated then first.next else first
  let name := first.rest.takeWhile (· ≠ ':')
  let closing := first.skip name.length
  guard (closing.sees ':' && closing.next.sees ']')
  let c ← AsciiClass.ofName? (String.ofList name)
  let behind := closing.skip 2
  return (.ascii (behind.since k.place) negated c, behind)

/-- Reads a character or an escape; the cursor is before the character `c`. -/
def readClassAtom (verbose : Bool) (c : Char) : AtomReader := fun k =>
  if c = '\\' then readEscape verbose k
  else .ok (.character { span := k.char, char := c }, k.next)

/-- An atom as a member of a class. -/
def Atom.toMember : Atom → Except Slip ClassForm
  | character c => .ok (.character c)
  | escape s e => .ok (.escape s e)
  | dot s => .error (Mistake.classEscape.on s)
  | anchor s _ => .error (Mistake.classEscape.on s)

/-- An atom as an end of a range. -/
def Atom.toRangeEnd : Atom → Except Slip Character
  | character c => .ok c
  | a => .error (Mistake.classRangeLiteral.on a.span)

/-- Reads a member or a range of characters; the cursor is before the character `c`. -/
def readMember (verbose : Bool) (l : ClassLevel) (c : Char) (k : Cursor) :
    Except Slip (ClassForm × Cursor) := do
  let mustGoOn (k : Cursor) : Except Slip Cursor :=
    if k.atEnd then .error (Mistake.classUnclosed.on l.opening) else .ok k
  let (first, k) ← readClassAtom verbose c k
  let k ← mustGoOn (k.skipSpace verbose)
  let past := k.secondPast? verbose
  if !k.sees '-' || past == some ']' || past == some '-' then
    return (← first.toMember, k)
  let k ← mustGoOn (k.advance verbose)
  match k.rest with
  | [] => throw (Mistake.classUnclosed.on l.opening)
  | d :: _ =>
    let (last, k) ← readClassAtom verbose d k
    let span : Span := ⟨first.span.start, last.span.stop⟩
    let low ← first.toRangeEnd
    let high ← last.toRangeEnd
    if high.char < low.char then throw (Mistake.classRangeInvalid.on span)
    return (.range span low high, k)

/-! ## Whole classes -/

/-- The open classes, the innermost first and by itself. -/
structure ClassState where
  cursor : Cursor
  level : ClassLevel
  outer : List ClassLevel

/-- What a step in a class comes to. -/
inductive ClassProgress where
  | under (s : ClassState)
  | done (f : Form) (k : Cursor)

namespace ClassState

/-- Closes the innermost class; `k` is behind its closing bracket. -/
def close (s : ClassState) (k : Cursor) : ClassProgress :=
  let span := k.since s.level.start
  match s.outer with
  | [] => .done (.brackets span s.level.negated s.level.whole) k
  | l :: outer =>
    .under ⟨k, l.add (.brackets span s.level.negated s.level.whole), outer⟩

/-- The operator that is written as two of a character. -/
def operator? (k : Cursor) (c : Char) : Option ClassOperator :=
  if k.second? == some c then
    match c with
    | '&' => some .both
    | '-' => some .onlyLeft
    | '~' => some .either
    | _ => none
  else none

/-- Reads what comes next in a class. -/
def step (verbose : Bool) (s : ClassState) : Except Slip ClassProgress := do
  let k := s.cursor.skipSpace verbose
  match k.rest with
  | [] => throw (Mistake.classUnclosed.on s.level.opening)
  | c :: _ =>
    if c = '[' then
      match readAsciiClass? k with
      | some (member, k) => return .under { s with cursor := k, level := s.level.add member }
      | none =>
        let (level, k) ← openClass verbose k
        return .under ⟨k, level, s.level :: s.outer⟩
    else if c = ']' then return s.close k.next
    else
      match operator? k c with
      | some operator =>
        let k := k.skip 2
        return .under { s with cursor := k, level := s.level.operate operator k.place }
      | none =>
        let (member, k) ← readMember verbose s.level c k
        return .under { s with cursor := k, level := s.level.add member }

/-- Reads a class to its end in at most `n` steps. Each step takes a character, so a class that
needs more steps than there are characters is not closed. -/
def run (verbose : Bool) : Nat → ClassState → Except Slip (Form × Cursor)
  | 0, s => .error (Mistake.classUnclosed.on s.level.opening)
  | n + 1, s =>
    match s.step verbose with
    | .error slip => .error slip
    | .ok (.done f k) => .ok (f, k)
    | .ok (.under s) => s.run verbose n

end ClassState

/-- Reads a class; the cursor is before its opening bracket. -/
def readBrackets (verbose : Bool) (k : Cursor) : Except Slip (Form × Cursor) := do
  let (level, behind) ← openClass verbose k
  ClassState.run verbose (behind.rest.length + 1) ⟨behind, level, []⟩

end RecordQuery.Pattern
