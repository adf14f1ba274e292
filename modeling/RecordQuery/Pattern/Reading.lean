import RecordQuery.Pattern.Bracket
import RecordQuery.Pattern.Group

set_option autoImplicit false

/-!
# Reading patterns

A pattern is read from left to right. Groups that are still open wait on a stack; each step reads
one thing and puts it into the innermost of them.

## Main definitions

* `RecordQuery.Pattern.Branch` — what has been read of a group since its last bar.
* `RecordQuery.Pattern.FormState` — a pattern half read.
* `RecordQuery.Pattern.Form.read` — the form of a whole pattern.
-/

namespace RecordQuery.Pattern

/-! ## Groups under way -/

/-- What has been read of a group, or of the pattern outside all groups. -/
structure Branch where
  /-- Where the first of the alternatives starts. -/
  groupStart : Place
  /-- Where the one under way starts. -/
  start : Place
  /-- The alternatives before it, the last one first. -/
  finished : List Form := []
  /-- The items of the one under way, the last one first. -/
  items : List Form := []

namespace Branch

/-- A group of which nothing has been read. -/
def fresh (place : Place) : Branch := { groupStart := place, start := place }

/-- One more item. -/
def add (f : Form) (b : Branch) : Branch := { b with items := f :: b.items }

/-- The alternative under way, up to a place. -/
def current (stop : Place) (b : Branch) : Form := .ofItems ⟨b.start, stop⟩ b.items.reverse

/-- Ends an alternative before a bar; `behind` is the place behind the bar. -/
def bar (stop behind : Place) (b : Branch) : Branch :=
  { b with start := behind, finished := b.current stop :: b.finished, items := [] }

/-- All alternatives up to a place as one form. -/
def whole (stop : Place) (b : Branch) : Form :=
  match b.finished with
  | [] => b.current stop
  | finished => .alternatives ⟨b.groupStart, stop⟩ (finished.reverse ++ [b.current stop])

end Branch

/-- A group that has been opened and not yet closed. -/
structure OpenGroup where
  kind : GroupKind
  /-- Its opening parenthesis. -/
  parenthesis : Span
  /-- What has been read of the group around it. -/
  around : Branch
  /-- Whether white space is passed over around it. -/
  verboseAround : Bool

/-- A pattern half read: the branch under way, and the open groups, the innermost first. -/
structure FormState where
  cursor : Cursor
  verbose : Bool := false
  branch : Branch
  groups : List OpenGroup := []
  names : GroupNames := []
  captures : Nat := 0

/-! ## Counted repetitions -/

/-- The largest count that can be written. -/
def maxCount : Nat := 4294967295

/-- Reads decimal digits, `n` at most. -/
def readDigits (verbose : Bool) : Nat → Cursor → List Char × Cursor
  | 0, k => ([], k)
  | n + 1, k =>
    match k.rest with
    | [] => ([], k)
    | c :: _ =>
      if c.isDigit then
        let (digits, behind) := readDigits verbose n (k.advance verbose)
        (c :: digits, behind)
      else ([], k)

/-- Reads a count and the white space around it. Whether there is a count at all is found out only
where one is needed. -/
def readCount (verbose : Bool) (k : Cursor) : Except Slip Nat × Cursor :=
  let first := Cursor.skipBlanks k.place k.rest
  let (digits, last) := readDigits verbose first.rest.length first
  let span := last.since first.place
  let value := digitsValue digits
  let behind := Cursor.skipBlanks last.place last.rest
  if digits.isEmpty then (.error (Mistake.countEmpty.on span), behind)
  else if maxCount < value then (.error (Mistake.decimalInvalid.on span), behind)
  else (.ok value, behind)

/-- Reads the least and the greatest count between braces; the cursor is before the opening one. -/
def readCounts (verbose : Bool) (k : Cursor) : Except Slip ((Nat × Option Nat) × Cursor) := do
  let unclosed (k' : Cursor) : Slip := Mistake.countUnclosed.on (k'.since k.place)
  let first := k.advance verbose
  if first.atEnd then throw (unclosed first)
  let (least, closing) := readCount verbose first
  if closing.atEnd then throw (unclosed closing)
  let (counts, closing) ←
    if closing.sees ',' then do
      let second := closing.advance verbose
      if second.atEnd then throw (unclosed second)
      if second.sees '\x7d' then pure ((← least, none), second)
      else
        let least ← least
        let (most, closing) := readCount verbose second
        pure ((least, some (← most)), closing)
    else
      let least ← least
      pure ((least, some least), closing)
  if closing.sees '\x7d' then return (counts, closing) else throw (unclosed closing)

/-! ## Steps -/

namespace FormState

/-- Takes the last item as what a repetition sign under the cursor `k` repeats. -/
def operand (s : FormState) (k : Cursor) : Except Slip (Form × Branch) :=
  match s.branch.items with
  | f :: items =>
    if f.isRepeatable then .ok (f, { s.branch with items := items })
    else .error (Mistake.operandMissing.on k.here)
  | [] => .error (Mistake.operandMissing.on k.here)

/-- Repeats the operand; the cursor is before the sign of laziness, if there is one. -/
def repeatOperand (s : FormState) (k : Cursor) (operand : Form) (branch : Branch) (least : Nat)
    (most : Option Nat) : FormState :=
  let lazy := k.sees '?'
  let k := if lazy then k.next else k
  let f := Form.repeated (k.since operand.span.start) least most (!lazy) operand
  { s with cursor := k, branch := branch.add f }

/-- A repetition that is written as one sign. -/
def repeatBySign (s : FormState) (k : Cursor) (least : Nat) (most : Option Nat) :
    Except Slip FormState := do
  let (f, branch) ← s.operand k
  return s.repeatOperand k.next f branch least most

/-- A repetition with counts between braces. -/
def repeatByCounts (s : FormState) (k : Cursor) : Except Slip FormState := do
  let (f, branch) ← s.operand k
  let ((least, most), closing) ← readCounts s.verbose k
  let repeated := s.repeatOperand (closing.advance s.verbose) f branch least most
  if most.any (· < least) then throw (Mistake.countInvalid.on (repeated.cursor.since k.place))
  return repeated

/-- Opens a group that has some kind; the cursor `k` is behind what opens it. -/
def openGroup (s : FormState) (parenthesis : Span) (k : Cursor) (kind : GroupKind)
    (verbose : Bool) : FormState :=
  { s with
    cursor := k
    verbose := verbose
    branch := .fresh k.place
    groups := ⟨kind, parenthesis, s.branch, s.verbose⟩ :: s.groups }

/-- What an opening parenthesis does. -/
def opening (s : FormState) (k : Cursor) : Except Slip FormState := do
  let (o, behind) ← readOpening s.verbose s.names k
  match o with
  | .directive change =>
    return { s with
      cursor := behind
      verbose := (change.of? .verbose).getD s.verbose
      branch := s.branch.add (.flags (behind.since k.place) change) }
  | .scoped change =>
    return s.openGroup k.char behind (.flags change) ((change.of? .verbose).getD s.verbose)
  | .capture names =>
    let s := { s with names := names, captures := s.captures + 1 }
    return s.openGroup k.char behind (.capture s.captures) s.verbose

/-- What a closing parenthesis does. -/
def closing (s : FormState) (k : Cursor) : Except Slip FormState :=
  match s.groups with
  | [] => .error (Mistake.groupUnopened.on k.char)
  | g :: groups =>
    let behind := k.next
    let f := Form.group (behind.since g.parenthesis.start) g.kind (s.branch.whole k.place)
    .ok { s with
      cursor := behind
      verbose := g.verboseAround
      branch := g.around.add f
      groups := groups }

/-- Reads what comes next, the character `c` under the cursor `k`. -/
def step (s : FormState) (c : Char) (k : Cursor) : Except Slip FormState :=
  if c = '(' then s.opening k
  else if c = ')' then s.closing k
  else if c = '|' then
    .ok { s with cursor := k.next, branch := s.branch.bar k.place k.next.place }
  else if c = '?' then s.repeatBySign k 0 (some 1)
  else if c = '*' then s.repeatBySign k 0 none
  else if c = '+' then s.repeatBySign k 1 none
  else if c = '\x7b' then s.repeatByCounts k
  else do
    let (f, k) ← if c = '[' then readBrackets s.verbose k else
      (readAtom s.verbose c k).map fun (a, k) => (a.toForm, k)
    return { s with cursor := k, branch := s.branch.add f }

/-- The form of a pattern that has been read to its end. -/
def finish (s : FormState) : Except Slip Form :=
  match s.groups with
  | [] => .ok (s.branch.whole s.cursor.place)
  | g :: _ => .error (Mistake.groupUnclosed.on g.parenthesis)

/-- Reads to the end in at most `n` steps, of which each takes a character. -/
def run : Nat → FormState → Except Slip Form
  | 0, s => s.finish
  | n + 1, s =>
    let k := s.cursor.skipSpace s.verbose
    match k.rest with
    | [] => { s with cursor := k }.finish
    | c :: _ =>
      match s.step c k with
      | .error slip => .error slip
      | .ok s => s.run n

end FormState

/-! ## Nesting -/

mutual

/-- Finds the first class that nests too deep, `depth` being how many more levels there may be. -/
def ClassForm.tooDeep? (depth : Nat) : ClassForm → Option Span
  | .character _ => none
  | .range .. => none
  | .ascii .. => none
  | .escape .. => none
  | .brackets span _ inner =>
    match depth with
    | 0 => some span
    | depth + 1 => inner.tooDeep? depth
  | .members span items =>
    if items.isEmpty then none
    else match depth with
      | 0 => some span
      | depth + 1 => ClassForm.firstTooDeep? depth items
  | .combined span _ left right =>
    match depth with
    | 0 => some span
    | depth + 1 => (left.tooDeep? depth).or (right.tooDeep? depth)

/-- The same for the members of a class. -/
def ClassForm.firstTooDeep? (depth : Nat) : List ClassForm → Option Span
  | [] => none
  | c :: rest => (c.tooDeep? depth).or (ClassForm.firstTooDeep? depth rest)

end

mutual

/-- Finds the first form that nests too deep, `depth` being how many more levels there may be. -/
def Form.tooDeep? (depth : Nat) : Form → Option Span
  | .empty _ => none
  | .flags .. => none
  | .character _ => none
  | .dot _ => none
  | .anchor .. => none
  | .escape .. => none
  | .brackets span _ inner =>
    match depth with
    | 0 => some span
    | depth + 1 => inner.tooDeep? depth
  | .repeated span _ _ _ inner =>
    match depth with
    | 0 => some span
    | depth + 1 => inner.tooDeep? depth
  | .group span _ inner =>
    match depth with
    | 0 => some span
    | depth + 1 => inner.tooDeep? depth
  | .alternatives span branches =>
    match depth with
    | 0 => some span
    | depth + 1 => Form.firstTooDeep? depth branches
  | .sequence span items =>
    match depth with
    | 0 => some span
    | depth + 1 => Form.firstTooDeep? depth items

/-- The same for the parts of a form. -/
def Form.firstTooDeep? (depth : Nat) : List Form → Option Span
  | [] => none
  | f :: rest => (f.tooDeep? depth).or (Form.firstTooDeep? depth rest)

end

/-- The form of a whole pattern. -/
def Form.read (text : List Char) : Except Slip Form := do
  let k := Cursor.start text
  let f ← FormState.run text.length { cursor := k, branch := .fresh k.place }
  match f.tooDeep? nestLimit with
  | some span => throw (Mistake.nesting.on span)
  | none => return f

end RecordQuery.Pattern
