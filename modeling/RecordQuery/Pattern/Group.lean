import RecordQuery.Pattern.Fault
import RecordQuery.Pattern.Form
import RecordQuery.Unicode.Property

set_option autoImplicit false

/-!
# Reading the start of a group

What an opening parenthesis opens: a numbered or named group, a group with flags, or nothing but a
change of flags.

## Main definitions

* `RecordQuery.Pattern.readFlags` — flags up to a colon or a closing parenthesis.
* `RecordQuery.Pattern.readName` — the name of a group.
* `RecordQuery.Pattern.readOpening` — what an opening parenthesis opens.
-/

namespace RecordQuery.Pattern

/-! ## Flags -/

/-- The flags read so far. -/
structure FlagItems where
  change : List (Flag × Bool × Span) := []
  minus : Option Span := none
  /-- The minus was read last. -/
  dangling : Bool := false

namespace FlagItems

/-- One more letter or minus, the character under the cursor. -/
def add (items : FlagItems) (c : Char) (k : Cursor) : Except Slip FlagItems :=
  if c = '-' then
    match items.minus with
    | some earlier =>
      .error { mistake := .flagNegatedTwice, span := k.char, earlier := some earlier }
    | none => .ok { items with minus := some k.char, dangling := true }
  else
    match Flag.ofLetter? c with
    | none => .error (Mistake.flagUnknown.on k.char)
    | some f =>
      match items.change.lookup f with
      | some (_, earlier) =>
        .error { mistake := .flagDuplicate, span := k.char, earlier := some earlier }
      | none =>
        let item := (f, items.minus.isNone, k.char)
        .ok { items with change := items.change ++ [item], dangling := false }

/-- What the flags change. -/
def toChange (items : FlagItems) : FlagChange := items.change.map fun (f, on, _) => (f, on)

end FlagItems

/-- Reads flags up to a colon or a closing parenthesis, `n` at most; gives them and the cursor
before that character. -/
def readFlags (items : FlagItems) : Nat → Cursor → Except Slip (FlagItems × Cursor)
  | n, k =>
    match k.rest, n with
    | [], _ => .error (Mistake.flagEnd.on k.here)
    | c :: _, n =>
      if c = ':' || c = ')' then
        match items.minus with
        | some minus =>
          if items.dangling then .error (Mistake.flagDangling.on minus) else .ok (items, k)
        | none => .ok (items, k)
      else
        match items.add c k, n with
        | .error slip, _ => .error slip
        | .ok _, 0 => .error (Mistake.flagEnd.on k.here)
        | .ok items, n + 1 => readFlags items n k.next

/-! ## Names -/

/-- Whether a character may stand in the name of a group, or start it. -/
def isNameChar (first : Bool) (c : Char) : Bool :=
  let alphabetic := Unicode.alphabeticCodes.contains c.toNat
  if first then c = '_' || alphabetic
  else c = '_' || c = '.' || c = '[' || c = ']' || alphabetic ||
    Unicode.numericCodes.contains c.toNat

/-- Reads a name up to the closing angle bracket; gives it and the cursor before the bracket. -/
def readNameChars (first : Bool) (place : Place) : List Char → Except Slip (List Char × Cursor)
  | [] => .error (Mistake.nameEnd.on ⟨place, place⟩)
  | c :: rest =>
    if c = '>' then .ok ([], ⟨c :: rest, place⟩)
    else if isNameChar first c then
      (readNameChars false (place.after c) rest).map fun (name, k) => (c :: name, k)
    else .error (Mistake.nameInvalid.on ⟨place, place.after c⟩)

/-- The names of groups and where they stand. -/
abbrev GroupNames := List (String × Span)

/-- Reads the name of a group, which no group before it may have. -/
def readName (names : GroupNames) (k : Cursor) : Except Slip (GroupNames × Cursor) := do
  let (chars, closing) ← readNameChars true k.place k.rest
  if chars.isEmpty then throw (Mistake.nameEmpty.on k.here)
  let name := String.ofList chars
  let span := closing.since k.place
  match names.lookup name with
  | some earlier => throw { mistake := .nameDuplicate, span := span, earlier := some earlier }
  | none => return ((name, span) :: names, closing.next)

/-! ## Openings -/

/-- What an opening parenthesis opens. -/
inductive Opening where
  | capture (names : GroupNames)
  | scoped (change : FlagChange)
  /-- Flags for the rest of the group around; nothing is opened. -/
  | directive (change : FlagChange)

/-- The cursor behind a text, if that text comes next. -/
def Cursor.past? (text : List Char) (k : Cursor) : Option Cursor :=
  if text.isPrefixOf k.rest then some (k.skip text.length) else none

/-- The signs of the groups that look around. -/
def lookAroundSigns : List (List Char) := [['?', '='], ['?', '!'], ['?', '<', '='], ['?', '<', '!']]

/-- Reads what an opening parenthesis opens; the cursor is before it. -/
def readOpening (verbose : Bool) (names : GroupNames) (k : Cursor) :
    Except Slip (Opening × Cursor) := do
  let parenthesis := k.char
  let inner := k.advance verbose
  if let some behind := lookAroundSigns.findSome? (Cursor.past? · inner) then
    throw (Mistake.lookAround.on (behind.since k.place))
  match (inner.past? ['?', 'P', '<']).or (inner.past? ['?', '<']) with
  | some k =>
    let (names, k) ← readName names k
    return (.capture names, k)
  | none =>
    match inner.past? ['?'] with
    | none => return (.capture names, inner)
    | some k =>
      if k.atEnd then throw (Mistake.groupUnclosed.on parenthesis)
      let (items, closing) ← readFlags {} k.rest.length k
      if closing.sees ')' then
        if items.change.isEmpty then throw (Mistake.operandMissing.on inner.here)
        return (.directive items.toChange, closing.next)
      else return (.scoped items.toChange, closing.next)

end RecordQuery.Pattern
