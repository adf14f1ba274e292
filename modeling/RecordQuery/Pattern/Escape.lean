import RecordQuery.Pattern.Fault
import RecordQuery.Pattern.Form
import RecordQuery.Text.Ascii

set_option autoImplicit false

/-!
# Reading escapes

What a backslash and the characters behind it stand for.

## Main definitions

* `RecordQuery.Pattern.Atom` — a form without parts.
* `RecordQuery.Pattern.readEscape` — an escape.
* `RecordQuery.Pattern.readAtom` — a form of a pattern that is no group, class or repetition.
-/

namespace RecordQuery.Pattern

/-- A form without parts. -/
inductive Atom where
  | character (c : Character)
  | dot (span : Span)
  | anchor (span : Span) (a : Anchor)
  | escape (span : Span) (e : ClassEscape)
deriving Repr

/-- Where an atom stands. -/
def Atom.span : Atom → Span
  | character c => c.span
  | dot s => s
  | anchor s _ => s
  | escape s _ => s

/-- An atom as a form. -/
def Atom.toForm : Atom → Form
  | character c => .character c
  | dot s => .dot s
  | anchor s a => .anchor s a
  | escape s e => .escape s e

/-- Reading an atom gives it and the cursor behind it. -/
abbrev AtomReader := Cursor → Except Slip (Atom × Cursor)

/-! ## Hexadecimal escapes -/

/-- The character with a code. -/
def charOfCode? (n : Nat) : Option Char := if n.isValidChar then some (Char.ofNat n) else none

/-- Reads as many hexadecimal digits as there are in `n + 1`, the first under the cursor, and moves
behind the last of them. -/
def readFixedHex (verbose : Bool) (value : Nat) : Nat → Cursor → Except Slip (Nat × Cursor)
  | n, k =>
    match k.rest with
    | [] => .error (Mistake.escapeEnd.on k.here)
    | c :: _ =>
      match hexDigit? c, n with
      | none, _ => .error (Mistake.hexDigit.on k.char)
      | some d, 0 => .ok (16 * value + d, k.advance verbose)
      | some d, n + 1 => readFixedHex verbose (16 * value + d) n (k.advance verbose)

/-- Reads hexadecimal digits up to a closing brace, for `n` characters at most; gives their value
if there are any, and the cursor before the brace. -/
def readHexUntilBrace (verbose : Bool) (brace : Place) (value : Option Nat) :
    Nat → Cursor → Except Slip (Option Nat × Cursor)
  | n, k =>
    match k.rest with
    | [] => .error (Mistake.escapeEnd.on (k.since brace))
    | c :: _ =>
      if c = '\x7d' then .ok (value, k)
      else match hexDigit? c, n with
        | none, _ => .error (Mistake.hexDigit.on k.char)
        | some _, 0 => .error (Mistake.escapeEnd.on (k.since brace))
        | some d, n + 1 =>
          readHexUntilBrace verbose brace (some (16 * value.getD 0 + d)) n (k.advance verbose)

/-- Reads a code between braces; the cursor is before the opening one. -/
def readBracedHex (verbose : Bool) (k : Cursor) : Except Slip (Char × Cursor) := do
  let brace := k.place
  let first := k.next
  let (value, closing) ← readHexUntilBrace verbose brace none k.rest.length (k.advance verbose)
  let behind := closing.advance verbose
  match value with
  | none => throw (Mistake.hexEmpty.on (behind.since brace))
  | some n =>
    match charOfCode? n with
    | none => throw (Mistake.hexInvalid.on (closing.since first.place))
    | some c => return (c, behind)

/-- Reads the code of a character; the cursor is before the letter that says how many digits the
code has, unless it stands in braces. -/
def readHex (verbose : Bool) (start : Place) (letter : Char) (k : Cursor) :
    Except Slip (Character × Cursor) := do
  let k := k.advance verbose
  if k.sees '\x7b' then
    let (c, behind) ← readBracedHex verbose k
    return ({ span := behind.since start, char := c }, behind)
  else
    let digits := if letter = 'x' then 2 else if letter = 'u' then 4 else 8
    let (n, behind) ← readFixedHex verbose 0 (digits - 1) k
    match charOfCode? n with
    | none => throw (Mistake.hexInvalid.on (behind.since k.place))
    | some c =>
      return ({ span := behind.since start, char := c, isByte := letter = 'x' }, behind)

/-! ## Properties -/

/-- The parts of a text before and after the first place where `mark` stands in it. -/
def splitAt? (mark : List Char) : List Char → Option (List Char × List Char)
  | [] => none
  | c :: cs =>
    if mark.isPrefixOf (c :: cs) then some ([], (c :: cs).drop mark.length)
    else (splitAt? mark cs).map fun (before, after) => (c :: before, after)

/-- The property named between braces. Of the three marks between a property and its value the
first in this order counts. -/
def PropertyName.ofText (text : List Char) : PropertyName :=
  match (splitAt? ['!', '='] text).or ((splitAt? [':'] text).or (splitAt? ['='] text)) with
  | some (name, value) => .valued (String.ofList name) (String.ofList value)
  | none => .single (String.ofList text)

/-- Reads up to a closing brace, for `n` characters at most; gives what it read and the cursor
before the brace. -/
def readUntilBrace (verbose : Bool) : Nat → Cursor → Except Slip (List Char × Cursor)
  | n, k =>
    match k.rest, n with
    | [], _ => .error (Mistake.escapeEnd.on k.here)
    | c :: _, 0 => if c = '\x7d' then .ok ([], k) else .error (Mistake.escapeEnd.on k.here)
    | c :: _, n + 1 =>
      if c = '\x7d' then .ok ([], k)
      else (readUntilBrace verbose n (k.advance verbose)).map fun (text, k) => (c :: text, k)

/-- Reads the name of a property; the cursor is before the letter that says whether the class is
negated. -/
def readProperty (verbose : Bool) (start : Place) (negated : Bool) : AtomReader := fun k => do
  let k := k.advance verbose
  match k.rest with
  | [] => throw (Mistake.escapeEnd.on k.here)
  | c :: _ =>
    let (name, behind) ←
      if c = '\x7b' then do
        let (text, closing) ← readUntilBrace verbose k.rest.length (k.advance verbose)
        pure (PropertyName.ofText text, closing.next)
      else if c = '\\' then throw (Mistake.classNameInvalid.on k.char)
      else pure (PropertyName.single c.toString, k.advance verbose)
    return (.escape (behind.since start) (.property negated name), behind)

/-! ## Word boundaries -/

/-- Whether a character may stand in the name of a boundary. -/
def isBoundaryLetter (c : Char) : Bool := c.isAlpha || c = '-'

/-- The boundary with a name. -/
def Anchor.ofName? (name : List Char) : Option Anchor :=
  if name = "start".toList then some .wordStart
  else if name = "end".toList then some .wordEnd
  else if name = "start-half".toList then some .wordStartHalf
  else if name = "end-half".toList then some .wordEndHalf
  else none

/-- Reads the letters of the name of a boundary, `n` at most. -/
def readBoundaryName (verbose : Bool) : Nat → Cursor → List Char × Cursor
  | 0, k => ([], k)
  | n + 1, k =>
    match k.rest with
    | [] => ([], k)
    | c :: _ =>
      if isBoundaryLetter c then
        let (name, behind) := readBoundaryName verbose n (k.advance verbose)
        (c :: name, behind)
      else ([], k)

/-- Reads the name of a boundary between braces; the cursor is before the opening one. If what
follows it cannot be a name, the brace belongs to a repetition and nothing is read. -/
def readBoundary? (verbose : Bool) (start : Place) (k : Cursor) :
    Except Slip (Option (Anchor × Cursor)) :=
  let first := k.advance verbose
  match first.rest with
  | [] => .error (Mistake.boundaryEnd.on (first.since start))
  | c :: _ =>
    if isBoundaryLetter c then
      let (name, closing) := readBoundaryName verbose first.rest.length first
      if closing.sees '\x7d' then
        match Anchor.ofName? name with
        | some a => .ok (some (a, closing.next))
        | none => .error (Mistake.boundaryUnknown.on (closing.since first.place))
      else .error (Mistake.boundaryUnclosed.on (closing.since k.place))
    else .ok none

/-- Reads what follows the letter of a word boundary. -/
def readWordBoundary (verbose : Bool) (start : Place) : AtomReader := fun k => do
  let plain := (Atom.anchor (k.since start) .wordBoundary, k)
  if k.sees '\x7b' then
    match ← readBoundary? verbose start k with
    | some (a, behind) => return (.anchor (behind.since start) a, behind)
    | none => return plain
  else return plain

/-! ## Escapes -/

/-- The characters that mean something in a pattern. -/
def isMeaningful (c : Char) : Bool := "\\.+*?()|[]\x7b\x7d^$#&-~".toList.contains c

/-- Whether a backslash before a character makes it stand for itself. -/
def escapesToItself (c : Char) : Bool :=
  isMeaningful c || (c.toNat < 0x80 && !c.isAlphanum && c ≠ '<' && c ≠ '>')

/-- The control character that a letter stands for behind a backslash. -/
def controlOfLetter? (c : Char) : Option Char :=
  match c with
  | 'a' => some '\x07'
  | 'f' => some '\x0c'
  | 't' => some '\t'
  | 'n' => some '\n'
  | 'r' => some '\r'
  | 'v' => some '\x0b'
  | _ => none

/-- The anchor that a letter stands for behind a backslash. -/
def anchorOfLetter? (c : Char) : Option Anchor :=
  match c with
  | 'A' => some .textStart
  | 'z' => some .textEnd
  | 'B' => some .noWordBoundary
  | '<' => some .wordStart
  | '>' => some .wordEnd
  | _ => none

/-- The class that a letter stands for behind a backslash, in upper case its complement. -/
def shorthandOfLetter? (c : Char) : Option ClassEscape :=
  match c with
  | 'd' => some (.shorthand false .digit)
  | 'D' => some (.shorthand true .digit)
  | 's' => some (.shorthand false .blank)
  | 'S' => some (.shorthand true .blank)
  | 'w' => some (.shorthand false .word)
  | 'W' => some (.shorthand true .word)
  | _ => none

/-- Reads an escape; the cursor is before the backslash. -/
def readEscape (verbose : Bool) : AtomReader := fun k => do
  let start := k.place
  let k := k.next
  match k.rest with
  | [] => throw (Mistake.escapeEnd.on (k.since start))
  | c :: _ =>
    let behind := k.next
    let span := behind.since start
    if c.isDigit then throw (Mistake.backreference.on span)
    else if c = 'x' || c = 'u' || c = 'U' then
      let (character, behind) ← readHex verbose start c k
      return (.character character, behind)
    else if c = 'p' || c = 'P' then readProperty verbose start (c = 'P') k
    else if c = 'b' then readWordBoundary verbose start behind
    else if escapesToItself c then return (.character { span := span, char := c }, behind)
    else
      match shorthandOfLetter? c, controlOfLetter? c, anchorOfLetter? c with
      | some e, _, _ => return (.escape span e, behind)
      | _, some control, _ => return (.character { span := span, char := control }, behind)
      | _, _, some a => return (.anchor span a, behind)
      | none, none, none => throw (Mistake.escapeUnknown.on span)

/-- Reads an atom; the cursor is before the character `c`. -/
def readAtom (verbose : Bool) (c : Char) : AtomReader := fun k =>
  if c = '\\' then readEscape verbose k
  else if c = '.' then .ok (.dot k.char, k.next)
  else if c = '^' then .ok (.anchor k.char .lineStart, k.next)
  else if c = '$' then .ok (.anchor k.char .lineEnd, k.next)
  else .ok (.character { span := k.char, char := c }, k.next)

end RecordQuery.Pattern
