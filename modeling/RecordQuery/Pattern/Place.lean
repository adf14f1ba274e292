import RecordQuery.Text.Blank

set_option autoImplicit false

/-!
# Places in a pattern

Places and spans of a pattern, and the cursor that reads it from left to right.

## Main definitions

* `RecordQuery.Pattern.Place`, `RecordQuery.Pattern.Span` — where something stands.
* `RecordQuery.Pattern.Cursor` — a place together with what follows it.
* `RecordQuery.Pattern.Cursor.skipSpace` — past white space and comments, where these are allowed.
-/

namespace RecordQuery.Pattern

/-- A line and a column, both counted from one. -/
structure Place where
  line : Nat
  column : Nat
deriving DecidableEq, Repr, Inhabited

/-- The place behind a character. -/
def Place.after (p : Place) (c : Char) : Place :=
  if c = '\n' then ⟨p.line + 1, 1⟩ else ⟨p.line, p.column + 1⟩

/-- From one place up to another. -/
structure Span where
  start : Place
  stop : Place
deriving DecidableEq, Repr, Inhabited

/-- Whether a span starts and stops on the same line. -/
def Span.isOneLine (s : Span) : Bool := s.start.line == s.stop.line

/-- A place and the characters behind it. -/
structure Cursor where
  rest : List Char
  place : Place
deriving Repr

namespace Cursor

/-- The cursor before the first character of a text. -/
def start (text : List Char) : Cursor := ⟨text, 1, 1⟩

/-- Whether nothing follows. -/
def atEnd (k : Cursor) : Bool := k.rest.isEmpty

/-- Whether a certain character follows. -/
def sees (k : Cursor) (c : Char) : Bool := k.rest.head? == some c

/-- The cursor behind the next character. -/
def next (k : Cursor) : Cursor :=
  match k.rest with
  | [] => k
  | c :: rest => ⟨rest, k.place.after c⟩

/-- The cursor behind the next `n` characters. -/
def skip (n : Nat) (k : Cursor) : Cursor := n.repeat next k

/-- The empty span at the cursor. -/
def here (k : Cursor) : Span := ⟨k.place, k.place⟩

/-- The span of the next character. -/
def char (k : Cursor) : Span := ⟨k.place, k.next.place⟩

/-- The span from an earlier place to the cursor. -/
def since (k : Cursor) (start : Place) : Span := ⟨start, k.place⟩

/-- Past white space and comments. A comment runs from a number sign to the end of its line;
`comment` says whether one is under way. -/
def skipRemarks (comment : Bool) (place : Place) : List Char → Cursor
  | [] => ⟨[], place⟩
  | c :: rest =>
    if comment then skipRemarks (c ≠ '\n') (place.after c) rest
    else if Text.isBlank c then skipRemarks false (place.after c) rest
    else if c = '#' then skipRemarks true (place.after c) rest
    else ⟨c :: rest, place⟩

/-- Past white space and comments in a verbose pattern; elsewhere these are characters like any
other. -/
def skipSpace (verbose : Bool) (k : Cursor) : Cursor :=
  if verbose then skipRemarks false k.place k.rest else k

/-- Behind the next character and the white space and comments that follow it. -/
def advance (verbose : Bool) (k : Cursor) : Cursor := k.next.skipSpace verbose

/-- Past white space, also where it is not passed over. -/
def skipBlanks (place : Place) : List Char → Cursor
  | [] => ⟨[], place⟩
  | c :: rest => if Text.isBlank c then skipBlanks (place.after c) rest else ⟨c :: rest, place⟩

/-- The character after the next one. -/
def second? (k : Cursor) : Option Char := k.rest[1]?

/-- The character that comes after the next one and after white space and a number sign. In a
comment only its first character is looked at; if nothing but white space follows, that counts. -/
def secondPast? (verbose : Bool) (k : Cursor) : Option Char :=
  if verbose then
    let behind := k.rest.drop 1
    let c? := match behind.dropWhile Text.isBlank with
      | '#' :: comment => (comment.dropWhile Text.isBlank).head?
      | rest => rest.head?
    c?.or behind.head?
  else k.second?

end Cursor

end RecordQuery.Pattern
