set_option autoImplicit false

/-!
# Places in YAML texts

A cursor knows the line and the column it is in and whether the line up to it is blank, because the
meaning of what follows depends on all of them.

## Main definitions

* `RecordQuery.Yaml.Cursor` — the text ahead, and where it stands in its line.
* `RecordQuery.Yaml.Cursor.skipGap?` — the cursor behind blanks and a comment of the same line.
* `RecordQuery.Yaml.Cursor.skipBlank?` — the cursor at the next character that means something.
* `RecordQuery.Yaml.Cursor.atMarker` — whether a document starts or ends here.
-/

namespace RecordQuery.Yaml

/-! ## Characters -/

/-- Whether a character is a space or a tab. -/
def isGap (c : Char) : Bool := c = ' ' || c = '\t'

/-- Whether a character is an indicator of collections within a line. -/
def isFlow (c : Char) : Bool := [',', '[', ']', '\x7b', '\x7d'].contains c

/-- Whether a blank, a line end or the end of the text comes first. -/
def startsBlank : List Char → Bool
  | [] => true
  | c :: _ => isGap c || c = '\n'

/-- Whether a line end or the end of the text comes first. -/
def startsEnd : List Char → Bool
  | [] => true
  | c :: _ => c = '\n'

/-- Whether an indicator of collections within a line comes first. -/
def startsFlow : List Char → Bool
  | [] => false
  | c :: _ => isFlow c

/-- The text with every line ended by a line feed alone. It ends at the first null. -/
def normalizeLines : List Char → List Char
  | [] => []
  | '\r' :: '\n' :: cs => '\n' :: normalizeLines cs
  | '\r' :: cs => '\n' :: normalizeLines cs
  | c :: cs => if c = '\x00' then [] else c :: normalizeLines cs

/-! ## Cursors -/

/-- The text ahead, and where it stands in its line. -/
structure Cursor where
  /-- The text ahead; its lines end in line feeds. -/
  rest : List Char
  /-- The number of lines before it. -/
  line : Nat := 0
  /-- The number of characters before it in its line. -/
  column : Nat := 0
  /-- The number of characters before it. -/
  index : Nat := 0
  /-- The line is blank so far. -/
  fresh : Bool := true

namespace Cursor

/-- The cursor behind `n` blanks. -/
def pass (n : Nat) (k : Cursor) : Cursor :=
  { k with rest := k.rest.drop n, column := k.column + n, index := k.index + n }

/-- The cursor behind `n` characters of a line that is not blank then. -/
def eat (n : Nat) (k : Cursor) : Cursor := { k.pass n with fresh := false }

/-- The cursor behind the end of its line. -/
def endLine (k : Cursor) : Cursor :=
  { rest := k.rest.drop 1, line := k.line + 1, column := 0, index := k.index + 1, fresh := true }

/-- The cursor behind the characters of its line that `p` holds for, and those. -/
def takeWhile (p : Char → Bool) (k : Cursor) : List Char × Cursor :=
  let cs := k.rest.takeWhile p
  (cs, if cs = [] then k else k.eat cs.length)

/-- The cursor at the end of its line, behind a comment. -/
def skipComment (k : Cursor) : Cursor := (k.takeWhile (· ≠ '\n')).2

/-- The cursor behind blanks and a comment of the same line, and those blanks; only with `tabs` tabs
are among them. A comment is set off by blanks. -/
def skipGap? (tabs : Bool) (k : Cursor) : Option (List Char × Cursor) :=
  let gap := k.rest.takeWhile fun c => c = ' ' || (tabs && c = '\t')
  let behind := k.pass gap.length
  if behind.rest.head? = some '#' then
    if gap = [] then none else some (gap, behind.skipComment)
  else some (gap, behind)

/-- Skips blanks, line ends and comments up to the next token, and tells whether a line end was among
them. On a line with content no tab may stand before column `least`, if there is one. -/
def skipBlankFrom? (least : Option Int) (ended : Bool) : (fuel : Nat) → Cursor →
    Option (Bool × Cursor)
  | 0, k => some (ended, k)
  | fuel + 1, k =>
    match k.rest with
    | '\n' :: _ => skipBlankFrom? least true fuel k.endLine
    | '#' :: _ => skipBlankFrom? least ended fuel k.skipComment
    | ' ' :: _ => skipBlankFrom? least ended fuel (k.pass 1)
    | '\t' :: _ =>
      if k.fresh && (least.map fun n => decide ((k.column : Int) < n)).getD false then
        (k.skipGap? true).bind fun (_, behind) =>
          if startsEnd behind.rest then skipBlankFrom? least ended fuel behind else none
      else skipBlankFrom? least ended fuel (k.pass 1)
    | _ => some (ended, k)

/-- Skips blanks, line ends and comments up to the next token. -/
def skipBlank? (least : Option Int) (k : Cursor) : Option (Bool × Cursor) :=
  k.skipBlankFrom? least false (k.rest.length + 1)

/-- Whether the text starts with a marker of documents, a blank behind it. -/
def atMarker (k : Cursor) (marker : String) : Bool :=
  k.column == 0 && marker.toList.isPrefixOf k.rest && startsBlank (k.rest.drop 3)

/-- Whether a document starts or ends here. -/
def atDocument (k : Cursor) : Bool := k.atMarker "---" || k.atMarker "..."

end Cursor

end RecordQuery.Yaml
