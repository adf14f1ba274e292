set_option autoImplicit false

/-!
# Folded lines

A text that runs over several lines is folded: blanks around a line end are dropped, and a line end
becomes a space, or is dropped before blank lines, which become line feeds.

## Main definitions

* `RecordQuery.Yaml.Folding` — a text as far as it has been read.
* `RecordQuery.Yaml.Folding.char`, `RecordQuery.Yaml.Folding.gap`,
  `RecordQuery.Yaml.Folding.lineEnd`, `RecordQuery.Yaml.Folding.glue` — what may come next.
-/

namespace RecordQuery.Yaml

/-- A text as far as it has been read. -/
structure Folding where
  /-- The characters that are certain, the last one first. -/
  certain : List Char := []
  /-- The blanks behind them, the last one first, which a line end would drop. -/
  gaps : List Char := []
  /-- The number of blank lines since the last line with content, at the start of a line. -/
  blankLines : Option Nat := none
  /-- The last line is continued without a space. -/
  glued : Bool := false

namespace Folding

/-- The text with the blanks or line ends behind it. -/
def settle (f : Folding) : Folding :=
  match f.blankLines with
  | none => { certain := f.gaps ++ f.certain }
  | some 0 => { certain := if f.glued then f.certain else ' ' :: f.certain }
  | some n => { certain := List.replicate n '\n' ++ f.certain }

/-- A character of content comes next. -/
def char (c : Char) (f : Folding) : Folding := { certain := c :: f.settle.certain }

/-- A blank comes next. -/
def gap (c : Char) (f : Folding) : Folding :=
  if f.blankLines.isSome then f else { f with gaps := c :: f.gaps }

/-- A line ends. -/
def lineEnd (f : Folding) : Folding :=
  match f.blankLines with
  | none => { f with gaps := [], blankLines := some 0 }
  | some n => { f with blankLines := some (n + 1) }

/-- A line ends that the next one continues at once. -/
def glue (f : Folding) : Folding :=
  { certain := f.settle.certain, blankLines := some 0, glued := true }

/-- The text with all that came. -/
def close (f : Folding) : List Char := f.settle.certain.reverse

/-- The text without the blanks and line ends at its end. -/
def trimmed (f : Folding) : List Char := f.certain.reverse

end Folding

end RecordQuery.Yaml
