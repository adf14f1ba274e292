import RecordQuery.Pattern.Expr
import RecordQuery.Pattern.Fault
import RecordQuery.Pattern.Form
import RecordQuery.Unicode.Case
import RecordQuery.Unicode.Naming

set_option autoImplicit false

/-!
# The meaning of patterns

What a written pattern matches, as an expression. Flags change the meaning of what follows them, so
they are handed on from left to right.

A pattern only ever matches whole characters. Where Unicode is switched off, classes are sets of
bytes, and those that hold a byte that is no character are refused.

## Main definitions

* `RecordQuery.Pattern.PropertyName.codes` — the characters that the name of a property stands for.
* `RecordQuery.Pattern.ClassForm.codes` — the characters of a class.
* `RecordQuery.Pattern.Form.toExpr` — the expression that a pattern means.
-/

namespace RecordQuery.Pattern

open Unicode

/-! ## Properties -/

/-- The characters of the category or the script with a name. -/
def valueCodes (name : String) : Except Mistake CodeSet :=
  match category name, script name with
  | .codes s, _ => .ok s
  | .classless, _ => .error .propertyValueUnknown
  | .unknown, .codes s => .ok s
  | .unknown, .classless => .error .propertyValueUnknown
  | .unknown, .unknown => .error .propertyUnknown

/-- The characters that the name of a property stands for. A name alone is that of a binary
property, of a category or of a script; three of them are short for a property that no class can be
made of and for a value as well, and mean the value. -/
def PropertyName.codes : PropertyName → Except Mistake CodeSet
  | single name =>
    let name := looseName name
    if ["cf", "sc", "lc"].contains name then valueCodes name
    else match property? name with
      | some (.binary s) => .ok s
      | some _ => .error .propertyUnknown
      | none => valueCodes name
  | valued name value =>
    match property? (looseName name) with
    | none => .error .propertyUnknown
    | some (.valued p) =>
      match valueCodes? p (looseName value) with
      | some s => .ok s
      | none => .error .propertyValueUnknown
    | some _ => .error .propertyValueUnknown

/-! ## Classes -/

/-- A set of ASCII characters, given by ranges of characters. -/
def asciiCodes (ranges : List (Char × Char)) : CodeSet :=
  CodeSet.ofRanges (ranges.map fun r => (r.1.toNat, r.2.toNat))

/-- The characters of a named class. -/
def AsciiClass.codes : AsciiClass → CodeSet
  | alnum => asciiCodes [('0', '9'), ('A', 'Z'), ('a', 'z')]
  | alpha => asciiCodes [('A', 'Z'), ('a', 'z')]
  | ascii => CodeSet.range 0 0x7F
  | blank => asciiCodes [('\t', '\t'), (' ', ' ')]
  | cntrl => CodeSet.ofRanges [(0, 0x1F), (0x7F, 0x7F)]
  | digit => asciiCodes [('0', '9')]
  | graph => asciiCodes [('!', '~')]
  | lower => asciiCodes [('a', 'z')]
  | print => asciiCodes [(' ', '~')]
  | punct => asciiCodes [('!', '/'), (':', '@'), ('[', '\x60'), ('\x7b', '~')]
  | space => asciiCodes [('\t', '\r'), (' ', ' ')]
  | upper => asciiCodes [('A', 'Z')]
  | word => asciiCodes [('0', '9'), ('A', 'Z'), ('_', '_'), ('a', 'z')]
  | xdigit => asciiCodes [('0', '9'), ('A', 'F'), ('a', 'f')]

/-- The characters of a class with a letter of its own. -/
def Shorthand.codes (unicode : Bool) : Shorthand → CodeSet
  | digit => if unicode then digitCodes else AsciiClass.digit.codes
  | blank => if unicode then blankCodes else AsciiClass.space.codes
  | word => if unicode then wordCodes else AsciiClass.word.codes

/-- A set of bytes with both cases of its letters. -/
def closeUnderAsciiCase (s : CodeSet) : CodeSet :=
  let lowered := (s.inter (CodeSet.range 0x41 0x5A)).ranges.map fun r => (r.1 + 0x20, r.2 + 0x20)
  let raised := (s.inter (CodeSet.range 0x61 0x7A)).ranges.map fun r => (r.1 - 0x20, r.2 - 0x20)
  CodeSet.ofRanges (s.ranges ++ lowered ++ raised)

namespace Modes

/-- A set with the other cases of its letters, if case is ignored. -/
def folded (m : Modes) (s : CodeSet) : CodeSet :=
  if !m.fold then s
  else if m.unicode then s.closeUnderCase
  else closeUnderAsciiCase s

/-- The complement of a set, if it is negated. Without Unicode that is a set of bytes, and holds
some that are no characters. -/
def negatedIf (m : Modes) (negated : Bool) (span : Span) (s : CodeSet) : Except Slip CodeSet :=
  if !negated then .ok s
  else if m.unicode then .ok s.complement
  else .error (Mistake.brokenText.on span)

/-- The code of a character in a class. -/
def classCode (m : Modes) (c : Character) : Except Slip Nat :=
  if m.unicode || c.char.toNat < 0x80 then .ok c.char.toNat
  else if c.isByte then .error (Mistake.brokenText.on c.span)
  else .error (Mistake.unicodeOff.on c.span)

/-- The characters of a class that is written as an escape. -/
def escapeCodes (m : Modes) (span : Span) : ClassEscape → Except Slip CodeSet
  | .shorthand negated s => m.negatedIf negated span (s.codes m.unicode)
  | .property negated name =>
    if !m.unicode then .error (Mistake.unicodeOff.on span)
    else match name.codes with
      | .error mistake => .error (mistake.on span)
      | .ok s => m.negatedIf negated span (m.folded s)

/-- What an operator makes of two sets. -/
def combine (m : Modes) (operator : ClassOperator) (s t : CodeSet) : CodeSet :=
  let s := m.folded s
  let t := m.folded t
  match operator with
  | .both => s.inter t
  | .onlyLeft => s.diff t
  | .either => s.symmDiff t

end Modes

mutual

/-- The characters of a class. -/
def ClassForm.codes (m : Modes) : ClassForm → Except Slip CodeSet
  | .character c => (m.classCode c).map CodeSet.single
  | .range _ first last => do
    let low ← m.classCode first
    let high ← m.classCode last
    return CodeSet.range low high
  | .ascii span negated c => m.negatedIf negated span (m.folded c.codes)
  | .escape span e => m.escapeCodes span e
  | .brackets span negated inner => do
    let s ← inner.codes m
    m.negatedIf negated span (m.folded s)
  | .members _ items => (ClassForm.allCodes m items).map CodeSet.unions
  | .combined _ operator left right => do
    let s ← left.codes m
    let t ← right.codes m
    return m.combine operator s t

/-- The characters of each of some classes. -/
def ClassForm.allCodes (m : Modes) : List ClassForm → Except Slip (List CodeSet)
  | [] => .ok []
  | c :: rest => do
    let s ← c.codes m
    let sets ← ClassForm.allCodes m rest
    return s :: sets

end

/-! ## Patterns -/

namespace Modes

/-- What a character matches: itself, or all its cases. -/
def character (m : Modes) (c : Character) : Except Slip Expr :=
  if !m.unicode && c.isByte && 0x80 ≤ c.char.toNat then .error (Mistake.brokenText.on c.span)
  else
    let single := CodeSet.single c.char.toNat
    let folded := m.folded single
    if folded = single then .ok (.literal [c.char]) else .ok (.ofCodes folded)

/-- What a dot matches: any character, or any that does not end a line. -/
def dot (m : Modes) (span : Span) : Except Slip Expr :=
  if !m.unicode then .error (Mistake.brokenText.on span)
  else if m.dotAll then .ok (.ofCodes CodeSet.all)
  else if m.returns then .ok (.ofCodes (CodeSet.ofRanges [(0xA, 0xA), (0xD, 0xD)]).complement)
  else .ok (.ofCodes (CodeSet.single 0xA).complement)

/-- What an anchor looks for. -/
def anchor (m : Modes) : Anchor → Look
  | .lineStart => if m.lines then .lineStart m.returns else .textStart
  | .lineEnd => if m.lines then .lineEnd m.returns else .textEnd
  | .textStart => .textStart
  | .textEnd => .textEnd
  | .wordBoundary => .word .boundary m.unicode
  | .noWordBoundary => .word .noBoundary m.unicode
  | .wordStart => .word .start m.unicode
  | .wordEnd => .word .stop m.unicode
  | .wordStartHalf => .word .startHalf m.unicode
  | .wordEndHalf => .word .stopHalf m.unicode

end Modes

mutual

/-- The expression that a pattern means, and the modes behind it. -/
def Form.toExpr (m : Modes) : Form → Except Slip (Expr × Modes)
  | .empty _ => .ok (.empty, m)
  | .flags _ change => .ok (.empty, m.change change)
  | .character c => (m.character c).map (·, m)
  | .dot span => (m.dot span).map (·, m)
  | .anchor _ a => .ok (.look (m.anchor a), m)
  | .escape span e => (m.escapeCodes span e).map (.ofCodes ·, m)
  | .brackets span negated inner => do
    let s ← inner.codes m
    let s ← m.negatedIf negated span (m.folded s)
    return (.ofCodes s, m)
  | .repeated _ least most greedy inner => do
    let (e, m) ← inner.toExpr m
    return (.ofCounts least most (greedy != m.swapGreed) e, m)
  | .group _ (.capture index) inner => do
    let (e, _) ← inner.toExpr m
    return (.capture index e, m)
  | .group _ (.flags change) inner => do
    let (e, _) ← inner.toExpr (m.change change)
    return (e, m)
  | .alternatives _ branches => do
    let (es, m) ← Form.allToExpr m branches
    return (.ofBranches es, m)
  | .sequence _ items => do
    let (es, m) ← Form.allToExpr m items
    return (.ofItems es, m)

/-- The expressions of some forms, each read under the modes behind the one before it. -/
def Form.allToExpr (m : Modes) : List Form → Except Slip (List Expr × Modes)
  | [] => .ok ([], m)
  | f :: rest => do
    let (e, m) ← f.toExpr m
    let (es, m) ← Form.allToExpr m rest
    return (e :: es, m)

end

end RecordQuery.Pattern
