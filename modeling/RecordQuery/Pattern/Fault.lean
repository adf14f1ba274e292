import RecordQuery.Pattern.Place

set_option autoImplicit false

/-!
# Faults of patterns

What can be wrong with a pattern, and the report that shows the pattern with marks under the places
that a fault is about.

## Main definitions

* `RecordQuery.Pattern.Mistake` — what is wrong.
* `RecordQuery.Pattern.Slip` — a mistake with its places.
* `RecordQuery.Pattern.Fault` — why a pattern cannot be used.
* `RecordQuery.Pattern.Fault.message` — the wording of a fault.
-/

namespace RecordQuery.Pattern

/-- How deep groups and classes of a pattern nest. -/
def nestLimit : Nat := 250

/-- How many bytes an automaton may take. -/
def footprintLimit : Nat := 1048576

/-- What is wrong in a pattern. -/
inductive Mistake where
  | classEscape
  | classRangeInvalid
  | classRangeLiteral
  | classUnclosed
  | decimalInvalid
  | escapeEnd
  | hexEmpty
  | hexInvalid
  | hexDigit
  | escapeUnknown
  | flagDangling
  | flagDuplicate
  | flagNegatedTwice
  | flagEnd
  | flagUnknown
  | nameDuplicate
  | nameEmpty
  | nameInvalid
  | nameEnd
  | groupUnclosed
  | groupUnopened
  | nesting
  | countInvalid
  | countEmpty
  | countUnclosed
  | operandMissing
  | boundaryUnclosed
  | boundaryUnknown
  | boundaryEnd
  | classNameInvalid
  | backreference
  | lookAround
  | unicodeOff
  | brokenText
  | propertyUnknown
  | propertyValueUnknown
deriving DecidableEq, Repr

/-- The wording of a mistake. -/
def Mistake.message : Mistake → String
  | classEscape => "invalid escape sequence found in character class"
  | classRangeInvalid => "invalid character class range, the start must be <= the end"
  | classRangeLiteral => "invalid range boundary, must be a literal"
  | classUnclosed => "unclosed character class"
  | decimalInvalid => "decimal literal invalid"
  | escapeEnd => "incomplete escape sequence, reached end of pattern prematurely"
  | hexEmpty => "hexadecimal literal empty"
  | hexInvalid => "hexadecimal literal is not a Unicode scalar value"
  | hexDigit => "invalid hexadecimal digit"
  | escapeUnknown => "unrecognized escape sequence"
  | flagDangling => "dangling flag negation operator"
  | flagDuplicate => "duplicate flag"
  | flagNegatedTwice => "flag negation operator repeated"
  | flagEnd => "expected flag but got end of regex"
  | flagUnknown => "unrecognized flag"
  | nameDuplicate => "duplicate capture group name"
  | nameEmpty => "empty capture group name"
  | nameInvalid => "invalid capture group character"
  | nameEnd => "unclosed capture group name"
  | groupUnclosed => "unclosed group"
  | groupUnopened => "unopened group"
  | nesting =>
    "exceed the maximum number of nested parentheses/brackets (" ++ toString nestLimit ++ ")"
  | countInvalid => "invalid repetition count range, the start must be <= the end"
  | countEmpty => "repetition quantifier expects a valid decimal"
  | countUnclosed => "unclosed counted repetition"
  | operandMissing => "repetition operator missing expression"
  | boundaryUnclosed =>
    "special word boundary assertion is either unclosed or contains an invalid character"
  | boundaryUnknown =>
    "unrecognized special word boundary assertion, valid choices are: start, end, start-half or " ++
      "end-half"
  | boundaryEnd =>
    "found either the beginning of a special word boundary or a bounded repetition on a \\b " ++
      "with an opening brace, but no closing brace"
  | classNameInvalid => "invalid Unicode character class"
  | backreference => "backreferences are not supported"
  | lookAround => "look-around, including look-ahead and look-behind, is not supported"
  | unicodeOff => "Unicode not allowed here"
  | brokenText => "pattern can match invalid UTF-8"
  | propertyUnknown => "Unicode property not found"
  | propertyValueUnknown => "Unicode property value not found"

/-- A mistake, where it is, and where the thing is that it repeats, if it repeats one. -/
structure Slip where
  mistake : Mistake
  span : Span
  earlier : Option Span := none
deriving DecidableEq, Repr

/-- A mistake at a span. -/
def Mistake.on (m : Mistake) (span : Span) : Slip := { mistake := m, span := span }

/-- Why a pattern cannot be used. -/
inductive Fault where
  | slip (s : Slip)
  /-- The automaton takes too many bytes. -/
  | tooLarge
deriving DecidableEq, Repr

/-! ## Reports -/

namespace Slip

/-- The spans that a report marks, in the order of the pattern. -/
def spans (s : Slip) : List Span := s.earlier.toList ++ [s.span]

/-- Marks below a line for the spans on it; `column` is the last column that is filled. -/
def marks (column : Nat) : List Span → List Char
  | [] => []
  | s :: rest =>
    let gap := s.start.column - 1 - column
    let length := max 1 (s.stop.column - s.start.column)
    List.replicate gap ' ' ++ List.replicate length '^' ++ marks (column + gap + length) rest

/-- A line of the pattern behind its margin, and below it the marks for the spans on it. -/
def notedLine (s : Slip) (margin : Nat → List Char) (number : Nat) (line : List Char) :
    List Char :=
  let spans := s.spans.filter fun q => q.isOneLine && q.start.line == number
  let text := margin number ++ line ++ ['\n']
  if spans.isEmpty then text
  else text ++ List.replicate (margin number).length ' ' ++ marks 0 spans ++ ['\n']

/-- All lines with their marks. -/
def notedLines (s : Slip) (margin : Nat → List Char) (lines : List (List Char)) : List Char :=
  (lines.zipIdx 1).flatMap fun (line, number) => s.notedLine margin number line

/-- The place of a span over several lines, in words. -/
def placeInWords (q : Span) : String :=
  "on line " ++ toString q.start.line ++ " (column " ++ toString q.start.column ++
    ") through line " ++ toString q.stop.line ++ " (column " ++ toString (q.stop.column - 1) ++ ")"

/-- The number of a line, as wide as the number of the last line, and a colon. -/
def numberMargin (width number : Nat) : List Char :=
  let digits := (toString number).toList
  List.replicate (width - digits.length) ' ' ++ digits ++ [':', ' ']

/-- A report that shows a pattern of one line behind a margin of four blanks. A pattern of several
lines is shown with line numbers between two rules, followed by the spans over several lines in
words. -/
def report (s : Slip) (source : String) : String :=
  let text := source.toList
  let lines := Text.lines text
  let title := "regex parse error:\n"
  let verdict := "error: " ++ s.mistake.message
  if text.contains '\n' then
    let count := lines.length + (if text.getLast? = some '\n' then 1 else 0)
    let width := (toString count).length
    let rule := String.ofList (List.replicate 79 '~') ++ "\n"
    let wide := s.spans.filter (!·.isOneLine)
    title ++ rule ++ String.ofList (s.notedLines (numberMargin width) lines) ++ rule ++
      (if wide.isEmpty then "" else String.intercalate "\n" (wide.map placeInWords) ++ "\n") ++
      verdict
  else
    title ++ String.ofList (s.notedLines (fun _ => List.replicate 4 ' ') lines) ++ verdict

end Slip

/-- The wording of a fault of a pattern. -/
def Fault.message (source : String) : Fault → String
  | slip s => s.report source
  | tooLarge => "Compiled regex exceeds size limit of " ++ toString footprintLimit ++ " bytes."

end RecordQuery.Pattern
