import RecordQuery.Number.Whole
import RecordQuery.Yaml.Cursor
import RecordQuery.Yaml.Folding

set_option autoImplicit false

/-!
# Scalars of YAML

A scalar is written plainly, in quotes or as a block of lines. Each goes on over line ends as long as
its lines are indented enough.

## Main definitions

* `RecordQuery.Yaml.readPlain?` — the text of a plain scalar.
* `RecordQuery.Yaml.readQuoted?` — the text of a scalar in quotes.
* `RecordQuery.Yaml.readBlock?` — the text of a scalar that is a block of lines.
-/

namespace RecordQuery.Yaml

/-! ## Plain scalars -/

/-- Whether a plain scalar may go on here; `inFlow` says that it stands in brackets or braces. -/
def continuesPlain (inFlow : Bool) : List Char → Bool
  | [] => false
  | c :: cs =>
    !(isGap c || c = '\n' || (c = ':' && (startsBlank cs || (inFlow && startsFlow cs))) ||
      (inFlow && isFlow c))

/-- Reads blanks and line ends within a plain scalar whose lines start at column `least` or behind
it. On a line with content no tab may stand before that column. -/
def foldPlain? (least : Int) : (fuel : Nat) → Folding → Cursor → Option (Folding × Cursor)
  | 0, f, k => some (f, k)
  | fuel + 1, f, k =>
    match k.rest with
    | '\n' :: _ => foldPlain? least fuel f.lineEnd k.endLine
    | c :: _ =>
      if !isGap c then some (f, k)
      else if k.fresh && c = '\t' && decide (k.column < least) then
        (k.skipGap? true).bind fun (_, behind) =>
          if startsEnd behind.rest then foldPlain? least fuel f behind else none
      else foldPlain? least fuel (if k.fresh then f else f.gap c) (k.pass 1)
    | [] => some (f, k)

/-- Reads a plain scalar from one of its words on, of which those before have been read. -/
def readPlainFrom? (inFlow : Bool) (least : Int) : (fuel : Nat) → Folding → Cursor →
    Option (Folding × Cursor)
  | 0, _, _ => none
  | fuel + 1, f, k =>
    if k.atDocument || k.rest.head? = some '#' then some (f, k)
    else if inFlow && k.rest.head? = some '-' && startsFlow (k.rest.drop 1) then none
    else
      let (word, behind) := takeWord k.rest.length k
      let f := word.foldl (fun f c => f.char c) f
      if startsBlank behind.rest && !behind.rest.isEmpty then
        (foldPlain? least (behind.rest.length + 1) f behind).bind fun (f, next) =>
          if !inFlow && decide (next.column < least) then some (f, next)
          else readPlainFrom? inFlow least fuel f next
      else some (f, behind)
where
  /-- The characters ahead that belong to a word of the scalar. -/
  takeWord : (fuel : Nat) → Cursor → List Char × Cursor
    | 0, k => ([], k)
    | fuel + 1, k =>
      match k.rest with
      | [] => ([], k)
      | c :: _ =>
        if continuesPlain inFlow k.rest then
          let (word, behind) := takeWord fuel (k.eat 1)
          (c :: word, behind)
        else ([], k)

/-- Reads a plain scalar, of which there is at least one character. -/
def readPlain? (inFlow : Bool) (least : Int) (k : Cursor) : Option (List Char × Cursor) :=
  (readPlainFrom? inFlow least (k.rest.length + 1) {} k).bind fun (f, behind) =>
    if f.trimmed = [] then none else some (f.trimmed, behind)

/-! ## Scalars in quotes -/

/-- The character that a letter behind a backslash stands for. -/
def escaped? (c : Char) : Option Char :=
  match c with
  | '0' => some '\x00'
  | 'a' => some '\x07'
  | 'b' => some '\x08'
  | 't' => some '\t'
  | '\t' => some '\t'
  | 'n' => some '\n'
  | 'v' => some '\x0b'
  | 'f' => some '\x0c'
  | 'r' => some '\r'
  | 'e' => some '\x1b'
  | ' ' => some ' '
  | '"' => some '"'
  | '/' => some '/'
  | '\\' => some '\\'
  | 'N' => some '\u0085'
  | '_' => some '\u00a0'
  | 'L' => some '\u2028'
  | 'P' => some '\u2029'
  | _ => none

/-- The number of hexadecimal digits behind a letter that stands for a character by number. -/
def hexLength? (c : Char) : Option Nat :=
  match c with
  | 'x' => some 2
  | 'u' => some 4
  | 'U' => some 8
  | _ => none

/-- Reads what stands behind a backslash; the cursor is at the backslash. -/
def readEscape? (k : Cursor) : Option (Char × Cursor) :=
  match k.rest.drop 1 with
  | [] => none
  | c :: cs =>
    match hexLength? c with
    | some n =>
      if cs.length < n then none else (charOfHex? (cs.take n)).map (·, k.eat (n + 2))
    | none => (escaped? c).map (·, k.eat 2)

/-- Reads the rest of a scalar in quotes up to the closing one. Behind blanks or a line end, as `top`
says, the scalar must not have come to another document, nor to a column before `least`. -/
def takeQuoted? (quote : Char) (least : Int) (top : Bool) : (fuel : Nat) → Folding → Cursor →
    Option (Folding × Cursor)
  | 0, _, _ => none
  | fuel + 1, f, k =>
    match k.rest with
    | [] => none
    | '\n' :: _ => takeQuoted? quote least true fuel f.lineEnd k.endLine
    | c :: cs =>
      if isGap c then
        if f.blankLines.isSome && c = '\t' && decide (k.column < least) then none
        else takeQuoted? quote least true fuel (f.gap c) (k.pass 1)
      else if top && (k.atDocument || decide (k.column < least)) then none
      else if c = quote then
        if quote = '\'' && cs.head? = some '\'' then
          takeQuoted? quote least false fuel (f.char c) (k.eat 2)
        else some (f, k.eat 1)
      else if c = '\\' && quote = '"' then
        if cs.head? = some '\n' then takeQuoted? quote least true fuel f.glue (k.eat 1).endLine
        else (readEscape? k).bind fun (d, behind) =>
          takeQuoted? quote least false fuel (f.char d) behind
      else takeQuoted? quote least false fuel (f.char c) (k.eat 1)

/-- Reads a scalar in quotes; the cursor is at the opening one. Behind it there is nothing else in its
line but a comment, a colon if the scalar is in one line, or in brackets or braces what may follow
there. -/
def readQuoted? (inFlow : Bool) (least : Int) (k : Cursor) : Option (List Char × Cursor) := do
  let quote ← k.rest.head?
  let (f, behind) ← takeQuoted? quote least true (k.rest.length + 1) {} (k.eat 1)
  let (_, next) ← behind.skipGap? true
  let allowed := match next.rest with
    | [] => true
    | c :: _ =>
      c = '\n' || (inFlow && [',', '\x7d', ']', ':'].contains c) || (c = ':' && next.line = k.line)
  if allowed then return (f.close, next) else failure

/-! ## Scalars that are blocks of lines -/

/-- What becomes of the line ends behind a block. -/
inductive Chomping where
  | strip
  | clip
  | keep
deriving DecidableEq, Repr

/-- The signs for what becomes of the line ends. -/
def Chomping.ofChar? (c : Char) : Option Chomping :=
  if c = '-' then some .strip else if c = '+' then some .keep else none

/-- Reads the header of a block: its indentation, if it is given, and what becomes of the line ends,
in any order. -/
def readHeader? (k : Cursor) : Option (Option Nat × Chomping × Cursor) :=
  match k.rest with
  | [] => some (none, .clip, k)
  | c :: cs =>
    match Chomping.ofChar? c with
    | some chomping =>
      match cs with
      | d :: _ =>
        if isDigit d then
          if d = '0' then none else some (some (d.toNat - '0'.toNat), chomping, k.eat 2)
        else some (none, chomping, k.eat 1)
      | [] => some (none, chomping, k.eat 1)
    | none =>
      if !isDigit c then some (none, .clip, k)
      else if c = '0' then none
      else
        let n := c.toNat - '0'.toNat
        match cs.head?.bind Chomping.ofChar? with
        | some chomping => some (some n, chomping, k.eat 2)
        | none => some (some n, .clip, k.eat 1)

/-- Skips the spaces that start lines, at most `limit` of them if there is a limit, and lines with
nothing else. Tells how many such lines there were, and the column of the last space that was
skipped in any of them. -/
def skipIndentation (limit : Option Nat) (lines widest : Nat) : (fuel : Nat) → Cursor →
    Nat × Nat × Cursor
  | 0, k => (lines, widest, k)
  | fuel + 1, k =>
    let spaces := (k.rest.takeWhile (· = ' ')).length
    let spaces := (limit.map fun n => min spaces (n - k.column)).getD spaces
    let behind := k.pass spaces
    let widest := max widest behind.column
    if behind.rest.head? = some '\n' then skipIndentation limit (lines + 1) widest fuel behind.endLine
    else (lines, widest, behind)

/-- The text of a block as far as it has been read. -/
structure Block where
  /-- The characters before the last line end, the last one first. -/
  text : List Char := []
  /-- The last line with content has ended. -/
  ended : Bool := false
  /-- That line starts with a blank. -/
  spaced : Bool := false
  /-- The number of empty lines behind it. -/
  blanks : Nat := 0

/-- `n` line ends. -/
def lineEnds (n : Nat) : List Char := List.replicate n '\n'

/-- A block with one more line of content. In a folded block a single line end between lines that do
not start with a blank becomes a space, and of several the first is dropped. -/
def Block.addLine (folded : Bool) (line : List Char) (b : Block) : Block :=
  let spaced := (line.head?.map isGap).getD false
  let between :=
    if folded && b.ended && !b.spaced && !spaced then
      if b.blanks = 0 then [' '] else lineEnds b.blanks
    else lineEnds (b.blanks + if b.ended then 1 else 0)
  { text := line.reverse ++ between ++ b.text, ended := false, spaced := spaced, blanks := 0 }

/-- Reads the lines of a block that are indented by `n`. -/
def readLines (folded : Bool) (n : Nat) : (fuel : Nat) → Block → Cursor → Block × Cursor
  | 0, b, k => (b, k)
  | fuel + 1, b, k =>
    if k.column ≠ n || k.rest.isEmpty || (n = 0 && k.atDocument) then (b, k)
    else
      let line := k.rest.takeWhile (· ≠ '\n')
      let b := b.addLine folded line
      let behind := k.pass line.length
      if behind.rest.isEmpty then (b, behind)
      else
        let (blanks, _, next) := skipIndentation (some n) 0 0 behind.rest.length behind.endLine
        readLines folded n fuel { b with ended := true, blanks := blanks } next

/-- The text of a block without content, which ends the whole text. `inLine` says that it does so
within the line of its header, and `blanks` counts the empty lines behind that. -/
def emptyBlock (chomping : Chomping) (inLine : Bool) (blanks : Nat) : List Char :=
  if inLine then []
  else match chomping with
    | .strip => []
    | .clip => ['\n']
    | .keep => lineEnds (max blanks 1)

/-- The text of a block that has been read up to a cursor. At the end of the whole text one more line
end is added if the last line is indented as the block is. -/
def Block.close (b : Block) (chomping : Chomping) (n : Nat) (k : Cursor) : List Char :=
  let last := (if b.ended then 1 else 0) + if k.rest.isEmpty && max n 1 ≤ k.column then 1 else 0
  let ends := match chomping with
    | .strip => 0
    | .clip => last
    | .keep => last + b.blanks
  (lineEnds ends ++ b.text).reverse

/-- Reads a block of lines in a collection that is indented by `indent`; the cursor is at the
character that says whether the block is folded. An indentation in the header counts from that of
the collection, and without one the first line with content gives it. -/
def readBlock? (indent : Int) (k : Cursor) : Option (List Char × Cursor) := do
  let folded := k.rest.head? = some '>'
  let (given, chomping, behind) ← readHeader? (k.eat 1)
  let (_, behind) ← behind.skipGap? true
  if !startsEnd behind.rest then failure
  let start := if behind.rest.isEmpty then behind else behind.endLine
  if start.rest.head? = some '\t' then failure
  let fuel := start.rest.length + 1
  let limit := given.map fun n => (max indent 0).toNat + n
  let (blanks, widest, first) := skipIndentation limit 0 0 fuel start
  let n := limit.getD (max widest (indent + 1).toNat)
  if first.rest.isEmpty then return (emptyBlock chomping (first.line = k.line) blanks, first)
  if decide (first.column < n) && decide (indent < first.column) then failure
  let (b, last) := readLines folded n fuel { blanks := blanks } first
  return (b.close chomping n last, last)

end RecordQuery.Yaml
