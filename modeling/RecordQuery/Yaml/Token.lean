import RecordQuery.Yaml.Scalar
import RecordQuery.Yaml.Tag

set_option autoImplicit false

/-!
# Tokens of YAML

A YAML text as a list of tokens. Where the entries of a block start and end follows from columns, and
becomes tokens of its own. That something is the name of a member is known only at the colon behind
it, so the last place where such a name may have started is kept, and the token that announces the name
is put there later.

## Main definitions

* `RecordQuery.Yaml.Token` — a token.
* `RecordQuery.Yaml.Tokens` — a text that has been turned into tokens up to a cursor.
* `RecordQuery.Yaml.Tokens.step?` — the same with the next token.
* `RecordQuery.Yaml.tokens?` — the tokens of a text.
-/

namespace RecordQuery.Yaml

/-- A token. -/
inductive Token where
  | directive (d : Directive)
  | documentStart
  | documentEnd
  | sequenceStart
  | mappingStart
  | blockEnd
  | flowSequenceStart
  | flowSequenceEnd
  | flowMappingStart
  | flowMappingEnd
  | blockEntry
  | flowEntry
  | key
  | value
  | alias (name : String)
  | anchor (name : String) (column : Nat)
  | tag (t : Tag) (column : Nat)
  | scalar (plain : Bool) (text : String)
deriving DecidableEq, Repr

/-- A place where the name of a member may have started. -/
structure Candidate where
  /-- A name may have started here. -/
  possible : Bool := false
  /-- A name must have started here. -/
  required : Bool := false
  /-- The number of tokens before it. -/
  place : Nat := 0
  line : Nat := 0
  column : Nat := 0
  index : Nat := 0

/-- An indentation that was left for another one. -/
structure Indentation where
  /-- The column of the entries, or -1 outside of all blocks. -/
  column : Int
  /-- The indentation after it belongs to a block. -/
  inBlock : Bool

/-- A text that has been turned into tokens up to a cursor. -/
structure Tokens where
  cursor : Cursor
  /-- The tokens, the last one first. -/
  read : List Token := []
  /-- How many tokens there are. -/
  count : Nat := 0
  /-- The places where names may have started: in each pair of brackets or braces that is open, the
  innermost first, and outside of all. -/
  candidates : List Candidate := [{}]
  /-- The name of a member may start here. -/
  nameAllowed : Bool := true
  /-- The column of the entries of the present block, or -1 outside of all blocks. -/
  indent : Int := -1
  /-- The indentations that were left, the last one first. -/
  indents : List Indentation := []
  /-- Where a colon needs no blank behind it, since something in quotes or brackets ends there. -/
  adjacent : Nat := 0
  /-- A mapping in braces, or one without braces that a question mark starts, has been opened. -/
  mappingOpened : Bool := false
  /-- For each open pair of brackets, the innermost first, whether a mapping without braces of one
  member is open in it. -/
  pairs : List Bool := []

namespace Tokens

/-! ## Tokens and candidates -/

/-- How many pairs of brackets or braces are open. -/
def depth (t : Tokens) : Nat := t.candidates.length - 1

/-- Whether a pair of brackets or braces is open. -/
def inFlow (t : Tokens) : Bool := 0 < t.depth

/-- The text with one more token. -/
def push (token : Token) (t : Tokens) : Tokens :=
  { t with read := token :: t.read, count := t.count + 1 }

/-- The text with one more token that `place` tokens come before. -/
def insert (place : Nat) (token : Token) (t : Tokens) : Tokens :=
  let after := t.count - place
  { t with read := t.read.take after ++ token :: t.read.drop after, count := t.count + 1 }

/-- The text with a cursor. -/
def moveTo (k : Cursor) (t : Tokens) : Tokens := { t with cursor := k }

/-- The text, with or without names allowed to start. -/
def allowName (allowed : Bool) (t : Tokens) : Tokens := { t with nameAllowed := allowed }

/-- The innermost candidate. -/
def candidate (t : Tokens) : Candidate := t.candidates.headD {}

/-- The text with another innermost candidate. -/
def setCandidate (c : Candidate) (t : Tokens) : Tokens :=
  { t with candidates := c :: t.candidates.drop 1 }

/-- Notes that a name may start at the cursor, if one is allowed there. At the column of the entries of
a block it must. -/
def noteName (t : Tokens) : Tokens :=
  if t.nameAllowed then
    let k := t.cursor
    let required :=
      !t.inFlow && t.indent = k.column && (t.indents.head?.map (·.inBlock)).getD false
    t.setCandidate ⟨true, required, t.count, k.line, k.column, k.index⟩
  else t

/-- Gives up that a name may have started; there must not have been one. -/
def dropName? (t : Tokens) : Option Tokens :=
  let c := t.candidate
  if c.possible && c.required then none else some (t.setCandidate { c with possible := false })

/-- The greatest length of a name within a line. -/
def nameLimit : Nat := 1024

/-- Gives up names that may have started too far back: outside of brackets and braces, on another line
or too many characters ago. -/
def dropStaleNames? (t : Tokens) : Option Tokens :=
  let k := t.cursor
  let stale (c : Candidate) : Bool :=
    c.possible && !t.inFlow && (c.line < k.line || c.index + nameLimit < k.index)
  if t.candidates.any (fun c => stale c && c.required) then none
  else
    let candidates := t.candidates.map fun c => { c with possible := c.possible && !stale c }
    some { t with candidates := candidates }

/-! ## Indentations -/

/-- Ends the blocks whose entries are indented by more than `column`. -/
def unroll (column : Int) (t : Tokens) : Tokens :=
  if t.inFlow then t else go t.indents t
where
  /-- Ends blocks as long as there are some that are indented by more. -/
  go : List Indentation → Tokens → Tokens
    | [], t => t
    | i :: indents, t =>
      if column < t.indent then
        let t := { t with indent := i.column, indents := indents }
        go indents (if i.inBlock then t.push .blockEnd else t)
      else t

/-- Leaves the indentations that belong to no block. -/
def leaveInner (t : Tokens) : Tokens := go t.indents t
where
  /-- Leaves indentations up to one that belongs to a block. -/
  go : List Indentation → Tokens → Tokens
    | [], t => t
    | i :: indents, t =>
      if i.inBlock then t else go indents { t with indent := i.column, indents := indents }

/-- Starts a block whose entries stand in a column, if that is indented by more; its token comes behind
`place` others. -/
def roll (column : Nat) (place : Nat) (token : Token) (t : Tokens) : Tokens :=
  if t.inFlow then t
  else
    let t := match t.indents with
      | i :: indents =>
        if decide (t.indent ≤ (column : Int)) && !i.inBlock then
          { t with indent := i.column, indents := indents }
        else t
      | [] => t
    if t.indent < (column : Int) then
      { t.insert place token with indent := column, indents := ⟨t.indent, true⟩ :: t.indents }
    else t

/-- Asks for one more column within an entry of a block. -/
def rollInner (t : Tokens) : Tokens :=
  if !t.inFlow && (t.indents.head?.map (·.inBlock)).getD false then
    { t with indent := t.indent + 1, indents := ⟨t.indent, false⟩ :: t.indents }
  else t

/-! ## Documents -/

/-- Ends all blocks, and forbids names up to the next line. -/
def leaveBlocks? (t : Tokens) : Option Tokens :=
  ((t.unroll (-1)).dropName?).map (allowName false)

/-- Reads a directive. -/
def stepDirective? (t : Tokens) : Option Tokens := do
  let t ← t.leaveBlocks?
  let (directive, k) ← readDirective? t.cursor
  return (t.moveTo k).push (.directive directive)

/-- Reads the marker at the start of a document. -/
def stepDocumentStart? (t : Tokens) : Option Tokens :=
  t.leaveBlocks?.map fun t => (t.moveTo (t.cursor.eat 3)).push .documentStart

/-- Reads the marker at the end of a document, behind which there is at most a comment. -/
def stepDocumentEnd? (t : Tokens) : Option Tokens := do
  let t ← t.leaveBlocks?
  let (_, k) ← (t.cursor.eat 3).skipGap? true
  if startsEnd k.rest then return (t.moveTo k).push .documentEnd else failure

/-- Ends the text. -/
def close? (t : Tokens) : Option Tokens :=
  if t.candidates.any (fun c => c.required && c.possible) then none
  else some (t.unroll (-1))

/-! ## Collections within a line -/

/-- The greatest number of pairs of brackets and braces that may be open. -/
def depthLimit : Nat := 255

/-- Reads an opening bracket or brace. -/
def stepFlowStart? (token : Token) (t : Tokens) : Option Tokens := do
  let t := t.noteName.rollInner
  if depthLimit ≤ t.depth then failure
  let (_, k) ← (t.cursor.eat 1).skipGap? true
  let t := { t.moveTo k with candidates := {} :: t.candidates, nameAllowed := true }
  if token = .flowMappingStart then return { t with mappingOpened := true }.push token
  else return { t with pairs := false :: t.pairs }.push token

/-- Ends the mapping without braces in the innermost brackets, if there is one. -/
def endPair (t : Tokens) : Tokens :=
  match t.pairs with
  | true :: pairs => { t with mappingOpened := false, pairs := false :: pairs }.push .flowMappingEnd
  | _ => t

/-- Reads a closing bracket or brace. -/
def stepFlowEnd? (token : Token) (t : Tokens) : Option Tokens := do
  let t ← t.dropName?
  let t := if t.inFlow then { t with candidates := t.candidates.drop 1 } else t
  let t := t.allowName false
  let t := if token = .flowSequenceEnd then { t.endPair with pairs := t.pairs.drop 1 } else t
  let (_, k) ← (t.cursor.eat 1).skipGap? true
  let t := if t.inFlow then { t with adjacent := k.index } else t
  return (t.moveTo k).push token

/-- Reads a comma. -/
def stepFlowEntry? (t : Tokens) : Option Tokens := do
  let t ← t.dropName?
  let t := (t.allowName true).endPair
  let (_, k) ← (t.cursor.eat 1).skipGap? true
  return (t.moveTo k).push .flowEntry

/-! ## Entries -/

/-- Whether the last token is a name or a tag at the start of its line. -/
def afterOuterProperty (t : Tokens) : Bool :=
  match t.read with
  | .anchor _ 0 :: _ => true
  | .tag _ 0 :: _ => true
  | _ => false

/-- Reads a hyphen. -/
def stepBlockEntry? (t : Tokens) : Option Tokens := do
  if t.inFlow || !t.nameAllowed then failure
  if t.cursor.column = 0 && t.afterOuterProperty && decide (-1 < t.indent) then failure
  let column := t.cursor.column
  let t := t.roll column t.count .sequenceStart
  let (gap, k) ← (t.cursor.eat 1).skipGap? true
  if gap.contains '\t' && k.rest.head? = some '-' && startsBlank (k.rest.drop 1) then failure
  let (_, k) ← k.skipGap? false
  let t := t.moveTo k
  let t := if k.rest.head? = some '\n' || startsFlow k.rest then t.rollInner else t
  let t ← t.dropName?
  return (t.allowName true).push .blockEntry

/-- Skips spaces, line ends and comments, and tells whether there were spaces or line ends, and whether
there were line ends. -/
def skipSpaces (seen ended : Bool) : (fuel : Nat) → Cursor → Bool × Bool × Cursor
  | 0, k => (seen, ended, k)
  | fuel + 1, k =>
    match k.rest with
    | ' ' :: _ => skipSpaces true ended fuel (k.pass 1)
    | '\n' :: _ => skipSpaces true true fuel k.endLine
    | '#' :: _ => skipSpaces seen ended fuel k.skipComment
    | _ => (seen, ended, k)

/-- Reads a question mark. -/
def stepKey? (t : Tokens) : Option Tokens := do
  if !t.inFlow && !t.nameAllowed then failure
  let t :=
    if t.inFlow then { t with mappingOpened := true }
    else t.roll t.cursor.column t.count .mappingStart
  let t ← t.dropName?
  let (seen, _, k) := skipSpaces false false (t.cursor.rest.length + 1) (t.cursor.eat 1)
  if !seen ∨ k.rest.head? = some '\t' then failure
  return ((t.allowName !t.inFlow).moveTo k).push .key

/-- Reads what stands between a colon and the value behind it: if a tab comes first, a space has to
come too before a word. -/
def skipColon? (k : Cursor) : Option Cursor :=
  let behind := k.eat 1
  if behind.rest.head? = some '\t' then
    (behind.skipGap? true).bind fun (gap, next) =>
      if gap.contains ' ' || !(next.rest.head?.map isHandleChar).getD false then some next else none
  else some behind

/-- Reads a colon. -/
def stepValue? (t : Tokens) : Option Tokens := do
  let c := t.candidate
  let line := t.cursor.line
  let column := t.cursor.column
  let inPair := !t.pairs.isEmpty && !t.mappingOpened
  let t := if inPair then { t with pairs := true :: t.pairs.drop 1 } else t
  let t := t.moveTo (← skipColon? t.cursor)
  if c.possible then
    let t := t.insert c.place .key
    if inPair && decide (c.line < line) then failure
    let t := if inPair then t.insert c.place .flowMappingStart else t
    let t := (t.roll c.column c.place .mappingStart).rollInner
    return ((t.setCandidate { c with possible := false }).allowName false).push .value
  else
    let t := if inPair then t.push .flowMappingStart else t
    if !t.inFlow && !t.nameAllowed then failure
    let t := (if t.inFlow then t else t.roll column t.count .mappingStart).rollInner
    return (t.allowName !t.inFlow).push .value

/-! ## Scalars and what stands before them -/

/-- Reads a name for a value, or a value by its name. -/
def stepAnchor? (isAlias : Bool) (t : Tokens) : Option Tokens :=
  let t := t.noteName.allowName false
  let (name, k) := (t.cursor.eat 1).takeWhile fun c =>
    !(isGap c || c = '\n' || isFlow c || c = '\ufeff')
  let name' := String.ofList name
  if name = [] then none
  else some ((t.moveTo k).push
    (if isAlias then .alias name' else .anchor name' t.cursor.column))

/-- Reads a tag. -/
def stepTag? (t : Tokens) : Option Tokens :=
  let t := t.noteName.allowName false
  (readTag? t.inFlow t.cursor).map fun (tag, k) => (t.moveTo k).push (.tag tag t.cursor.column)

/-- Reads a block of lines. -/
def stepBlock? (t : Tokens) : Option Tokens :=
  let t := (t.noteName.allowName true).leaveInner
  (readBlock? t.indent t.cursor).map fun (cs, k) =>
    (t.moveTo k).push (.scalar false (String.ofList cs))

/-- The column that tabs must not stand before, if a block is open. -/
def tabLimit (t : Tokens) : Option Int := if t.indents.isEmpty then none else some t.indent

/-- Skips blanks, line ends and comments. Behind a line end a name may start, if no brackets or braces
are open. -/
def skipBlank? (t : Tokens) : Option Tokens :=
  (t.cursor.skipBlank? t.tabLimit).map fun (ended, k) =>
    { t with cursor := k, nameAllowed := t.nameAllowed || (ended && !t.inFlow) }

/-- Reads a scalar in quotes. -/
def stepQuoted? (t : Tokens) : Option Tokens := do
  let t := t.noteName.allowName false
  let (cs, k) ← readQuoted? t.inFlow t.indent t.cursor
  let t ← (t.moveTo k).skipBlank?
  return { t with adjacent := t.cursor.index }.push (.scalar false (String.ofList cs))

/-- Reads a plain scalar. Behind a line end a name may start. -/
def stepPlain? (t : Tokens) : Option Tokens := do
  let t := (t.noteName.allowName false).leaveInner
  let least := t.indent + 1
  if t.inFlow && decide (t.cursor.column < least) then failure
  let (cs, k) ← readPlain? t.inFlow least t.cursor
  return ((t.moveTo k).allowName k.fresh).push (.scalar true (String.ofList cs))

/-! ## All tokens -/

/-- Whether a colon at the cursor is the sign of a value. -/
def atColon (t : Tokens) (behind : List Char) : Bool :=
  startsBlank behind ||
    (t.inFlow && (startsFlow behind || t.cursor.index = t.adjacent))

/-- The text with the token that starts at the cursor with `c`. -/
def stepAt? (c : Char) (behind : List Char) (t : Tokens) : Option Tokens :=
  match c with
  | '[' => t.stepFlowStart? .flowSequenceStart
  | '\x7b' => t.stepFlowStart? .flowMappingStart
  | ']' => t.stepFlowEnd? .flowSequenceEnd
  | '\x7d' => t.stepFlowEnd? .flowMappingEnd
  | ',' => t.stepFlowEntry?
  | '-' => if startsBlank behind then t.stepBlockEntry? else t.stepPlain?
  | '?' => if startsBlank behind then t.stepKey? else t.stepPlain?
  | ':' => if t.atColon behind then t.stepValue? else t.stepPlain?
  | '*' => t.stepAnchor? true
  | '&' => t.stepAnchor? false
  | '!' => t.stepTag?
  | '|' => if t.inFlow then t.stepPlain? else t.stepBlock?
  | '>' => if t.inFlow then t.stepPlain? else t.stepBlock?
  | '\'' => t.stepQuoted?
  | '"' => t.stepQuoted?
  | '%' => none
  | '@' => none
  | '\x60' => none
  | _ => t.stepPlain?

/-- The text with the next token; at its end with the ends of all blocks. -/
def step? (t : Tokens) : Option Tokens := do
  let t ← (← t.skipBlank?).dropStaleNames?
  let k := t.cursor
  let t := t.unroll k.column
  match k.rest with
  | [] => t.close?
  | c :: behind =>
    if k.column = 0 && c = '%' then t.stepDirective?
    else if k.atMarker "---" then t.stepDocumentStart?
    else if k.atMarker "..." then t.stepDocumentEnd?
    else if decide (k.column < t.indent) then failure
    else t.stepAt? c behind

/-- Reads tokens up to the end of the text. -/
def all? : (fuel : Nat) → Tokens → Option (List Token)
  | 0, t => if t.cursor.rest.isEmpty then some t.read.reverse else none
  | fuel + 1, t =>
    (t.step?).bind fun u =>
      if t.cursor.rest.isEmpty then some u.read.reverse else all? fuel u

end Tokens

/-- The tokens of a text. -/
def tokens? (text : String) : Option (List Token) :=
  let cs := normalizeLines text.toList
  Tokens.all? (cs.length + 2) { cursor := { rest := cs } }

end RecordQuery.Yaml
