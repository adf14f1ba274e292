import RecordQuery.Toml.Scalar
import RecordQuery.Toml.Tree

set_option autoImplicit false

/-!
# Reading TOML

A TOML text has a statement on each line: a name and its value, or the header of a table that the
lines after it belong to. A name is a path through tables.

Each reader takes a number of steps that bounds how deep it goes; the length of the text is enough.

## Main definitions

* `RecordQuery.Toml.readName?` — a name, part by part.
* `RecordQuery.Toml.readValue` — a value.
* `RecordQuery.Toml.Document` — a tree and the table that lines belong to.
* `RecordQuery.Toml.read?` — the members of the table that a text is.
-/

namespace RecordQuery.Toml

/-! ## Blanks and names -/

/-- The text behind spaces and tabs. -/
def skipGap (cs : List Char) : List Char := cs.dropWhile isGap

/-- The text behind blanks and a comment up to the end of the line, or to what stands before it; a
comment may not have control characters. -/
def skipComment? (cs : List Char) : Option (List Char) :=
  match skipGap cs with
  | '#' :: rest =>
    let after := rest.dropWhile (· ≠ '\n')
    if (rest.takeWhile (· ≠ '\n')).all isPlainChar then some after else none
  | rest => some rest

/-- The text behind blanks, comments and line ends. -/
def skipLines? : (fuel : Nat) → List Char → Option (List Char)
  | 0, cs => some cs
  | fuel + 1, cs => do
    match ← skipComment? cs with
    | '\n' :: rest => skipLines? fuel rest
    | rest => return rest

/-- Whether a character may stand in a part of a name that has no quotes. -/
def isNameChar (c : Char) : Bool := c.isAlphanum || c = '_' || c = '-'

/-- Reads a part of a name: a word, or a text in quotes on one line. -/
def readNamePart? (cs : List Char) : Option (String × List Char) :=
  match cs with
  | '"' :: rest => readQuoted? '"' false [] rest
  | '\'' :: rest => readQuoted? '\'' false [] rest
  | _ =>
    let word := cs.takeWhile isNameChar
    if word = [] then none else some (String.ofList word, cs.dropWhile isNameChar)

/-- Reads a name: parts with points between them, and blanks around each part. -/
def readName? : (fuel : Nat) → List Char → Option (List String × List Char)
  | 0, _ => none
  | fuel + 1, cs => do
    let (part, rest) ← readNamePart? (skipGap cs)
    match skipGap rest with
    | '.' :: rest =>
      let (parts, rest) ← readName? fuel rest
      return (part :: parts, rest)
    | rest => return ([part], rest)

/-! ## Values -/

/-- How deep arrays and tables within values may be nested. -/
def depthLimit : Nat := 80

mutual

/-- Reads a value, in which arrays and tables may be nested `depth` deep. -/
def readValue (depth : Nat) : (fuel : Nat) → List Char → Option (Json × List Char)
  | 0, _ => none
  | fuel + 1, cs =>
    match cs with
    | '"' :: _ => (readString? cs).map fun (s, rest) => (.string s, rest)
    | '\'' :: _ => (readString? cs).map fun (s, rest) => (.string s, rest)
    | '[' :: rest =>
      (readItems depth [] fuel rest).map fun (items, rest) => (.array items.reverse, rest)
    | '\x7b' :: rest =>
      (readMembers depth [] fuel rest).map fun (members, rest) => (.object (toPairs members), rest)
    | _ => readWord? cs
termination_by structural fuel => fuel

/-- Reads the items of an array up to the closing bracket; the last one read comes first. -/
def readItems (depth : Nat) (items : List Json) : (fuel : Nat) → List Char →
    Option (List Json × List Char)
  | 0, _ => none
  | fuel + 1, cs => do
    if depth = 0 then failure
    let cs ← skipLines? cs.length cs
    if cs.head? = some ']' then return (items, cs.drop 1)
    let (v, cs) ← readValue (depth - 1) fuel cs
    match ← skipLines? cs.length cs with
    | ',' :: cs => readItems depth (v :: items) fuel cs
    | ']' :: cs => return (v :: items, cs)
    | _ => failure
termination_by structural fuel => fuel

/-- Reads the members of a table within a value up to the closing brace. -/
def readMembers (depth : Nat) (members : Members) : (fuel : Nat) → List Char →
    Option (Members × List Char)
  | 0, _ => none
  | fuel + 1, cs => do
    if depth = 0 then failure
    let cs ← skipLines? cs.length cs
    if cs.head? = some '\x7d' then return (members, cs.drop 1)
    let (members, cs) ← readMember (depth - 1) members fuel cs
    match ← skipLines? cs.length cs with
    | ',' :: cs => readMembers depth members fuel cs
    | '\x7d' :: cs => return (members, cs)
    | _ => failure
termination_by structural fuel => fuel

/-- Reads a name and its value, and puts it among the members of its table. -/
def readMember (depth : Nat) (members : Members) : (fuel : Nat) → List Char →
    Option (Members × List Char)
  | 0, _ => none
  | fuel + 1, cs => do
    let (name, cs) ← readName? cs.length cs
    let cs ← readChar? '=' cs
    let (v, cs) ← readValue depth fuel (skipGap cs)
    let last ← name.getLast?
    return (← add? last v name.dropLast members, cs)
termination_by structural fuel => fuel

end

/-! ## Documents -/

/-- A tree as far as it has been read, and the path to the table that the next lines belong to. -/
structure Document where
  members : Members := []
  path : List String := []

namespace Document

/-- Reads a header: a name in brackets, or in two pairs of them for one more table of an array. -/
def readHeader? (d : Document) (cs : List Char) : Option (Document × List Char) := do
  let (item, cs) := match cs with
    | '[' :: rest => (true, rest)
    | _ => (false, cs)
  let (name, cs) ← readName? cs.length cs
  let cs ← readChar? ']' cs
  let cs ← if item then readChar? ']' cs else some cs
  let last ← name.getLast?
  let enter := if item then openItem? last else openTable? last
  return (⟨← within? enter name.dropLast d.members, name⟩, cs)

/-- Reads a name and its value, which belong to the table of the last header. -/
def readLine? (d : Document) (cs : List Char) : Option (Document × List Char) := do
  let (name, cs) ← readName? cs.length cs
  let cs ← readChar? '=' cs
  let (v, cs) ← readValue depthLimit (2 * cs.length + 2) (skipGap cs)
  let last ← name.getLast?
  return ({ d with members := ← within? (add? last v name.dropLast) d.path d.members }, cs)

/-- Reads the statements of a text. -/
def readLines : (fuel : Nat) → Document → List Char → Option Document
  | 0, d, cs => if cs.isEmpty then some d else none
  | fuel + 1, d, cs => do
    match ← skipLines? cs.length cs with
    | [] => return d
    | c :: rest =>
      let (d, after) ← if c = '[' then d.readHeader? rest else d.readLine? (c :: rest)
      match ← skipComment? after with
      | [] => return d
      | '\n' :: after => readLines fuel d after
      | _ => failure

end Document

/-- The text with a line feed for a carriage return and a line feed. -/
def joinLineEnds : List Char → List Char
  | [] => []
  | '\r' :: '\n' :: cs => '\n' :: joinLineEnds cs
  | c :: cs => c :: joinLineEnds cs

/-- A text without the mark that may start it and tells its encoding. -/
def dropMark : List Char → List Char
  | '\ufeff' :: cs => cs
  | cs => cs

/-- The members of the table that a text is. -/
def read? (text : String) : Option (List (String × Json)) :=
  let cs := joinLineEnds (dropMark text.toList)
  (Document.readLines (cs.length + 1) {} cs).map fun d => toPairs d.members

end RecordQuery.Toml
