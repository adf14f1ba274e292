import RecordQuery.Json.Basic
import RecordQuery.Number.Whole
import RecordQuery.Text.Blank

set_option autoImplicit false

/-!
# Reading INI

An INI text has names and values with an equals sign or a colon between them, and sections of such.
All values are texts. A backslash makes the next character stand for itself, or for a control
character, or joins two lines. A comment is a line of its own, and only a comment at the very start
of its line is one: behind blanks it is part of the next name.

## Main definitions

* `RecordQuery.Ini.Place` — a place in a text.
* `RecordQuery.Ini.takeText` — a text up to a character that ends it.
* `RecordQuery.Ini.read?` — the names and values of a text; a section is an object.
-/

namespace RecordQuery.Ini

/-! ## Places -/

/-- A place in a text: what is ahead, and whether that starts a line. -/
structure Place where
  rest : List Char
  fresh : Bool := true

namespace Place

/-- The place behind the next character. -/
def next (p : Place) : Place :=
  match p.rest with
  | [] => p
  | c :: cs => ⟨cs, c = '\n'⟩

/-- The place with `rest` ahead, behind something else than a line end. -/
def within (rest : List Char) : Place := ⟨rest, false⟩

end Place

/-! ## Texts -/

/-- The character that a letter behind a backslash stands for; other characters stand for
themselves. -/
def escaped (c : Char) : Char :=
  match c with
  | '0' => '\x00'
  | 'a' => '\x07'
  | 'b' => '\x08'
  | 't' => '\t'
  | 'r' => '\r'
  | 'n' => '\n'
  | c => c

/-- Reads the `n` digits behind the next character, and leaves the last of them ahead. If there are
not so many, the place is the one where they end. -/
def readCode : (n : Nat) → Place → Except Place (List Char × Place)
  | 0, p => .ok ([], p)
  | n + 1, p =>
    match p.next.rest with
    | [] => .error p.next
    | '\\' :: '\n' :: _ => (readCode n p.next.next).map fun (cs, q) => ('\\' :: cs, q)
    | '\\' :: _ => .error p.next.next
    | c :: _ => (readCode n p.next).map fun (cs, q) => (c :: cs, q)

/-- The character with a number in hexadecimal, a plus sign before which does not count. -/
def charOfCode? (digits : List Char) : Option Char :=
  match digits with
  | '+' :: digits => charOfHex? digits
  | digits => charOfHex? digits

/-- The text up to the first of the characters in `ends`, which are left, or up to the end of all if
`mayEnd` allows that. If there is no such text, the place is the one where it goes wrong. -/
def takeText (ends : List Char) (mayEnd : Bool) : (fuel : Nat) → Place →
    Except Place (List Char × Place)
  | 0, p => .error p
  | fuel + 1, p =>
    match p.rest with
    | [] => if mayEnd then .ok ([], p) else .error p
    | '\\' :: '\n' :: _ => takeText ends mayEnd fuel p.next.next
    | '\\' :: [] => if mayEnd then .ok (['\\'], p.next) else .error p.next
    | '\\' :: 'x' :: _ => do
      let (digits, last) ← readCode 4 p.next
      match charOfCode? digits with
      | none => throw last
      | some c =>
        let (cs, behind) ← takeText ends mayEnd fuel last.next
        return (c :: cs, behind)
    | '\\' :: c :: _ => do
      let (cs, behind) ← takeText ends mayEnd fuel p.next.next
      return (escaped c :: cs, behind)
    | c :: _ =>
      if ends.contains c then .ok ([], p)
      else do
        let (cs, behind) ← takeText ends mayEnd fuel p.next
        return (c :: cs, behind)

/-- The text from a place up to one of the characters in `ends`. -/
def takeUntil (ends : List Char) (p : Place) : Except Place (List Char × Place) :=
  takeText ends false (p.rest.length + 1) p

/-- Whether a character is white space within a line. -/
def isGap (c : Char) : Bool := Text.isBlank c && c ≠ '\n' && c ≠ '\r'

/-- Reads a value up to the end of its line. Parts of it may stand in quotes before the part without
quotes; blanks do not count at its ends, nor at its start if no quotes come `first`. -/
def readValue? (first : Bool) : (fuel : Nat) → Place → Option (List Char × Place)
  | 0, _ => none
  | fuel + 1, p =>
    match p.rest with
    | [] => some ([], p)
    | c :: _ =>
      if c = '"' ∨ c = '\'' then do
        let (part, behind) ← (takeUntil [c] p.next).toOption
        let (more, behind) ← readValue? false fuel behind.next
        return (part ++ more, behind)
      else do
        let (cs, behind) ← (takeText ['\n', '\r'] true (p.rest.length + 1) p).toOption
        return (if first then Text.trim cs else Text.trimEnd cs, behind)

/-! ## Sections -/

/-- The sections so far, each with its members, the present one first; the one without a name comes
before all others. -/
abbrev Sections := List (Option String × List (String × Json))

/-- The sections with one more member in the present one. -/
def addMember (name value : String) : Sections → Sections
  | [] => []
  | (section?, members) :: sections => (section?, members ++ [(name, .string value)]) :: sections

/-- The place behind line ends and white space, where spaces and tabs are left: they start a
name. -/
def skipLineEnds (fresh : Bool) : List Char → Place
  | [] => ⟨[], fresh⟩
  | c :: cs =>
    if c = ' ' ∨ c = '\t' ∨ !Text.isBlank c then ⟨c :: cs, fresh⟩ else skipLineEnds (c = '\n') cs

/-- Reads a name and its value. -/
def readMember? (p : Place) : Option ((String × String) × Place) := do
  let (name, behind) ← (takeUntil ['=', ':'] p).toOption
  if Text.trim name = [] then failure
  let start := Place.within (behind.next.rest.dropWhile isGap)
  let (value, behind) ← readValue? true (start.rest.length + 1) start
  return ((String.ofList (Text.trim name), String.ofList value), behind)

/-- Reads the lines of a text. What starts with a blank and is no name is passed over up to the
place where it goes wrong. -/
def readLines : (fuel : Nat) → Sections → Place → Option Sections
  | 0, _, _ => none
  | fuel + 1, sections, p =>
    let p := skipLineEnds p.fresh p.rest
    match p.rest with
    | [] => some sections
    | c :: rest =>
      if c = ';' ∨ c = '#' then
        if p.fresh then readLines fuel sections ⟨(rest.dropWhile (· ≠ '\n')).drop 1, true⟩ else none
      else if c = '[' then do
        let (name, behind) ← (takeUntil [']'] p.next).toOption
        readLines fuel ((some (String.ofList (Text.trim name)), []) :: sections) behind.next
      else if c = ' ' ∨ c = '\t' then
        match takeUntil ['=', ':'] (.within (p.rest.dropWhile fun d => d = ' ' || d = '\t')) with
        | .error stop => readLines fuel sections stop.next
        | .ok _ => do
          let (member, behind) ← readMember? p
          readLines fuel (addMember member.1 member.2 sections) behind
      else do
        let (member, behind) ← readMember? p
        readLines fuel (addMember member.1 member.2 sections) behind

/-- The names and values of a text. -/
def read? (text : String) : Option (List (String × Json)) :=
  let cs := text.toList
  (readLines (cs.length + 1) [(none, [])] ⟨cs, true⟩).map fun sections =>
    sections.reverse.flatMap fun
      | (none, members) => members
      | (some name, members) => [(name, .object members)]

end RecordQuery.Ini
