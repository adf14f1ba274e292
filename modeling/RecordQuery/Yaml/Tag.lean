import RecordQuery.Number.Whole
import RecordQuery.Yaml.Cursor

set_option autoImplicit false

/-!
# Tags and directives of YAML

A tag says what a value is. It has a handle, which stands for a prefix, and a suffix. Directives come
before a document, each on a line of its own, and give prefixes to handles.

## Main definitions

* `RecordQuery.Yaml.Tag` — a handle and a suffix.
* `RecordQuery.Yaml.readTag?` — a tag before a value.
* `RecordQuery.Yaml.Directive` — what a directive says.
* `RecordQuery.Yaml.readDirective?` — a directive.
-/

namespace RecordQuery.Yaml

/-- A handle, or what it stands for, and a suffix. -/
structure Tag where
  handle : String
  suffix : String
deriving DecidableEq, Repr

/-! ## Parts of tags -/

/-- Whether a character may stand in a handle. -/
def isHandleChar (c : Char) : Bool := c.isAlphanum || c = '_' || c = '-'

/-- Whether a character may stand in an address; those that are escaped start with a percent sign. -/
def isAddressChar (c : Char) : Bool :=
  c.isAlphanum || "-#;/?:@&=+$,_.!~*'()[]%".toList.contains c

/-- Whether a character may stand in a suffix. -/
def isSuffixChar (c : Char) : Bool := isAddressChar c && !isFlow c && c ≠ '!'

/-- The number of bytes of a character whose first byte is this. -/
def utf8Length? (byte : Nat) : Option Nat :=
  if byte < 0x80 then some 1
  else if byte < 0xC0 then none
  else if byte < 0xE0 then some 2
  else if byte < 0xF0 then some 3
  else if byte < 0xF8 then some 4
  else none

/-- Reads an escaped byte: a percent sign and two digits. -/
def readByte? (k : Cursor) : Option (Nat × Cursor) :=
  match k.rest with
  | '%' :: a :: b :: _ => (digitsValueIn? 16 [a, b]).map (·, k.eat 3)
  | _ => none

/-- Reads the last `n` bytes of a character, of which those before have the value `code`. -/
def readTail? : (n : Nat) → (code : Nat) → Cursor → Option (Nat × Cursor)
  | 0, code, k => some (code, k)
  | n + 1, code, k =>
    (readByte? k).bind fun (byte, k) =>
      if byte / 64 = 2 then readTail? n (64 * code + byte % 64) k else none

/-- Reads a character whose bytes are escaped. -/
def readEscaped? (k : Cursor) : Option (Char × Cursor) := do
  let (byte, k) ← readByte? k
  let n ← utf8Length? byte
  let first := if n = 1 then byte else byte % (1 <<< (7 - n))
  let (code, k) ← readTail? (n - 1) first k
  if code.isValidChar then return (Char.ofNat code, k) else failure

/-- Reads characters that `p` holds for, some of them escaped. -/
def readAddress? (p : Char → Bool) : (fuel : Nat) → Cursor → Option (List Char × Cursor)
  | 0, k => some ([], k)
  | fuel + 1, k =>
    match k.rest with
    | [] => some ([], k)
    | c :: _ =>
      if !p c then some ([], k)
      else do
        let (c, behind) ← if c = '%' then readEscaped? k else some (c, k.eat 1)
        let (cs, behind) ← readAddress? p fuel behind
        return (c :: cs, behind)

/-- Reads characters that `p` holds for, some of them escaped, up to one that it does not hold for. -/
def takeAddress? (p : Char → Bool) (k : Cursor) : Option (List Char × Cursor) :=
  readAddress? p (k.rest.length + 1) k

/-- Reads a handle: an exclamation mark and a word, and one more mark if it is there. -/
def readHandle? (k : Cursor) : Option (List Char × Cursor) :=
  if k.rest.head? = some '!' then
    let (word, behind) := (k.eat 1).takeWhile isHandleChar
    if behind.rest.head? = some '!' then some ('!' :: word ++ ['!'], behind.eat 1)
    else some ('!' :: word, behind)
  else none

/-! ## Tags -/

/-- Reads a tag; the cursor is at its exclamation mark. An address in angle brackets is a suffix without
a handle, and so is the mark alone. -/
def readTag? (inFlow : Bool) (k : Cursor) : Option (Tag × Cursor) := do
  let (tag, behind) ←
    if (k.rest.drop 1).head? = some '<' then
      let (address, behind) ← takeAddress? isAddressChar (k.eat 2)
      if behind.rest.head? ≠ some '>' then failure
      pure (Tag.mk "" (String.ofList address), behind.eat 1)
    else
      let (handle, behind) ← readHandle? k
      let whole := 2 ≤ handle.length && handle.getLast? = some '!'
      let (suffix, behind) ← takeAddress? isSuffixChar behind
      if whole then
        if suffix = [] then failure
        pure (Tag.mk (String.ofList handle) (String.ofList suffix), behind)
      else
        let suffix := handle.drop 1 ++ suffix
        pure (if suffix = [] then Tag.mk "" "!" else Tag.mk "!" (String.ofList suffix), behind)
  if startsBlank behind.rest || (inFlow && startsFlow behind.rest) then return (tag, behind)
  else failure

/-! ## Directives -/

/-- What a directive says. -/
inductive Directive where
  /-- The version of the language is given. -/
  | version
  /-- A handle stands for a prefix. -/
  | handle (name replacement : String)
deriving DecidableEq, Repr

/-- Reads a number of at most nine digits. -/
def readVersionPart? (k : Cursor) : Option Cursor :=
  let (digits, behind) := k.takeWhile isDigit
  if digits = [] ∨ 9 < digits.length then none else some behind

/-- Reads the prefix that a handle stands for. -/
def readPrefix? (k : Cursor) : Option (List Char × Cursor) :=
  match k.rest with
  | [] => none
  | c :: _ =>
    if c = '!' then (takeAddress? isAddressChar (k.eat 1)).map fun (cs, behind) => ('!' :: cs, behind)
    else if isSuffixChar c then takeAddress? isAddressChar k
    else none

/-- The cursor behind blanks. -/
def Cursor.skipGaps (k : Cursor) : Cursor := k.pass (k.rest.takeWhile isGap).length

/-- Reads a directive; the cursor is at its percent sign. One that is not known says nothing. -/
def readDirective? (k : Cursor) : Option (Directive × Cursor) := do
  let (name, behind) := (k.eat 1).takeWhile isHandleChar
  if name = [] ∨ !startsBlank behind.rest then failure
  let (directive, behind) ← match String.ofList name with
    | "YAML" =>
      let behind ← readVersionPart? behind.skipGaps
      if behind.rest.head? ≠ some '.' then failure
      let behind ← readVersionPart? (behind.eat 1)
      pure (Directive.version, behind)
    | "TAG" =>
      let (handle, behind) ← readHandle? behind.skipGaps
      if handle ≠ ['!'] ∧ (handle.length < 2 ∨ handle.getLast? ≠ some '!') then failure
      let (replacement, behind) ← readPrefix? behind.skipGaps
      if !startsBlank behind.rest then failure
      pure (Directive.handle (String.ofList handle) (String.ofList replacement), behind)
    | _ => pure (Directive.handle "" "", behind.skipComment)
  let (_, behind) ← behind.skipGap? true
  if behind.rest.isEmpty then return (directive, behind)
  else if startsEnd behind.rest then return (directive, behind.endLine)
  else failure

end RecordQuery.Yaml
