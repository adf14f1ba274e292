import RecordQuery.Json.Basic
import RecordQuery.Json.Fault
import RecordQuery.Number.Reading

set_option autoImplicit false

/-!
# Reading JSON

Reading a value from JSON text, with the place of the first fault. Of several members of one name
the last stays. Values nest at most 127 deep.

Numbers with a point, an exponent or more than 64 bits are read as their leading digits, as many as
fit 64 bits, times a power of ten; both are rounded, and so is the product. So the number is close
to the decimal, but not always the nearest.

## Main definitions

* `RecordQuery.Json.Cursor` — the text ahead and the place reached.
* `RecordQuery.Json.readValue` — a value at the cursor.
* `RecordQuery.Json.read` — the value that a whole text is.
* `RecordQuery.Json.readList` — the items of the array that a whole text is.
-/

namespace RecordQuery.Json

/-! ## The cursor -/

/-- The text that is still to be read, and the line and column reached. -/
structure Cursor where
  rest : List Char
  line : Nat
  column : Nat
deriving Repr

/-- The cursor at the start of a text. -/
def Cursor.start (text : List Char) : Cursor := ⟨text, 1, 0⟩

namespace Cursor

/-- The place behind a character. -/
def past (line column : Nat) (c : Char) : Nat × Nat :=
  if c = '\n' then (line + 1, 0) else (line, column + c.utf8Size)

/-- The cursor behind the next character. -/
def next (k : Cursor) : Cursor :=
  match k.rest with
  | [] => k
  | c :: rest => let (line, column) := past k.line k.column c; ⟨rest, line, column⟩

/-- The cursor behind the next `n` characters. -/
def skip : Nat → Cursor → Cursor
  | 0, k => k
  | n + 1, k => skip n k.next

/-- A fault at the place reached. -/
def here (k : Cursor) (cause : Cause) : Fault := ⟨cause, k.line, k.column⟩

/-- A fault of the next byte, or at the end of the text if there is none. -/
def ahead (k : Cursor) (cause : Cause) : Fault :=
  match k.rest with
  | [] => k.here cause
  | c :: _ => if c = '\n' then ⟨cause, k.line + 1, 0⟩ else ⟨cause, k.line, k.column + 1⟩

/-- Whether a character may stand between the parts of a value. -/
def isSpace (c : Char) : Bool := c = ' ' || c = '\n' || c = '\t' || c = '\r'

/-- The cursor behind white space. -/
def skipSpace (k : Cursor) : Cursor := skip (k.rest.takeWhile isSpace).length k

end Cursor

/-! ## Words and numbers -/

/-- Reads the rest of a word. -/
def readWord : List Char → Cursor → Except Fault Cursor
  | [], k => .ok k
  | c :: cs, k =>
    match k.rest with
    | [] => .error (k.here .endInValue)
    | d :: _ => if c = d then readWord cs k.next else .error (k.ahead .expectedWord)

/-- Extends a number by the digits ahead while it does not exceed `limit`. -/
def takeDigits (limit : Nat) : Nat → List Char → Nat × List Char
  | n, [] => (n, [])
  | n, c :: cs =>
    let m := 10 * n + (c.toNat - '0'.toNat)
    if isDigit c ∧ m ≤ limit then takeDigits limit m cs else (n, c :: cs)

/-- The largest whole number of 64 bits. -/
def maxWhole : Nat := 0xFFFFFFFFFFFFFFFF

/-- The largest exponent that is read digit by digit. -/
def maxExponent : Nat := 0x7FFFFFFF

/-- The largest power of ten that is a finite number. -/
def maxTen : Nat := 308

/-- A magnitude times a power of ten, in steps that are finite numbers; none if it is too large. -/
def scaleByTen (m : Magnitude) (exponent : Int) : Option Magnitude :=
  if exponent.natAbs ≤ maxTen then
    let ten := Magnitude.ofDecimal 1 exponent.natAbs
    if 0 ≤ exponent then
      let product := m.mul ten
      if product.isInfinite then none else some product
    else some (m.div ten)
  else if m.rank = 0 then some m
  else if 0 ≤ exponent then none
  else scaleByTen (m.div (Magnitude.ofDecimal 1 maxTen)) (exponent + maxTen)
termination_by exponent.natAbs
decreasing_by simp only [maxTen] at *; omega

/-- The number of the digits `digits` and a power of ten; `k` is the cursor behind it. -/
def finishNumber (negative : Bool) (digits : Nat) (exponent : Int) (k : Cursor) :
    Except Fault (Json × Cursor) :=
  match scaleByTen (Magnitude.nearest digits 1) exponent with
  | some m => .ok (.decimal (.real negative m), k)
  | none => .error (k.here .numberOutOfRange)

/-- Reads an exponent; the cursor is at its letter. -/
def readExponent (negative : Bool) (digits : Nat) (exponent : Int) (k : Cursor) :
    Except Fault (Json × Cursor) :=
  let k := k.next
  let (down, k) := match k.rest with
    | '+' :: _ => (false, k.next)
    | '-' :: _ => (true, k.next)
    | _ => (false, k)
  match k.rest with
  | [] => .error (k.here .endInValue)
  | c :: _ =>
    if isDigit c then
      let (n, rest) := takeDigits maxExponent 0 k.rest
      let k := k.skip (k.rest.length - rest.length)
      match rest.takeWhile isDigit with
      | [] => finishNumber negative digits (if down then exponent - n else exponent + n) k
      | more =>
        if digits ≠ 0 ∧ ¬down then .error (k.next.here .numberOutOfRange)
        else .ok (.decimal (.real negative Magnitude.zero), k.skip more.length)
    else .error (k.ahead .invalidNumber)

/-- Reads what may follow the digits before or behind the point: an exponent. -/
def readTail (negative : Bool) (digits : Nat) (exponent : Int) (k : Cursor) :
    Except Fault (Json × Cursor) :=
  match k.rest with
  | 'e' :: _ => readExponent negative digits exponent k
  | 'E' :: _ => readExponent negative digits exponent k
  | _ => finishNumber negative digits exponent k

/-- Reads the digits behind the point; the cursor is at the point. -/
def readFraction (negative : Bool) (digits : Nat) (exponent : Int) (k : Cursor) :
    Except Fault (Json × Cursor) :=
  let k := k.next
  match k.rest with
  | [] => .error (k.here .endInValue)
  | c :: _ =>
    if isDigit c then
      let (n, rest) := takeDigits maxWhole digits k.rest
      let read := k.rest.length - rest.length
      readTail negative n (exponent - read)
        (k.skip (read + (rest.takeWhile isDigit).length))
    else .error (k.ahead .invalidNumber)

/-- A whole number. Below zero 63 bits are kept, and zero itself only with its sign, as a number of
the other kind. -/
def wholeNumber (negative : Bool) (digits : Nat) : Json :=
  if ¬negative then .integer digits
  else if digits = 0 ∨ 0x8000000000000000 < digits then .decimal (.real true (Magnitude.nearest digits 1))
  else .integer (-(digits : Int))

/-- Reads a number behind its sign. -/
def readNumber (negative : Bool) (k : Cursor) : Except Fault (Json × Cursor) :=
  match k.rest with
  | [] => .error (k.here .endInValue)
  | c :: after =>
    if c = '0' ∧ (after.head?.map isDigit).getD false then .error (k.next.ahead .invalidNumber)
    else if isDigit c then
      let (n, rest) := takeDigits maxWhole 0 k.rest
      let extra := (rest.takeWhile isDigit).length
      let k := k.skip (k.rest.length - rest.length + extra)
      match k.rest with
      | '.' :: _ => readFraction negative n extra k
      | 'e' :: _ => readExponent negative n extra k
      | 'E' :: _ => readExponent negative n extra k
      | _ =>
        if extra = 0 then .ok (wholeNumber negative n, k) else finishNumber negative n extra k
    else .error (k.ahead .invalidNumber)

/-! ## Strings -/

/-- The place behind the next `n` bytes of a text; the last character may be entered in part. -/
def placeAfter (line column : Nat) : (n : Nat) → List Char → Nat × Nat
  | _, [] => (line, column)
  | n, c :: rest =>
    if n < c.utf8Size then (line, column + n)
    else
      let (line, column) := Cursor.past line column c
      placeAfter line column (n - c.utf8Size) rest

/-- A fault behind the next `n` bytes. -/
def Cursor.afterBytes (k : Cursor) (n : Nat) (cause : Cause) : Fault :=
  let (line, column) := placeAfter k.line k.column n k.rest
  ⟨cause, line, column⟩

/-- Reads four hexadecimal digits. Fewer than four bytes mean that the text ends here. -/
def readHex (k : Cursor) : Except Fault (Nat × Cursor) :=
  let bytes := (k.rest.take 4).foldl (fun n c => n + c.utf8Size) 0
  if bytes < 4 then .error ((k.skip k.rest.length).here .endInString)
  else match (k.rest.take 4).mapM hexDigit? with
    | some [a, b, c, d] => .ok (((a * 16 + b) * 16 + c) * 16 + d, k.skip 4)
    | _ => .error (k.afterBytes 4 .invalidEscape)

/-- Reads the character that four hexadecimal digits stand for, or two times four for a character
beyond the first 65536. -/
def readUnicode (k : Cursor) : Except Fault (Char × Cursor) := do
  let (n, k) ← readHex k
  if 0xDC00 ≤ n ∧ n ≤ 0xDFFF then throw (k.here .loneSurrogate)
  if n < 0xD800 ∨ 0xDBFF < n then return (Char.ofNat n, k)
  match k.rest with
  | [] => throw (k.here .endInString)
  | '\\' :: after =>
    match after with
    | [] => throw (k.next.here .endInString)
    | 'u' :: _ =>
      let (m, k) ← readHex (k.skip 2)
      if m < 0xDC00 ∨ 0xDFFF < m then throw (k.here .loneSurrogate)
      return (Char.ofNat ((n - 0xD800) * 0x400 + (m - 0xDC00) + 0x10000), k)
    | _ => throw (k.next.ahead .unexpectedEscapeEnd)
  | _ => throw (k.ahead .unexpectedEscapeEnd)

/-- Reads what follows a backslash. -/
def readEscape (k : Cursor) : Except Fault (Char × Cursor) :=
  match k.rest with
  | [] => .error (k.here .endInString)
  | c :: _ =>
    match c with
    | '"' => .ok ('"', k.next)
    | '\\' => .ok ('\\', k.next)
    | '/' => .ok ('/', k.next)
    | 'b' => .ok ('\x08', k.next)
    | 'f' => .ok ('\x0c', k.next)
    | 'n' => .ok ('\n', k.next)
    | 'r' => .ok ('\r', k.next)
    | 't' => .ok ('\t', k.next)
    | 'u' => readUnicode k.next
    | _ => .error (k.ahead .invalidEscape)

theorem Cursor.length_next {k : Cursor} {c : Char} {rest : List Char} (h : k.rest = c :: rest) :
    k.next.rest.length < k.rest.length := by
  simp [Cursor.next, h]

/-- Reads the characters of a string up to its closing quote; `read` holds those behind the cursor,
the last one first. -/
def readString (read : List Char) (k : Cursor) : Except Fault (String × Cursor) :=
  match _h : k.rest with
  | [] => .error (k.here .endInString)
  | c :: _ =>
    if c = '"' then .ok (String.ofList read.reverse, k.next)
    else if c = '\\' then
      match readEscape k.next with
      | .error fault => .error fault
      | .ok (d, behind) =>
        if behind.rest.length < k.rest.length then readString (d :: read) behind
        else .error (k.ahead .invalidEscape)
    else if c.toNat < 0x20 then .error (k.ahead .controlCharacter)
    else readString (c :: read) k.next
termination_by k.rest.length
decreasing_by
  · assumption
  · exact Cursor.length_next _h

/-! ## Values -/

/-- What stands at the cursor inside an array or object: one more entry, or the end. -/
inductive Entry where
  | another (k : Cursor)
  | finished (k : Cursor)

/-- Looks for the next item of an array. `first` says that none has been read. -/
def nextItem (first : Bool) (k : Cursor) : Except Fault Entry :=
  let k := k.skipSpace
  match k.rest with
  | [] => .error (k.here .endInList)
  | ']' :: _ => .ok (.finished k.next)
  | c :: _ =>
    if first then .ok (.another k)
    else if c = ',' then
      let k := k.next.skipSpace
      match k.rest with
      | [] => .error (k.here .endInValue)
      | ']' :: _ => .error (k.ahead .trailingComma)
      | _ => .ok (.another k)
    else .error (k.ahead .expectedListEnd)

/-- Looks for the next member of an object, whose name must come next. -/
def nextMember (first : Bool) (k : Cursor) : Except Fault Entry :=
  let k := k.skipSpace
  match k.rest with
  | [] => .error (k.here .endInObject)
  | '\x7d' :: _ => .ok (.finished k.next)
  | c :: _ =>
    if first then
      if c = '"' then .ok (.another k.next) else .error (k.ahead .keyNotString)
    else if c = ',' then
      let k := k.next.skipSpace
      match k.rest with
      | [] => .error (k.here .endInValue)
      | '"' :: _ => .ok (.another k.next)
      | '\x7d' :: _ => .error (k.ahead .trailingComma)
      | _ => .error (k.ahead .keyNotString)
    else .error (k.ahead .expectedObjectEnd)

/-- Reads the items of an array up to its closing bracket, each by `value`. `read` holds the items
before the cursor, the last one first. -/
def readItems (value : Cursor → Except Fault (Json × Cursor)) (first : Bool) (read : List Json)
    (k : Cursor) : Except Fault (List Json × Cursor) :=
  match nextItem first k with
  | .error fault => .error fault
  | .ok (.finished k) => .ok (read.reverse, k)
  | .ok (.another start) =>
    match value start with
    | .error fault => .error fault
    | .ok (v, behind) =>
      if behind.rest.length < k.rest.length then readItems value false (v :: read) behind
      else .error (k.ahead .expectedValue)
termination_by k.rest.length

/-- Reads the colon between a name and its value. -/
def readColon (k : Cursor) : Except Fault Cursor :=
  let k := k.skipSpace
  match k.rest with
  | [] => .error (k.here .endInObject)
  | ':' :: _ => .ok k.next
  | _ => .error (k.ahead .expectedColon)

/-- Reads a name, the colon and a value read by `value`; the cursor is behind the opening quote. -/
def readMember (value : Cursor → Except Fault (Json × Cursor)) (k : Cursor) :
    Except Fault ((String × Json) × Cursor) := do
  let (name, k) ← readString [] k
  let k ← readColon k
  let (v, k) ← value k
  return ((name, v), k)

/-- Reads the members of an object up to its closing brace, each value by `value`. -/
def readMembers (value : Cursor → Except Fault (Json × Cursor)) (first : Bool)
    (read : Entries Json) (k : Cursor) : Except Fault (Entries Json × Cursor) :=
  match nextMember first k with
  | .error fault => .error fault
  | .ok (.finished k) => .ok (read, k)
  | .ok (.another start) =>
    match readMember value start with
    | .error fault => .error fault
    | .ok ((name, v), behind) =>
      if behind.rest.length < k.rest.length then
        readMembers value false (Entries.insert name v read) behind
      else .error (k.ahead .expectedValue)
termination_by k.rest.length

/-- How deep values nest, the outermost counted. -/
def maxDepth : Nat := 127

/-- Reads a value after white space; arrays and objects in it nest at most `depth` deep. -/
def readValue (depth : Nat) (k : Cursor) : Except Fault (Json × Cursor) :=
  let k := k.skipSpace
  match k.rest with
  | [] => .error (k.here .endInValue)
  | c :: _ =>
    if c = 'n' then (readWord "ull".toList k.next).map fun k => (.null, k)
    else if c = 't' then (readWord "rue".toList k.next).map fun k => (.bool true, k)
    else if c = 'f' then (readWord "alse".toList k.next).map fun k => (.bool false, k)
    else if c = '-' then readNumber true k.next
    else if isDigit c then readNumber false k
    else if c = '"' then (readString [] k.next).map fun (s, k) => (.string s, k)
    else if c = '[' then
      match depth with
      | 0 => .error (k.ahead .tooDeep)
      | depth + 1 => (readItems (readValue depth) true [] k.next).map fun (l, k) => (.array l, k)
    else if c = '\x7b' then
      match depth with
      | 0 => .error (k.ahead .tooDeep)
      | depth + 1 =>
        (readMembers (readValue depth) true [] k.next).map fun (l, k) => (.object l, k)
    else .error (k.ahead .expectedValue)

/-- Checks that only white space follows. -/
def readEnd (k : Cursor) : Except Fault Unit :=
  let k := k.skipSpace
  match k.rest with
  | [] => .ok ()
  | _ => .error (k.ahead .trailingCharacters)

/-- The value that a whole text is. -/
def read (text : List Char) : Except Fault Json := do
  let (v, k) ← readValue maxDepth (Cursor.start text)
  readEnd k
  return v

/-- The items of the array that a whole text is. -/
def readList (text : List Char) : Except Fault (List Json) := do
  let k := (Cursor.start text).skipSpace
  match k.rest with
  | [] => throw (k.here .endInValue)
  | '[' :: _ =>
    let (items, k) ← readItems (readValue (maxDepth - 1)) true [] k.next
    readEnd k
    return items
  | _ => throw (k.ahead .expectedValue)

end RecordQuery.Json
