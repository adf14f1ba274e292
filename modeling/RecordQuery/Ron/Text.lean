import RecordQuery.Number.Whole
import RecordQuery.Ron.Blank

set_option autoImplicit false

/-!
# Texts of RON

A text stands in quotes, with escapes, or behind an `r` without them, and is made of the bytes of its
characters, some of which may be given one by one. A text of bytes has a `b` before it. A single
character stands in single quotes.

## Main definitions

* `RecordQuery.Ron.readEscape?` — what stands behind a backslash.
* `RecordQuery.Ron.readString?`, `RecordQuery.Ron.readBytes?` — a text, and a text of bytes.
* `RecordQuery.Ron.readChar?`, `RecordQuery.Ron.readByte?` — a character, and a byte.
-/

namespace RecordQuery.Ron

/-- A part of a text: a character, or a byte by its value. -/
inductive Piece where
  | char (c : Char)
  | byte (n : UInt8)
deriving DecidableEq, Repr

/-- The bytes of a part of a text. -/
def Piece.bytes : Piece → List UInt8
  | char c => String.utf8EncodeChar c
  | byte n => [n]

/-- The text of parts, if their bytes are one. -/
def textOf? (pieces : List Piece) : Option String :=
  String.fromUTF8? ⟨(pieces.flatMap Piece.bytes).toArray⟩

/-- Reads what stands behind a backslash; `wide` says that characters beyond a byte may be given by
their number. -/
def readEscape? (wide : Bool) : List Char → Option (Piece × List Char)
  | [] => none
  | c :: cs =>
    match c with
    | '\'' => some (.char '\'', cs)
    | '"' => some (.char '"', cs)
    | '\\' => some (.char '\\', cs)
    | 'n' => some (.char '\n', cs)
    | 'r' => some (.char '\r', cs)
    | 't' => some (.char '\t', cs)
    | '0' => some (.char '\x00', cs)
    | 'x' =>
      if cs.length < 2 then none
      else (digitsValueIn? 16 (cs.take 2)).map fun n => (.byte (UInt8.ofNat n), cs.drop 2)
    | 'u' =>
      match cs with
      | '\x7b' :: cs =>
        let digits := cs.takeWhile (· ≠ '\x7d')
        if !wide || digits.isEmpty || 6 < digits.length || digits.length = cs.length then none
        else (charOfHex? digits).map fun c => (.char c, cs.drop (digits.length + 1))
      | _ => none
    | _ => none

/-- The text behind a line end that a backslash precedes: it goes on behind all white space. -/
def afterLineEnd? : List Char → Option (List Char)
  | '\n' :: cs => some (cs.dropWhile isSpace)
  | '\r' :: '\n' :: cs => some (cs.dropWhile isSpace)
  | _ => none

/-- Reads the rest of a text with escapes up to its closing quote; `read` is what came before, the
last part first. -/
def readPieces? (wide : Bool) (read : List Piece) : (fuel : Nat) → List Char →
    Option (List Piece × List Char)
  | 0, _ => none
  | fuel + 1, cs =>
    match cs with
    | [] => none
    | '"' :: rest => some (read.reverse, rest)
    | '\\' :: rest =>
      match afterLineEnd? rest with
      | some after => readPieces? wide read fuel after
      | none => (readEscape? wide rest).bind fun (p, after) => readPieces? wide (p :: read) fuel after
    | c :: rest => readPieces? wide (.char c :: read) fuel rest

/-- Reads the rest of a text without escapes, which ends at a quote and `hashes` number signs. -/
def readRaw? (hashes : Nat) (read : List Piece) : List Char → Option (List Piece × List Char)
  | [] => none
  | c :: cs =>
    if c = '"' ∧ (cs.take hashes).length = hashes ∧ (cs.take hashes).all (· = '#') then
      some (read.reverse, cs.drop hashes)
    else readRaw? hashes (.char c :: read) cs

/-- Reads a text in quotes, or one without escapes that has number signs around its quotes, behind
the letter that says which. -/
def readQuoted? (wide raw : Bool) (cs : List Char) : Option (List Piece × List Char) :=
  let hashes := if raw then (cs.takeWhile (· = '#')).length else 0
  match cs.drop hashes with
  | '"' :: rest => if raw then readRaw? hashes [] rest else readPieces? wide [] cs.length rest
  | _ => none

/-- Reads a text. -/
def readString? (cs : List Char) : Option (String × List Char) :=
  let parts := match cs with
    | 'r' :: rest => readQuoted? true true rest
    | cs => readQuoted? true false cs
  parts.bind fun (pieces, rest) => (textOf? pieces).map (·, rest)

/-- Reads a text of bytes, and has them as a text if they are one. -/
def readBytes? (cs : List Char) : Option (Option String × List Char) :=
  let parts := match cs with
    | 'b' :: 'r' :: rest => readQuoted? false true rest
    | 'b' :: rest => readQuoted? false false rest
    | _ => none
  parts.map fun (pieces, rest) => (textOf? pieces, rest)

/-- Reads the rest of a character behind its opening quote. A byte is the character with its value. -/
def readChar? (cs : List Char) : Option (Char × List Char) :=
  match cs with
  | '\\' :: rest =>
    match readEscape? true rest with
    | some (.char c, '\'' :: rest) => some (c, rest)
    | some (.byte n, '\'' :: rest) => some (Char.ofNat n.toNat, rest)
    | _ => none
  | c :: '\'' :: rest => some (c, rest)
  | _ => none

/-- Reads the rest of a byte behind its opening quote: a character of ASCII or an escape. -/
def readByte? (cs : List Char) : Option (Nat × List Char) :=
  match cs with
  | '\\' :: rest =>
    match readEscape? false rest with
    | some (.char c, '\'' :: rest) => some (c.toNat, rest)
    | some (.byte n, '\'' :: rest) => some (n.toNat, rest)
    | _ => none
  | c :: '\'' :: rest => if c.toNat < 0x80 then some (c.toNat, rest) else none
  | _ => none

end RecordQuery.Ron
