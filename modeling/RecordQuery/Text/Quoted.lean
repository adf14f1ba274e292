import RecordQuery.Unicode.Property

set_option autoImplicit false

/-!
# Quoted texts

How a text is quoted in a message: between double quotes, with escapes for quotes, backslashes
and every character that does not show by itself.

## Main definitions

* `RecordQuery.Text.quote` — a text in double quotes.
* `RecordQuery.Text.quotePath` — the name of a file in double quotes, where an apostrophe is
  escaped as well.
-/

namespace RecordQuery.Text

open Unicode

/-- Whether a character shows as itself: it has a glyph or is a blank, and does not combine with
what stands before it. -/
def showsAsItself (c : Char) : Bool :=
  if c.toNat < 0x7F then 0x20 ≤ c.toNat
  else !(invisible.contains c.toNat) && !(graphemeExtend.contains c.toNat)

/-- Digits of a number in lower-case hexadecimal. -/
def hexText (n : Nat) : List Char := Nat.toDigits 16 n

/-- A character inside double quotes; `apostrophe` says whether an apostrophe is escaped. -/
def escape (apostrophe : Bool) (c : Char) : List Char :=
  if c = '\x00' then ['\\', '0']
  else if c = '\t' then ['\\', 't']
  else if c = '\r' then ['\\', 'r']
  else if c = '\n' then ['\\', 'n']
  else if c = '"' ∨ c = '\\' ∨ (c = '\'' ∧ apostrophe) then ['\\', c]
  else if showsAsItself c then [c]
  else ['\\', 'u', '\x7b'] ++ hexText c.toNat ++ ['\x7d']

/-- A text in double quotes. -/
def quote (s : String) : String :=
  String.ofList (['"'] ++ s.toList.flatMap (escape false) ++ ['"'])

/-- The name of a file in double quotes. -/
def quotePath (s : String) : String :=
  String.ofList (['"'] ++ s.toList.flatMap (escape true) ++ ['"'])

end RecordQuery.Text
