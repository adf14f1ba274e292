import RecordQuery.Unicode.Case
import RecordQuery.Unicode.Property

set_option autoImplicit false

/-!
# Lower case

A whole text in lower case, by the full mapping of Unicode. Two letters need more than a table:
the dotted capital I becomes two characters, and the capital sigma has a form of its own at the
end of a word.

## Main definitions

* `RecordQuery.Text.isFinalSigma` — whether a capital sigma stands at the end of a word.
* `RecordQuery.Text.lower` — a text in lower case.
-/

namespace RecordQuery.Text

open Unicode

/-- Whether a character has upper and lower case. -/
def isCased (c : Char) : Bool :=
  if c.toNat < 0x80 then c.isAlpha else cased.contains c.toNat

/-- Whether a character is passed over when looking for the letters around a sigma. -/
def isCaseIgnorable (c : Char) : Bool := caseIgnorable.contains c.toNat

/-- Whether the first character that is not passed over has case. -/
def startsCased (cs : List Char) : Bool :=
  match cs.dropWhile isCaseIgnorable with
  | [] => false
  | c :: _ => isCased c

/-- Whether a capital sigma ends a word: a letter with case comes before it and none after it.
`before` is what precedes, nearest character first. -/
def isFinalSigma (before after : List Char) : Bool := startsCased before && !startsCased after

/-- One character in lower case, given what precedes it, nearest first, and what follows it. -/
def lowerAt (before : List Char) (c : Char) (after : List Char) : List Char :=
  if c = 'Σ' then [if isFinalSigma before after then 'ς' else 'σ']
  else if c = 'İ' then ['i', '\u0307']
  else [Char.ofNat (lowerCode c.toNat)]

/-- The characters of a text in lower case, after those of `before`, nearest first. -/
def lowerFrom (before : List Char) : List Char → List Char
  | [] => []
  | c :: after => lowerAt before c after ++ lowerFrom (c :: before) after

/-- A text in lower case. -/
def lower (s : String) : String := String.ofList (lowerFrom [] s.toList)

end RecordQuery.Text
