import RecordQuery.Unicode.Case
import RecordQuery.Unicode.Table.Age
import RecordQuery.Unicode.Table.Binary
import RecordQuery.Unicode.Table.Category
import RecordQuery.Unicode.Table.Script
import RecordQuery.Unicode.Table.ScriptExtension
import RecordQuery.Unicode.Table.Segmentation

set_option autoImplicit false

/-!
# Character properties

The sets of code points that the tables name, together with those that follow from them.

## Main definitions

* `RecordQuery.Unicode.categoryCodes` — the members of some general categories.
* `RecordQuery.Unicode.binaryCodes` — the code points with a binary property.
* `RecordQuery.Unicode.wordCodes`, `RecordQuery.Unicode.digitCodes`,
  `RecordQuery.Unicode.blankCodes` — the three classes with a letter of their own in patterns.
-/

namespace RecordQuery.Unicode

/-! ## General categories -/

/-- The members of some categories, given by short names. -/
def categoryCodes (shorts : List String) : CodeSet :=
  CodeSet.unions ((Table.categories.filter fun s => shorts.contains s.short).map (·.codes))

/-- The surrogates, which no text holds. -/
def surrogates : CodeSet := CodeSet.range 0xD800 0xDFFF

/-- The code points that stand for a character. -/
def assigned : CodeSet := CodeSet.unions (Table.categories.map (·.codes))

/-- The code points that stand for no character. -/
def unassigned : CodeSet := (assigned.union surrogates).complement

/-- A group of categories under one name. -/
structure CategoryGroup where
  name : String
  short : String
  members : List String

/-- The groups of categories. -/
def categoryGroups : List CategoryGroup := [
  ⟨"Cased_Letter", "LC", ["Lu", "Ll", "Lt"]⟩,
  ⟨"Letter", "L", ["Lu", "Ll", "Lt", "Lm", "Lo"]⟩,
  ⟨"Mark", "M", ["Mn", "Mc", "Me"]⟩,
  ⟨"Number", "N", ["Nd", "Nl", "No"]⟩,
  ⟨"Punctuation", "P", ["Pc", "Pd", "Ps", "Pe", "Pi", "Pf", "Po"]⟩,
  ⟨"Symbol", "S", ["Sm", "Sc", "Sk", "So"]⟩,
  ⟨"Separator", "Z", ["Zs", "Zl", "Zp"]⟩]

/-- The code points that are neither letters, marks, numbers, punctuation, symbols nor separators. -/
def otherCodes : CodeSet :=
  CodeSet.unions [categoryCodes ["Cc", "Cf", "Co"], surrogates, unassigned]

/-! ## Binary properties -/

/-- The code points with a property that has a table. -/
def binaryCodes (name : String) : CodeSet := codesNamed Table.binaryProperties name

/-- The characters that are passed over when looking for letters with case. -/
def caseIgnorable : CodeSet := binaryCodes "Case_Ignorable"

/-- The characters with upper and lower case. -/
def cased : CodeSet :=
  CodeSet.unions [binaryCodes "Lowercase", binaryCodes "Uppercase", categoryCodes ["Lt"]]

/-- The characters that combine with the one before them. -/
def graphemeExtend : CodeSet := binaryCodes "Grapheme_Extend"

/-- The code points without a glyph, blanks of every kind but the space included. -/
def invisible : CodeSet :=
  CodeSet.unions [categoryCodes ["Cc", "Cf", "Co", "Zl", "Zp", "Zs"], surrogates, unassigned]

/-- The characters whose lower-case form differs from them. -/
def changesWhenLowered : CodeSet :=
  CodeSet.ofRanges <|
    (0x41, 0x5A) :: (0x130, 0x130) ::
      Table.lowerRuns.flatMap fun r => r.pairs.map fun p => (p.1, p.1)

/-- The code points that can stand alone as what a reader takes for one character. -/
def graphemeBase : CodeSet :=
  (CodeSet.unions [categoryCodes ["Cc", "Cf", "Co", "Zl", "Zp"], surrogates, unassigned,
    graphemeExtend]).complement

/-- The code points that are alphabetic by a list, and not by their category or their case. -/
def otherAlphabetic : CodeSet :=
  (binaryCodes "Alphabetic").diff <|
    CodeSet.unions [categoryCodes ["Lu", "Ll", "Lt", "Lm", "Lo", "Nl"], binaryCodes "Lowercase",
      binaryCodes "Uppercase"]

/-- The syllables of Hangul without a final consonant: every 28th of the block. -/
def openSyllables : CodeSet :=
  ⟨(List.range 399).map fun i => (0xAC00 + 28 * i, 0xAC00 + 28 * i)⟩

/-- The syllables of Hangul with a final consonant. -/
def closedSyllables : CodeSet := (CodeSet.range 0xAC00 0xD7A3).diff openSyllables

/-! ## The classes of patterns -/

/-- The characters of words: letters and what counts as such, marks, digits, connecting
punctuation and the two joiners. -/
def wordCodes : CodeSet :=
  CodeSet.unions [binaryCodes "Alphabetic", categoryCodes ["Mn", "Mc", "Me", "Nd", "Pc"],
    binaryCodes "Join_Control"]

/-- The decimal digits. -/
def digitCodes : CodeSet := categoryCodes ["Nd"]

/-- The letters and what counts as such. -/
def alphabeticCodes : CodeSet := binaryCodes "Alphabetic"

/-- The digits and all other characters for numbers. -/
def numericCodes : CodeSet := categoryCodes ["Nd", "Nl", "No"]

/-- White space. -/
def blankCodes : CodeSet := binaryCodes "White_Space"

end RecordQuery.Unicode
