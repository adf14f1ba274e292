import RecordQuery.Unicode.Property

set_option autoImplicit false

/-!
# Blanks and names of RON

What stands between the parts of a RON text, and the words that name structures and their fields.

## Main definitions

* `RecordQuery.Ron.skip?` — the text behind white space and comments.
* `RecordQuery.Ron.readName?` — a name, which may be marked as one.
* `RecordQuery.Ron.readFieldName?` — a name that may stand before a colon.
-/

namespace RecordQuery.Ron

/-! ## Blanks -/

/-- Whether a character is white space: that of ASCII, the marks of a writing direction, and the ends
of lines. -/
def isSpace (c : Char) : Bool :=
  (0x9 ≤ c.toNat && c.toNat ≤ 0xD) ||
    [' ', '\u0085', '\u200e', '\u200f', '\u2028', '\u2029'].contains c

/-- The text behind a comment, in which `depth + 1` comments are open. -/
def skipLongComment? : (depth : Nat) → List Char → Option (List Char)
  | _, [] => none
  | 0, '*' :: '/' :: cs => some cs
  | depth + 1, '*' :: '/' :: cs => skipLongComment? depth cs
  | depth, '/' :: '*' :: cs => skipLongComment? (depth + 1) cs
  | depth, _ :: cs => skipLongComment? depth cs

/-- The text behind white space and comments. -/
def skipSpace? : (fuel : Nat) → List Char → Option (List Char)
  | 0, cs => some cs
  | fuel + 1, cs =>
    match cs.dropWhile isSpace with
    | '/' :: '/' :: rest => skipSpace? fuel (rest.dropWhile (· ≠ '\n'))
    | '/' :: '*' :: rest => (skipLongComment? 0 rest).bind (skipSpace? fuel)
    | rest => some rest

/-- The text behind white space and comments. -/
def skip? (cs : List Char) : Option (List Char) := skipSpace? (cs.length + 1) cs

/-! ## Names -/

/-- The code points that may start a name, the underscore aside. -/
def nameStartCodes : Unicode.CodeSet := Unicode.binaryCodes "XID_Start"

/-- The code points that may continue a name. -/
def nameCodes : Unicode.CodeSet := Unicode.binaryCodes "XID_Continue"

/-- Whether a character may start a name. -/
def startsName (c : Char) : Bool :=
  c = '_' || if c.toNat < 0x80 then c.isAlpha else nameStartCodes.contains c.toNat

/-- Whether a character may continue a name. -/
def isNameChar (c : Char) : Bool :=
  c = '_' || if c.toNat < 0x80 then c.isAlphanum else nameCodes.contains c.toNat

/-- Whether a character may stand in a name that is marked as one. -/
def isMarkedNameChar (c : Char) : Bool := isNameChar c || c = '.' || c = '+' || c = '-'

/-- Whether a text or a byte starts here, in one of the forms that start with a letter. -/
def startsLiteral (cs : List Char) : Bool :=
  ["b\"", "b'", "br#", "br\"", "r\"", "r#\"", "r##"].any fun mark => mark.toList.isPrefixOf cs

/-- Reads a name: a word, or one behind a mark that may hold points and signs as well. -/
def readName? (cs : List Char) : Option (List Char × List Char) :=
  if startsLiteral cs then none
  else match cs with
    | 'r' :: '#' :: rest =>
      let name := rest.takeWhile isMarkedNameChar
      if name = [] then none else some (name, rest.dropWhile isMarkedNameChar)
    | c :: rest =>
      if startsName c then some (c :: rest.takeWhile isNameChar, rest.dropWhile isNameChar) else none
    | [] => none

/-- Reads a name that may stand before a colon: no point or sign may follow it. -/
def readFieldName? (cs : List Char) : Option (List Char × List Char) :=
  (readName? cs).bind fun (name, rest) =>
    if (rest.head?.map isMarkedNameChar).getD false then none else some (name, rest)

/-- Reads a given word, if it does not go on behind it. -/
def readWord? (word : String) (cs : List Char) : Option (List Char) :=
  let rest := cs.drop word.length
  if word.toList.isPrefixOf cs ∧ !(rest.head?.map isNameChar).getD false then some rest else none

/-- Reads a given text. -/
def readMark? (mark : String) (cs : List Char) : Option (List Char) :=
  if mark.toList.isPrefixOf cs then some (cs.drop mark.length) else none

end RecordQuery.Ron
