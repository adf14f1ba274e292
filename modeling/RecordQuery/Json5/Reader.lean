import RecordQuery.Json.Reader
import RecordQuery.Number.Whole
import RecordQuery.Unicode.Property

set_option autoImplicit false

/-!
# Reading JSON5

JSON5 is JSON with comments, commas behind the last item, names without quotes, texts in single
quotes and more ways to write a number.

Each reader takes a number of steps that bounds how deep it goes; the length of the text is enough.

## Main definitions

* `RecordQuery.Json5.readText?`, `RecordQuery.Json5.readNumber?` — a text in quotes and a number.
* `RecordQuery.Json5.readName?` — the name of a member.
* `RecordQuery.Json5.readValue` — a value.
* `RecordQuery.Json5.read?` — the value of a text.
-/

namespace RecordQuery.Json5

/-! ## Blanks -/

/-- The text behind a comment that ends with a star and a slash. -/
def skipLongComment? : List Char → Option (List Char)
  | [] => none
  | '*' :: '/' :: cs => some cs
  | _ :: cs => skipLongComment? cs

/-- The code points of blanks: the ends of lines, the blanks of ASCII, the mark of an encoding, and
all spaces. -/
def spaceCodes : Unicode.CodeSet :=
  .unions [.range 0x9 0xD, .range 0x2028 0x2029, .single 0xFEFF, Unicode.categoryCodes ["Zs"]]

/-- Whether a character may stand between the parts of a value. -/
def isSpace (c : Char) : Bool := spaceCodes.contains c.toNat

/-- Whether a character ends a line. -/
def endsLine (c : Char) : Bool := c = '\n' || c = '\r' || c = '\u2028' || c = '\u2029'

/-- The text behind white space and comments. -/
def skipSpace? : (fuel : Nat) → List Char → Option (List Char)
  | 0, cs => some cs
  | fuel + 1, cs =>
    match cs.dropWhile isSpace with
    | '/' :: '/' :: rest => skipSpace? fuel (rest.dropWhile fun c => !endsLine c)
    | '/' :: '*' :: rest => (skipLongComment? rest).bind (skipSpace? fuel)
    | rest => some rest

/-- The text behind white space and comments. -/
def skip? (cs : List Char) : Option (List Char) := skipSpace? cs.length cs

/-! ## Texts and names -/

/-- The character that a letter behind a backslash stands for; other characters stand for
themselves. -/
def escaped (c : Char) : Char :=
  match c with
  | 'b' => '\x08'
  | 'f' => '\x0c'
  | 'n' => '\n'
  | 'r' => '\r'
  | 't' => '\t'
  | 'v' => '\x0b'
  | '0' => '\x00'
  | c => c

/-- Reads a character by its number: two digits behind an `x`, four or two times four behind
a `u`. -/
def readByNumber? (letter : Char) (cs : List Char) : Option (Char × List Char) :=
  if letter = 'x' then
    if cs.length < 2 then none else (charOfHex? (cs.take 2)).map (·, cs.drop 2)
  else match Json.readUnicode (Json.Cursor.start cs) with
    | .ok (c, k) => some (c, k.rest)
    | .error _ => none

/-- Reads the rest of a text up to its closing quote; `read` is what came before, the last
character first. A line end behind a backslash is dropped, and of the digits only a zero with no
other digit behind it may follow one. -/
def readText? (quote : Char) (read : List Char) : (fuel : Nat) → List Char →
    Option (String × List Char)
  | 0, _ => none
  | fuel + 1, cs =>
    match cs with
    | [] => none
    | c :: rest =>
      if c = quote then some (String.ofList read.reverse, rest)
      else if c = '\\' then
        match rest with
        | [] => none
        | '\r' :: '\n' :: after => readText? quote read fuel after
        | d :: after =>
          if endsLine d then readText? quote read fuel after
          else if isDigit d ∧ (d ≠ '0' ∨ (after.head?.map isDigit).getD false) then none
          else if d = 'x' ∨ d = 'u' then
            (readByNumber? d after).bind fun (x, after) => readText? quote (x :: read) fuel after
          else readText? quote (escaped d :: read) fuel after
      else if c = '\n' ∨ c = '\r' then none
      else readText? quote (c :: read) fuel rest

/-- The code points that may start a name without quotes, some of ASCII aside. -/
def letterCodes : Unicode.CodeSet := Unicode.categoryCodes ["Lu", "Ll", "Lt", "Lm", "Lo", "Nl"]

/-- The code points that may only continue a name without quotes. -/
def markCodes : Unicode.CodeSet :=
  .unions [Unicode.categoryCodes ["Mn", "Mc", "Nd", "Pc"], .range 0x200C 0x200D]

/-- Whether a character may start a name without quotes. -/
def startsName (c : Char) : Bool :=
  c = '$' || c = '_' || if c.toNat < 0x80 then c.isAlpha else letterCodes.contains c.toNat

/-- Whether a character may stand in a name without quotes. -/
def isNameChar (c : Char) : Bool := startsName c || markCodes.contains c.toNat

/-- Reads a name without quotes as far as it goes; a character of it may be given by its number. `ok`
says which characters may come first. -/
def readPlainName? (ok : Char → Bool) : (fuel : Nat) → List Char → Option (List Char × List Char)
  | 0, _ => none
  | fuel + 1, cs =>
    match cs with
    | '\\' :: 'u' :: rest => do
      let (c, rest) ← readByNumber? 'u' rest
      if ok c then
        let (name, rest) ← readPlainName? isNameChar fuel rest
        return (c :: name, rest)
      else failure
    | [] => some ([], [])
    | c :: rest =>
      if ok c then (readPlainName? isNameChar fuel rest).map fun (name, rest) => (c :: name, rest)
      else some ([], cs)

/-- Reads a name, with or without quotes. -/
def readName? (cs : List Char) : Option (String × List Char) :=
  match cs with
  | [] => none
  | c :: rest =>
    if c = '"' ∨ c = '\'' then readText? c [] cs.length rest
    else (readPlainName? startsName (cs.length + 1) cs).bind fun (name, rest) =>
      if name = [] then none else some (String.ofList name, rest)

/-! ## Values -/

/-- The number that digits are: a whole one if it fits 64 bits with a sign. One that fits 64 bits
only without a sign is none, and one that does not fit them at all is rounded. -/
def ofDigits? (base : Nat) (negative : Bool) (digits : List Char) : Option Json :=
  if digits = [] then none
  else (digitsValueIn? base digits).bind fun n =>
    match ofSigned? negative n with
    | some n => some (.integer n)
    | none =>
      if !negative ∧ n < 0x10000000000000000 then none
      else some (.decimal (Number.ofInt (if negative then -n else n)))

/-- The number that a word is. -/
def readNumber? (word : List Char) : Option Json :=
  let (negative, digits) := splitSign word
  match digits with
  | '0' :: x :: hex =>
    if x = 'x' ∨ x = 'X' then ofDigits? 16 negative hex
    else if isDigit x then none
    else (Number.read? word).map .decimal
  | digits =>
    if digits = "Infinity".toList ∨ digits = "NaN".toList then (Number.read? word).map .decimal
    else if (digits.head?.map fun c => isDigit c || c = '.').getD false then
      if digits.all isDigit then ofDigits? 10 negative digits
      else (Number.read? word).map .decimal
    else none

/-- The value that a word without quotes is. -/
def valueOf? (word : List Char) : Option Json :=
  match String.ofList word with
  | "null" => some .null
  | "true" => some (.bool true)
  | "false" => some (.bool false)
  | _ => readNumber? word

/-- Whether a character may stand in a value without quotes. -/
def isWordChar (c : Char) : Bool := c.isAlphanum || c = '+' || c = '-' || c = '.'

mutual

/-- Reads a value. -/
def readValue : (fuel : Nat) → List Char → Option (Json × List Char)
  | 0, _ => none
  | fuel + 1, cs =>
    match cs with
    | [] => none
    | c :: rest =>
      if c = '"' ∨ c = '\'' then
        (readText? c [] cs.length rest).map fun (s, rest) => (.string s, rest)
      else if c = '[' then
        (readItems [] fuel rest).map fun (items, rest) => (.array items.reverse, rest)
      else if c = '\x7b' then
        (readMembers [] fuel rest).map fun (members, rest) => (.object members, rest)
      else (valueOf? (cs.takeWhile isWordChar)).map (·, cs.dropWhile isWordChar)

/-- Reads the items of an array up to the closing bracket; the last one read comes first. -/
def readItems (items : List Json) : (fuel : Nat) → List Char → Option (List Json × List Char)
  | 0, _ => none
  | fuel + 1, cs => do
    let cs ← skip? cs
    if cs.head? = some ']' then return (items, cs.drop 1)
    let (v, cs) ← readValue fuel cs
    match ← skip? cs with
    | ',' :: cs => readItems (v :: items) fuel cs
    | ']' :: cs => return (v :: items, cs)
    | _ => failure

/-- Reads the members of an object up to the closing brace. Of several of one name the last
stays. -/
def readMembers (members : Entries Json) : (fuel : Nat) → List Char →
    Option (Entries Json × List Char)
  | 0, _ => none
  | fuel + 1, cs => do
    let cs ← skip? cs
    if cs.head? = some '\x7d' then return (members, cs.drop 1)
    let (name, cs) ← readName? cs
    let cs ← skip? cs
    if cs.head? ≠ some ':' then failure
    let (v, cs) ← readValue fuel (← skip? (cs.drop 1))
    let members := Entries.insert name v members
    match ← skip? cs with
    | ',' :: cs => readMembers members fuel cs
    | '\x7d' :: cs => return (members, cs)
    | _ => failure

end

/-- The value of a text. -/
def read? (text : String) : Option Json := do
  let cs ← skip? text.toList
  let (v, cs) ← readValue (2 * cs.length + 2) cs
  if (← skip? cs).isEmpty then return v else failure

end RecordQuery.Json5
