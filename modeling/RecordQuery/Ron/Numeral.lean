import RecordQuery.Json.Basic
import RecordQuery.Number.Single
import RecordQuery.Number.Whole
import RecordQuery.Ron.Blank

set_option autoImplicit false

/-!
# Numbers of RON

A number is whole if it is written so and fits 64 bits, with a sign if it is negative; else it is
rounded. A base is marked in front, and a width behind it, which bounds a whole number. Underscores
group the digits.

## Main definitions

* `RecordQuery.Ron.Width` — the widths of whole numbers.
* `RecordQuery.Ron.readDecimal?` — a number that need not be whole.
* `RecordQuery.Ron.readNumber?` — a number.
-/

namespace RecordQuery.Ron

/-! ## Numbers that need not be whole -/

/-- Whether a character may stand in a number that need not be whole. -/
def isDecimalChar (c : Char) : Bool := isDigit c || ['e', 'E', '.', '+', '-', '_'].contains c

/-- The text ahead as far as it may belong to such a number. Two points end it. -/
def takeDecimal : List Char → List Char
  | [] => []
  | '.' :: '.' :: _ => []
  | c :: cs => if isDecimalChar c then c :: takeDecimal cs else []

/-- A number without the underscores in it. One is `allowed` behind a digit, a letter or a sign that
follows one of them. -/
def ungroup? (allowed : Bool) : List Char → Option (List Char)
  | [] => some []
  | '_' :: cs => if allowed then ungroup? true cs else none
  | c :: cs =>
    let allowed := c ≠ '.' && (allowed || isDigit c || c = 'e' || c = 'E')
    (ungroup? allowed cs).map (c :: ·)

/-- The words for numbers beyond all others, or none. -/
def specialNumbers : List (String × Number) := [
  ("inf", .real false .infinity), ("+inf", .real false .infinity), ("-inf", .real true .infinity),
  ("NaN", .nan), ("+NaN", .nan), ("-NaN", .nan)]

/-- Reads a word for a number, behind which its precision may be marked. -/
def readSpecial? (cs : List Char) : Option (Number × List Char) :=
  specialNumbers.findSome? fun (word, x) =>
    ["", "f32", "f64"].findSome? fun mark => (readWord? (word ++ mark) cs).map (x, ·)

/-- Reads a number that need not be whole, behind which its precision may be marked. -/
def readDecimal? (cs : List Char) : Option (Number × List Char) :=
  (readSpecial? cs).or <| do
    let digits ← ungroup? false (takeDecimal cs)
    let rest := cs.drop (takeDecimal cs).length
    match readWord? "f32" rest with
    | some rest => (Number.readSingle? digits).map (·, rest)
    | none => (Number.read? digits).map (·, (readWord? "f64" rest).getD rest)

/-! ## Whole numbers -/

/-- How many bits a whole number has, and whether one of them is for a sign. -/
structure Width where
  signed : Bool
  bits : Nat
deriving DecidableEq, Repr

namespace Width

/-- The widths by the words for them. -/
def all : List (String × Width) := [
  ("i8", ⟨true, 8⟩), ("i16", ⟨true, 16⟩), ("i32", ⟨true, 32⟩), ("i64", ⟨true, 64⟩),
  ("u8", ⟨false, 8⟩), ("u16", ⟨false, 16⟩), ("u32", ⟨false, 32⟩), ("u64", ⟨false, 64⟩)]

/-- Reads the word for a width. -/
def read? (cs : List Char) : Option (Width × List Char) :=
  all.findSome? fun (word, w) => (readWord? word cs).map (w, ·)

/-- Whether a magnitude with a sign has a width. -/
def fits (w : Width) (negative : Bool) (n : Nat) : Bool :=
  let limit := 1 <<< (if w.signed then w.bits - 1 else w.bits)
  if negative then n = 0 || (w.signed && n ≤ limit) else n < limit

end Width

/-- Whether a character may stand in a whole number of some base. -/
def isIntegerChar (c : Char) : Bool := (hexDigit? c).isSome || c = '_'

/-- Splits the mark of a base off digits. -/
def splitBase (cs : List Char) : Option Nat × List Char :=
  match cs with
  | '0' :: 'b' :: rest => (some 2, rest)
  | '0' :: 'o' :: rest => (some 8, rest)
  | '0' :: 'x' :: rest => (some 16, rest)
  | _ => (none, cs)

/-- The value of digits, behind the first of which underscores may stand. -/
def digitsOf? (base : Nat) (digits : List Char) : Option Nat :=
  if digits = [] ∨ digits.head? = some '_' then none
  else digitsValueIn? base (digits.filter (· ≠ '_'))

/-- Reads a number. -/
def readNumber? (cs : List Char) : Option (Json × List Char) :=
  let (negative, unsigned) := splitSign cs
  let rounded := (readDecimal? cs).map fun (x, rest) => (Json.decimal x, rest)
  if (unsigned.takeWhile isIntegerChar).length < (takeDecimal unsigned).length then rounded
  else
    let (base?, digits) := splitBase unsigned
    let rest := digits.dropWhile isIntegerChar
    let whole (w : Width) (rest : List Char) : Option (Json × List Char) :=
      (digitsOf? (base?.getD 10) (digits.takeWhile isIntegerChar)).bind fun n =>
        if w.fits negative n then some (.integer (if negative then -n else n), rest) else none
    match Width.read? rest with
    | some (w, rest) => whole w rest
    | none => (whole ⟨negative, 64⟩ rest).or (if base?.isSome then none else rounded)

end RecordQuery.Ron
