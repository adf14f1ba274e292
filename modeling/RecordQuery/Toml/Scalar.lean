import RecordQuery.Calendar.Reading
import RecordQuery.Calendar.Text
import RecordQuery.Json.Basic
import RecordQuery.Number.Whole

set_option autoImplicit false

/-!
# Scalars of TOML

Texts in four kinds of quotes, whole numbers, other numbers, truth values, and dates and times,
which count as the text of their usual form.

## Main definitions

* `RecordQuery.Toml.readString?` — a text in quotes.
* `RecordQuery.Toml.integer?`, `RecordQuery.Toml.number?`, `RecordQuery.Toml.moment?` — what a word
  without quotes is.
* `RecordQuery.Toml.readWord?` — a value without quotes.
-/

namespace RecordQuery.Toml

/-! ## Texts -/

/-- Whether a character may stand for itself in a text or comment of one line. -/
def isPlainChar (c : Char) : Bool := c = '\t' || (0x20 ≤ c.toNat && c.toNat ≠ 0x7F)

/-- Whether a character is a space or a tab. -/
def isGap (c : Char) : Bool := c = ' ' || c = '\t'

/-- The character that a letter behind a backslash stands for. -/
def escaped? (c : Char) : Option Char :=
  match c with
  | 'b' => some '\x08'
  | 't' => some '\t'
  | 'n' => some '\n'
  | 'f' => some '\x0c'
  | 'r' => some '\r'
  | 'e' => some '\x1b'
  | '"' => some '"'
  | '\\' => some '\\'
  | _ => none

/-- Reads what stands behind a backslash. -/
def readEscape? : List Char → Option (Char × List Char)
  | [] => none
  | c :: cs =>
    let n := if c = 'x' then 2 else if c = 'u' then 4 else if c = 'U' then 8 else 0
    if n = 0 then (escaped? c).map (·, cs)
    else if cs.length < n then none
    else (charOfHex? (cs.take n)).map (·, cs.drop n)

/-- The text behind a backslash that ends a line: it goes on at the next character that is not
blank. -/
def afterLineEnd? (cs : List Char) : Option (List Char) :=
  match cs.dropWhile isGap with
  | '\n' :: rest => some (rest.dropWhile fun c => isGap c || c = '\n')
  | _ => none

/-- Reads the rest of a text in quotes `quote` up to the closing one, or to the closing three if
the text may have several lines; `read` is what came before, the last character first. Backslashes
mean something between double quotes only. -/
def readQuoted? (quote : Char) (lines : Bool) (read : List Char) (cs : List Char) :
    Option (String × List Char) :=
  match cs with
  | [] => none
  | c :: rest =>
    if c = quote then
      if lines then
        let run := (rest.takeWhile (· = quote)).length + 1
        if run < 3 then readQuoted? quote lines (c :: read) rest
        else if run ≤ 5 then
          some (String.ofList (List.replicate (run - 3) quote ++ read).reverse, cs.drop run)
        else none
      else some (String.ofList read.reverse, rest)
    else if c = '\\' ∧ quote = '"' then
      match if lines then afterLineEnd? rest else none with
      | some after =>
        if after.length ≤ rest.length then readQuoted? quote lines read after else none
      | none =>
        match readEscape? rest with
        | some (d, after) =>
          if after.length ≤ rest.length then readQuoted? quote lines (d :: read) after else none
        | none => none
    else if isPlainChar c ∨ (lines ∧ c = '\n') then readQuoted? quote lines (c :: read) rest
    else none
termination_by cs.length
decreasing_by all_goals simp only [List.length_cons]; omega

/-- Reads a text in quotes. Behind three opening quotes a line end is dropped. -/
def readString? : List Char → Option (String × List Char)
  | [] => none
  | quote :: cs =>
    if quote ≠ '"' ∧ quote ≠ '\'' then none
    else if cs.take 2 = [quote, quote] then
      match cs.drop 2 with
      | '\n' :: rest => readQuoted? quote true [] rest
      | rest => readQuoted? quote true [] rest
    else readQuoted? quote false [] cs

/-! ## Numbers -/

/-- Digits without the underscores between them; an underscore stands between two digits. -/
def ungroup? (isDigit : Char → Bool) : List Char → Option (List Char)
  | [] => none
  | [c] => if isDigit c then some [c] else none
  | c :: '_' :: cs => if isDigit c then (ungroup? isDigit cs).map (c :: ·) else none
  | c :: d :: cs => if isDigit c then (ungroup? isDigit (d :: cs)).map (c :: ·) else none

/-- Whether digits have a zero in front that does not count. -/
def hasLeadingZero (digits : List Char) : Bool := digits.head? = some '0' && 1 < digits.length

/-- A sign of its own, and what follows it. -/
def signOf (cs : List Char) : List Char × List Char :=
  match cs with
  | '+' :: rest => (['+'], rest)
  | '-' :: rest => (['-'], rest)
  | _ => ([], cs)

/-- The whole number that a word is. -/
def integer? (cs : List Char) : Option Int :=
  let based (base : Nat) (digits : List Char) : Option Int :=
    (ungroup? (fun c => (hexDigit? c).isSome) digits).bind fun digits =>
      if digits.all isDigit || base = 16 then readInteger? base digits else none
  match cs with
  | '0' :: 'x' :: digits => based 16 digits
  | '0' :: 'o' :: digits => based 8 digits
  | '0' :: 'b' :: digits => based 2 digits
  | _ => do
    let (sign, rest) := signOf cs
    let digits ← ungroup? isDigit rest
    if hasLeadingZero digits then failure
    readInteger? 10 (sign ++ digits)

/-- A number with an end. -/
def bounded? : Number → Option Number
  | .nan => none
  | .real negative m => if m.isInfinite then none else some (.real negative m)

/-- The number that a word is which is not whole. One that is too large for a number has no value. -/
def number? (cs : List Char) : Option Number := do
  let (sign, rest) := signOf cs
  if rest = "inf".toList ∨ rest = "nan".toList then Number.read? cs
  else
    let (mantissa, tail) := (rest.takeWhile (fun c => c ≠ 'e' && c ≠ 'E'),
      rest.dropWhile (fun c => c ≠ 'e' && c ≠ 'E'))
    let whole ← ungroup? isDigit (mantissa.takeWhile (· ≠ '.'))
    if hasLeadingZero whole then failure
    let fraction ← match mantissa.dropWhile (· ≠ '.') with
      | [] => some []
      | _ :: digits => (ungroup? isDigit digits).map ('.' :: ·)
    let exponent ← match tail with
      | [] => some []
      | _ :: digits =>
        let (sign, digits) := signOf digits
        (ungroup? isDigit digits).map fun digits => 'e' :: sign ++ digits
    if fraction = [] ∧ exponent = [] then failure
    (Number.read? (sign ++ whole ++ fraction ++ exponent)).bind bounded?

/-! ## Dates and times -/

/-- The seconds of a time of day as their usual text, and what follows them: nothing, or two digits
behind a colon and a fraction, of which nine digits count. A fraction that is zero keeps one. -/
def readSeconds? (cs : List Char) : Option (String × List Char) :=
  match cs with
  | ':' :: rest => do
    let (second, rest) ← readDigits? 2 rest
    if 60 < second then failure
    let (nanos, behind) ← readFraction? rest
    let fraction :=
      if behind.length = rest.length then "" else if nanos = 0 then ".0"
      else "." ++ Instant.fractionDigits nanos
    return (":" ++ padded 2 second ++ fraction, behind)
  | _ => some ("", cs)

/-- A time of day as its usual text, and what follows it. -/
def readTime? (cs : List Char) : Option (String × List Char) := do
  let (hour, rest) ← readDigits? 2 cs
  let rest ← readChar? ':' rest
  let (minute, rest) ← readDigits? 2 rest
  if 23 < hour ∨ 59 < minute then failure
  let (seconds, rest) ← readSeconds? rest
  return (padded 2 hour ++ ":" ++ padded 2 minute ++ seconds, rest)

/-- An offset as its usual text. -/
def offset? : List Char → Option String
  | [] => some ""
  | [c] => if c = 'Z' ∨ c = 'z' then some "Z" else none
  | cs => do
    let (seconds, rest) ← readOffset? cs
    if rest ≠ [] then failure
    let sign := if seconds < 0 then "-" else "+"
    return sign ++ padded 2 (seconds.natAbs / 3600) ++ ":" ++ padded 2 (seconds.natAbs / 60 % 60)

/-- The usual text of the date, the time or the date and time that a word is. -/
def moment? (cs : List Char) : Option String :=
  match readTime? cs with
  | some (time, []) => some time
  | some _ => none
  | none => do
    let (year, rest) ← readDigits? 4 cs
    let rest ← readChar? '-' rest
    let (month, rest) ← readDigits? 2 rest
    let rest ← readChar? '-' rest
    let (day, rest) ← readDigits? 2 rest
    if !(Day.mk year month day).isValid then failure
    let date := padded 4 year ++ "-" ++ padded 2 month ++ "-" ++ padded 2 day
    match rest with
    | [] => return date
    | separator :: rest =>
      if separator ≠ 'T' ∧ separator ≠ 't' ∧ separator ≠ ' ' then failure
      let (time, rest) ← readTime? rest
      return date ++ "T" ++ time ++ (← offset? rest)

/-! ## Words -/

/-- Whether a character may stand in a value without quotes. -/
def isWordChar (c : Char) : Bool := c.isAlphanum || ['+', '-', '_', '.', ':'].contains c

/-- The value that a word is. -/
def valueOf? (cs : List Char) : Option Json :=
  if cs = "true".toList then some (.bool true)
  else if cs = "false".toList then some (.bool false)
  else ((integer? cs).map Json.integer).or <|
    ((number? cs).map Json.decimal).or ((moment? cs).map Json.string)

/-- Reads a value without quotes. One space may stand between a date and a time. -/
def readWord? (cs : List Char) : Option (Json × List Char) :=
  let word := cs.takeWhile isWordChar
  let rest := cs.dropWhile isWordChar
  match rest with
  | ' ' :: d :: after =>
    if word.length = 10 ∧ (moment? word).isSome ∧ isDigit d then
      let time := (d :: after).takeWhile isWordChar
      (valueOf? (word ++ ' ' :: time)).map (·, (d :: after).dropWhile isWordChar)
    else (valueOf? word).map (·, rest)
  | _ => (valueOf? word).map (·, rest)

end RecordQuery.Toml
