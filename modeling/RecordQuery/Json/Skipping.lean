import RecordQuery.Json.Reader

set_option autoImplicit false

/-!
# Skipping JSON

Where a value does not matter, only its form is checked: numbers may be of any size, escapes may
stand for halves of a character, and values may nest to any depth.

## Main definitions

* `RecordQuery.Json.skipString?`, `RecordQuery.Json.skipNumber?` — the text behind a string or a
  number.
* `RecordQuery.Json.skipValue?` — the text behind a value.
-/

namespace RecordQuery.Json

/-- The text behind white space. -/
def dropSpace (cs : List Char) : List Char := cs.dropWhile Cursor.isSpace

/-- The text behind the rest of a string. -/
def skipString? : List Char → Option (List Char)
  | [] => none
  | '"' :: cs => some cs
  | '\\' :: 'u' :: a :: b :: c :: d :: cs =>
    if [a, b, c, d].all fun x => (hexDigit? x).isSome then skipString? cs else none
  | '\\' :: c :: cs =>
    if ['"', '\\', '/', 'b', 'f', 'n', 'r', 't'].contains c then skipString? cs else none
  | c :: cs => if c.toNat < 0x20 then none else skipString? cs

/-- The text behind at least one digit. -/
def skipDigits? (cs : List Char) : Option (List Char) :=
  if (cs.takeWhile isDigit).isEmpty then none else some (cs.dropWhile isDigit)

/-- The text behind the digits of a whole number; none follow a zero in front. -/
def skipWhole? : List Char → Option (List Char)
  | '0' :: cs => if (cs.head?.map isDigit).getD false then none else some cs
  | cs => skipDigits? cs

/-- The text behind a number, its sign included. -/
def skipNumber? (cs : List Char) : Option (List Char) := do
  let cs ← skipWhole? (if cs.head? = some '-' then cs.drop 1 else cs)
  let cs ← if cs.head? = some '.' then skipDigits? (cs.drop 1) else some cs
  match cs with
  | c :: rest =>
    if c = 'e' ∨ c = 'E' then skipDigits? (splitSign rest).2 else return c :: rest
  | [] => return []

/-- The text behind a word. -/
def skipWord? (word : String) (cs : List Char) : Option (List Char) :=
  if word.toList.isPrefixOf cs then some (cs.drop word.length) else none

/-- The text behind a value that is no array or object. -/
def skipScalar? (cs : List Char) : Option (List Char) :=
  match cs with
  | [] => none
  | c :: rest =>
    if c = '"' then skipString? rest
    else if c = '-' ∨ isDigit c then skipNumber? cs
    else if c = 'n' then skipWord? "null" cs
    else if c = 't' then skipWord? "true" cs
    else if c = 'f' then skipWord? "false" cs
    else none

/-- The text behind the name of a member and its colon. -/
def skipName? (cs : List Char) : Option (List Char) := do
  let cs ← readChar? '"' (dropSpace cs)
  let cs ← skipString? cs
  readChar? ':' (dropSpace cs)
where
  /-- The text behind a given character. -/
  readChar? (c : Char) : List Char → Option (List Char)
    | [] => none
    | d :: rest => if c = d then some rest else none

/-- The text behind a value, and behind the ends of what is open around it: `open` holds the closing
brackets and braces that are missing, innermost first. `inside` says that a value has been read, and
`fresh` that the innermost array or object has been opened just now. -/
def skipOpen? (inside fresh : Bool) : (fuel : Nat) → List Char → List Char → Option (List Char)
  | 0, _, _ => none
  | fuel + 1, missing, cs =>
    let cs := dropSpace cs
    if inside then
      match missing, cs with
      | [], cs => some cs
      | close :: missing, c :: rest =>
        if c = close then skipOpen? true false fuel missing rest
        else if c = ',' then
          if close = ']' then skipOpen? false false fuel (close :: missing) rest
          else (skipName? rest).bind (skipOpen? false false fuel (close :: missing))
        else none
      | _ :: _, [] => none
    else
      match cs with
      | '[' :: rest => skipOpen? false true fuel (']' :: missing) rest
      | '\x7b' :: rest =>
        if (dropSpace rest).head? = some '\x7d' then
          skipOpen? true false fuel missing ((dropSpace rest).drop 1)
        else (skipName? rest).bind (skipOpen? false false fuel ('\x7d' :: missing))
      | cs =>
        if fresh ∧ cs.head? = some ']' then skipOpen? true false fuel (missing.drop 1) (cs.drop 1)
        else (skipScalar? cs).bind (skipOpen? true false fuel missing)

/-- The text behind a value. -/
def skipValue? (cs : List Char) : Option (List Char) :=
  skipOpen? false false (2 * cs.length + 2) [] cs

end RecordQuery.Json
