import RecordQuery.Entries
import RecordQuery.Ron.Numeral
import RecordQuery.Ron.Text

set_option autoImplicit false

/-!
# Reading RON

RON has lists in brackets, maps in braces, and structures in parentheses, whose fields have names,
or tuples if they have none. A value may be wrapped as present, or be absent, and two numbers may be
the ends of a range. What goes before the value of a text says which liberties it takes, or what it
is.

Each reader takes a number of steps that bounds how far it goes; the length of the text is enough. How
deep values may be nested is limited for itself.

## Main definitions

* `RecordQuery.Ron.readAttributes?` — what goes before the value of a text.
* `RecordQuery.Ron.readValue` — a value.
* `RecordQuery.Ron.read?` — the value of a text.
-/

namespace RecordQuery.Ron

/-! ## Attributes -/

/-- The liberties that a text may take. -/
def liberties : List String :=
  ["unwrap_newtypes", "implicit_some", "unwrap_variant_newtypes", "explicit_struct_names"]

/-- Reads the names of liberties up to the closing parenthesis; there is at least one. -/
def readLiberties? : (fuel : Nat) → List Char → Option (List String × List Char)
  | 0, _ => none
  | fuel + 1, cs => do
    let (name, cs) ← readFieldName? cs
    let name := String.ofList name
    if !liberties.contains name then failure
    match ← skip? cs with
    | ',' :: cs =>
      let cs ← skip? cs
      if cs.head? = some ')' then return ([name], cs.drop 1)
      let (names, cs) ← readLiberties? fuel cs
      return (name :: names, cs)
    | ')' :: cs => return ([name], cs)
    | _ => failure

/-- Reads one attribute, of which the number sign is behind: the liberties that the text takes, or
what it is and what describes it. -/
def readAttribute? (cs : List Char) : Option (List String × List Char) := do
  let cs ← readMark? "!" (← skip? cs)
  let cs ← readMark? "[" (← skip? cs)
  let (word, cs) ← readName? (← skip? cs)
  let cs ← skip? cs
  let (names, cs) ←
    if word = "enable".toList then
      readLiberties? (cs.length + 1) (← skip? (← readMark? "(" cs))
    else if word = "type".toList ∨ word = "schema".toList then
      (readString? (← skip? (← readMark? "=" cs))).map fun (_, cs) => ([], cs)
    else none
  let cs ← readMark? "]" (← skip? cs)
  return (names, cs)

/-- Reads the attributes before a value. -/
def readAttributes? : (fuel : Nat) → List Char → Option (List String × List Char)
  | 0, cs => some ([], cs)
  | fuel + 1, cs => do
    match ← skip? cs with
    | '#' :: cs =>
      let (names, cs) ← readAttribute? cs
      let (more, cs) ← readAttributes? fuel cs
      return (names ++ more, cs)
    | cs => return ([], cs)

/-! ## Ranges and names of members -/

/-- Whether a number or a range starts here. -/
def startsNumber (cs : List Char) : Bool :=
  (cs.head?.map fun c => isDigit c || c = '+' || c = '-' || c = '.').getD false

/-- Reads the two points of a range and its upper end, if it has one. -/
def readRangeEnd? (cs : List Char) : Option (Json × List Char) := do
  let cs ← readMark? ".." cs
  let closed := readMark? "=" cs
  let cs := closed.getD cs
  if startsNumber cs then
    let (_, cs) ← readNumber? cs
    return (.object [], cs)
  else if closed.isSome then failure
  else return (.object [], cs)

/-- Reads a number, or a range. -/
def readNumberOrRange? (cs : List Char) : Option (Json × List Char) :=
  if "..".toList.isPrefixOf cs then readRangeEnd? cs
  else (readNumber? cs).bind fun (x, rest) =>
    if "..".toList.isPrefixOf rest then readRangeEnd? rest else some (x, rest)

/-- Reads the name of a member of a map, which is a text, a text of bytes or a character. -/
def readMemberName? (cs : List Char) : Option (String × List Char) :=
  match cs with
  | 'b' :: _ => (readBytes? cs).bind fun (name, rest) => name.map (·, rest)
  | '\'' :: rest => (readChar? rest).map fun (c, rest) => (c.toString, rest)
  | _ => readString? cs

/-! ## Values -/

mutual

/-- Reads a value, in which values may be nested `depth` deep. `unwrap` says that fields or items may
stand for a structure or tuple that is wrapped as present. -/
def readValue (unwrap : Bool) (depth : Nat) : (fuel : Nat) → List Char → Option (Json × List Char)
  | 0, _ => none
  | fuel + 1, cs =>
    if let some rest := readWord? "true" cs then some (.bool true, rest)
    else if let some rest := readWord? "false" cs then some (.bool false, rest)
    else if let some rest := readWord? "None" cs then some (.null, rest)
    else if let some rest := readWord? "Some" cs then readPresent unwrap depth fuel rest
    else if let some rest := readMark? "()" cs then some (.null, rest)
    else if let some (x, rest) := readSpecial? cs then some (.decimal x, rest)
    else if let some (_, rest) := readName? cs then
      match skip? rest with
      | none => none
      | some ('(' :: rest) => readStructure unwrap depth fuel rest
      | some rest => some (.null, rest)
    else if startsNumber cs then readNumberOrRange? cs
    else match cs with
      | [] => none
      | '(' :: rest => readStructure unwrap depth fuel rest
      | '[' :: rest =>
        (readItems unwrap depth ']' [] fuel rest).map fun (items, rest) =>
          (.array items.reverse, rest)
      | '\x7b' :: rest =>
        (readMembers unwrap depth [] fuel rest).map fun (members, rest) => (.object members, rest)
      | '\'' :: rest => (readChar? rest).map fun (c, rest) => (.string c.toString, rest)
      | 'b' :: '\'' :: rest => (readByte? rest).map fun (n, rest) => (.integer n, rest)
      | 'b' :: _ => (readBytes? cs).map fun (_, rest) => (.array [], rest)
      | _ => (readString? cs).map fun (s, rest) => (.string s, rest)
termination_by structural fuel => fuel

/-- Reads what is wrapped as present: a value in parentheses. -/
def readPresent (unwrap : Bool) (depth : Nat) : (fuel : Nat) → List Char →
    Option (Json × List Char)
  | 0, _ => none
  | fuel + 1, cs => do
    let cs ← readMark? "(" (← skip? cs)
    if depth = 0 then failure
    if unwrap then
      let inner ← skip? cs
      let behind := (readName? inner).bind fun (_, rest) => skip? rest
      if inner.head? = some ')' then return (.null, inner.drop 1)
      else if (behind.getD []).head? = some ':' then readStructure unwrap (depth - 1) fuel cs
      else
        let (items, cs) ← readItems unwrap depth ')' [] fuel cs
        match items with
        | [v] => return (v, cs)
        | items => return (.array items.reverse, cs)
    else
      let (v, cs) ← readValue unwrap (depth - 1) fuel (← skip? cs)
      let cs ← skip? cs
      let cs ← skip? ((readMark? "," cs).getD cs)
      return (v, ← readMark? ")" cs)
termination_by structural fuel => fuel

/-- Reads what stands in parentheses up to the closing one: fields or items. -/
def readStructure (unwrap : Bool) (depth : Nat) : (fuel : Nat) → List Char →
    Option (Json × List Char)
  | 0, _ => none
  | fuel + 1, cs => do
    let cs ← skip? cs
    let behind ← match readName? cs with
      | some (_, rest) => skip? rest
      | none => some []
    if behind.head? = some ':' then
      let (fields, cs) ← readFields unwrap depth [] fuel cs
      return (.object fields, cs)
    else
      let (items, cs) ← readItems unwrap depth ')' [] fuel cs
      return (.array items.reverse, cs)
termination_by structural fuel => fuel

/-- Reads items up to a closing character; the last one read comes first. -/
def readItems (unwrap : Bool) (depth : Nat) (close : Char) (items : List Json) : (fuel : Nat) →
    List Char → Option (List Json × List Char)
  | 0, _ => none
  | fuel + 1, cs => do
    let cs ← skip? cs
    if depth = 0 then failure
    if cs.head? = some close then return (items, cs.drop 1)
    if depth = 1 then failure
    let (v, cs) ← readValue unwrap (depth - 2) fuel cs
    let cs ← skip? cs
    if cs.head? = some ',' then readItems unwrap depth close (v :: items) fuel (cs.drop 1)
    else return (v :: items, ← readMark? close.toString cs)
termination_by structural fuel => fuel

/-- Reads the fields of a structure up to the closing parenthesis. -/
def readFields (unwrap : Bool) (depth : Nat) (fields : Entries Json) : (fuel : Nat) → List Char →
    Option (Entries Json × List Char)
  | 0, _ => none
  | fuel + 1, cs => do
    let cs ← skip? cs
    if depth < 2 then failure
    if cs.head? = some ')' then return (fields, cs.drop 1)
    let (name, cs) ← readFieldName? cs
    let cs ← skip? (← readMark? ":" (← skip? cs))
    let (v, cs) ← readValue unwrap (depth - 2) fuel cs
    let fields := Entries.insert (String.ofList name) v fields
    let cs ← skip? cs
    if cs.head? = some ',' then readFields unwrap depth fields fuel (cs.drop 1)
    else return (fields, ← readMark? ")" cs)
termination_by structural fuel => fuel

/-- Reads the members of a map up to the closing brace. Of several of one name the last stays. -/
def readMembers (unwrap : Bool) (depth : Nat) (members : Entries Json) : (fuel : Nat) →
    List Char → Option (Entries Json × List Char)
  | 0, _ => none
  | fuel + 1, cs => do
    let cs ← skip? cs
    if depth = 0 then failure
    if cs.head? = some '\x7d' then return (members, cs.drop 1)
    if depth = 1 then failure
    let (name, cs) ← readMemberName? cs
    let cs ← skip? (← readMark? ":" (← skip? cs))
    let (v, cs) ← readValue unwrap (depth - 2) fuel cs
    let members := Entries.insert name v members
    let cs ← skip? cs
    if cs.head? = some ',' then readMembers unwrap depth members fuel (cs.drop 1)
    else return (members, ← readMark? "\x7d" cs)
termination_by structural fuel => fuel

end

/-- How deep values may be nested; a list counts twice, for itself and its items. -/
def depthLimit : Nat := 128

/-- The value of a text. -/
def read? (text : String) : Option Json := do
  let cs := text.toList
  let (names, cs) ← readAttributes? (cs.length + 1) cs
  let unwrap := names.contains "unwrap_variant_newtypes"
  let (v, cs) ← readValue unwrap depthLimit (3 * cs.length + 4) cs
  if (← skip? cs).isEmpty then return v else failure

end RecordQuery.Ron
