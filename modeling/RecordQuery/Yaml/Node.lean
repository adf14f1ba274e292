import RecordQuery.Json.Basic
import RecordQuery.Number.Whole
import RecordQuery.Yaml.Tag

set_option autoImplicit false

/-!
# Values of YAML

A plain scalar is a null, a truth value or a number if it looks like one, and a tag may say what a
plain scalar is. The names in a mapping are values of any kind, and distinct.

## Main definitions

* `RecordQuery.Yaml.Node` — a value.
* `RecordQuery.Yaml.Node.ofPlain`, `RecordQuery.Yaml.Node.ofScalar` — the value of a scalar.
* `RecordQuery.Yaml.Node.ofMembers?` — a mapping.
* `RecordQuery.Yaml.Node.toJson?` — a value as one of JSON.
-/

namespace RecordQuery.Yaml

/-- A value. A number that is not whole is kept as it is written. -/
inductive Node where
  /-- No value: a scalar that is not what its tag says, or a value that stands within itself. -/
  | missing
  | null
  | bool (b : Bool)
  | integer (n : Int)
  | decimal (text : List Char)
  | string (s : String)
  | sequence (items : List Node)
  | mapping (members : List (Node × Node))
deriving Inhabited, BEq, Repr

/-! ## Plain scalars -/

/-- The whole number that a plain scalar is: in base sixteen or eight with a mark, else in base ten. A
plus sign may come before a number with a sign. -/
def integer? (cs : List Char) : Option Int :=
  (match cs with
    | '0' :: 'x' :: digits => readInteger? 16 digits
    | '0' :: 'o' :: digits => readInteger? 8 digits
    | '+' :: digits => readInteger? 10 digits
    | _ => none).or (readInteger? 10 cs)

/-- Whether a plain scalar is the word for a number beyond all others, or for none. -/
def isSpecialNumber (cs : List Char) : Bool :=
  [".inf", ".Inf", ".INF", "+.inf", "+.Inf", "+.INF", "-.inf", "-.Inf", "-.INF", ".nan", ".NaN",
    ".NAN"].contains (String.ofList cs)

/-- The number that a plain scalar with a digit is. -/
def number? (cs : List Char) : Option Number :=
  if cs.any isDigit then Number.read? cs else none

/-- Whether a plain scalar is a number. -/
def isNumber (cs : List Char) : Bool := isSpecialNumber cs || (number? cs).isSome

namespace Node

/-- The value of a plain scalar. -/
def ofPlain (cs : List Char) : Node :=
  match integer? cs with
  | some n => integer n
  | none =>
    match String.ofList cs with
    | "" => null
    | "~" => null
    | "null" => null
    | "true" => bool true
    | "false" => bool false
    | s => if isNumber cs then decimal cs else string s

/-- The prefix of the tags that have a meaning here. -/
def coreTags : String := "tag:yaml.org,2002:"

/-- The value of a plain scalar whose tag has a meaning here. -/
def ofTagged (suffix : String) (cs : List Char) : Node :=
  match suffix with
  | "bool" =>
    match String.ofList cs with
    | "true" => bool true
    | "false" => bool false
    | _ => missing
  | "int" => ((readInteger? 10 cs).map integer).getD missing
  | "float" => if isNumber cs then decimal cs else missing
  | "null" => if ["~", "null"].contains (String.ofList cs) then null else missing
  | _ => string (String.ofList cs)

/-- The value of a scalar, which is a text if it is not plain. -/
def ofScalar (plain : Bool) (tag : Option Tag) (text : String) : Node :=
  if !plain then string text
  else match tag with
    | none => ofPlain text.toList
    | some t => if t.handle = coreTags then ofTagged t.suffix text.toList else string text

/-! ## Mappings -/

/-- Puts names and values in turn into a mapping. As long as the name is missing, what comes next is
the name. -/
def ofMembersFrom? (members : List (Node × Node)) (name : Node) : List Node → Option Node
  | [] => some (mapping members)
  | node :: nodes =>
    if name == missing then ofMembersFrom? members node nodes
    else if members.any fun m => m.1 == name then none
    else ofMembersFrom? (members ++ [(name, node)]) missing nodes

/-- The mapping of names and values that come in turn. No name may come twice. -/
def ofMembers? (nodes : List Node) : Option Node := ofMembersFrom? [] missing nodes

/-! ## Values of JSON -/

/-- The name of a member: a text, or what a truth value or a number is written as. -/
def name? : Node → Option String
  | string s => some s
  | bool b => some (if b then "true" else "false")
  | integer n => some (toString n)
  | decimal text => some (String.ofList text)
  | missing => none
  | null => none
  | sequence _ => none
  | mapping _ => none

mutual

/-- A value as one of JSON. Words for special numbers have none, nor have mappings with a name that is
no text. -/
def toJson? : Node → Option Json
  | missing => some .null
  | null => some .null
  | bool b => some (.bool b)
  | integer n => some (.integer n)
  | decimal text => (Number.read? text).map .decimal
  | string s => some (.string s)
  | sequence items => (toItems? items).map .array
  | mapping members => (toMembers? members).map fun members => .object (Entries.ofList members)

/-- Values as values of JSON. -/
def toItems? : List Node → Option (List Json)
  | [] => some []
  | node :: nodes => do
    let v ← toJson? node
    let items ← toItems? nodes
    return v :: items

/-- Members as names and values of JSON. -/
def toMembers? : List (Node × Node) → Option (List (String × Json))
  | [] => some []
  | (name, node) :: members => do
    let name ← name? name
    let v ← toJson? node
    let members ← toMembers? members
    return (name, v) :: members

end

end Node

end RecordQuery.Yaml
