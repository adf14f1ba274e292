import RecordQuery.Yaml.Node
import RecordQuery.Yaml.Token

set_option autoImplicit false

/-!
# Reading YAML

Values are read from tokens. A value can be given a name, and stand again wherever the name does. A
text holds documents, each with one value.

Each reader takes a number of steps that bounds how far it goes; the number of tokens is enough.

## Main definitions

* `RecordQuery.Yaml.Reading` — tokens that are left, and the values that have names.
* `RecordQuery.Yaml.readNode` — a value.
* `RecordQuery.Yaml.readDocuments` — the values of documents.
* `RecordQuery.Yaml.read?` — the value of a text.
-/

namespace RecordQuery.Yaml

/-! ## What has been read -/

/-- Tokens that are left, and what has been read before them that they may mean. -/
structure Reading where
  tokens : List Token
  /-- What handles stand for. -/
  prefixes : List (String × String) := []
  /-- The numbers of named values, the last one first. -/
  names : List (String × Nat) := []
  /-- The values that have been read to their ends, by their numbers. -/
  named : List (Nat × Node) := []
  /-- How many values have been named. -/
  count : Nat := 0

namespace Reading

/-- What is left behind the next token. -/
def next (r : Reading) : Reading := { r with tokens := r.tokens.drop 1 }

/-- Gives a number to a value that has a name. -/
def register (name : String) (r : Reading) : Nat × Reading :=
  (r.count, { r with names := (name, r.count) :: r.names, count := r.count + 1 })

/-- Keeps a value that has a number. -/
def keep (number : Option Nat) (node : Node) (r : Reading) : Node × Reading :=
  match number with
  | none => (node, r)
  | some n => (node, { r with named := (n, node) :: r.named })

/-- The value with a name; it is missing as long as it has not been read to its end. -/
def find? (name : String) (r : Reading) : Option Node :=
  (r.names.find? fun p => p.1 == name).map fun p =>
    ((r.named.find? fun q => q.1 == p.2).map (·.2)).getD .missing

/-- A tag with its handle replaced by what it stands for. A handle between two marks must stand for
something. -/
def resolve? (t : Tag) (r : Reading) : Option Tag :=
  let replacement := (r.prefixes.find? fun p => p.1 == t.handle).map (·.2)
  match replacement with
  | some s => some { t with handle := s }
  | none =>
    if t.handle = "!!" then some { t with handle := Node.coreTags }
    else if 2 ≤ t.handle.length ∧ t.handle.toList.getLast? = some '!' then none
    else some t

end Reading

/-- What stands before a value: the number that its name has, and a tag. -/
structure Properties where
  number : Option Nat := none
  tag : Option Tag := none

namespace Properties

/-- Reads what stands before a value: a name, a tag, or one of each in any order. -/
def read? (r : Reading) : Option (Properties × Reading) :=
  match r.tokens with
  | .anchor name _ :: _ =>
    let (n, r) := r.next.register name
    match r.tokens with
    | .tag t _ :: _ => (r.resolve? t).map fun t => (⟨some n, some t⟩, r.next)
    | _ => some (⟨some n, none⟩, r)
  | .tag t _ :: _ =>
    (r.resolve? t).map fun t =>
      let r := r.next
      match r.tokens with
      | .anchor name _ :: _ =>
        let (n, r) := r.next.register name
        (⟨some n, some t⟩, r)
      | _ => (⟨none, some t⟩, r)
  | _ => some ({}, r)

/-- The value of nothing, which is an empty scalar if something stands before it. -/
def emptyValue? (p : Properties) (r : Reading) : Option (Node × Reading) :=
  if p.number.isNone && p.tag.isNone then none
  else some (r.keep p.number (.ofScalar true p.tag ""))

end Properties

/-! ## Values -/

/-- Whether a member of a block ends before it has a value. -/
def endsMember : List Token → Bool
  | .key :: _ => true
  | .value :: _ => true
  | .blockEnd :: _ => true
  | _ => false

/-- Whether an item of a sequence ends before it has a value; one whose hyphens stand in the column of
names ends where the next name is, too. -/
def endsItem (indented : Bool) : List Token → Bool
  | .blockEntry :: _ => true
  | .blockEnd :: _ => true
  | .key :: _ => !indented
  | .value :: _ => !indented
  | _ => false

/-- Whether a member between brackets or braces that `close` ends before it has a value. -/
def endsFlowMember (close : Token) : List Token → Bool
  | .flowEntry :: _ => true
  | token :: _ => token = close
  | [] => false

mutual

/-- Reads a value. `inBlock` says that it may be a block, and `inNames` that it may be a sequence whose
hyphens stand in the column of names. -/
def readNode (inBlock inNames : Bool) : (fuel : Nat) → Reading → Option (Node × Reading)
  | 0, _ => none
  | fuel + 1, r => do
    if let .alias name :: _ := r.tokens then
      return (← r.find? name, r.next)
    let (p, r) ← Properties.read? r
    match r.tokens with
    | .scalar plain text :: _ => return r.next.keep p.number (.ofScalar plain p.tag text)
    | .flowSequenceStart :: _ =>
      let (items, r) ← readFlowItems true [] fuel r.next
      return r.keep p.number (.sequence items)
    | .flowMappingStart :: _ =>
      let (nodes, r) ← readFlowMembers true [] fuel r.next
      return r.keep p.number (← Node.ofMembers? nodes)
    | .sequenceStart :: _ =>
      if !inBlock then p.emptyValue? r
      else
        let (items, r) ← readItems true [] fuel r.next
        return r.keep p.number (.sequence items)
    | .mappingStart :: _ =>
      if !inBlock then p.emptyValue? r
      else
        let (nodes, r) ← readMembers [] fuel r.next
        return r.keep p.number (← Node.ofMembers? nodes)
    | .blockEntry :: _ =>
      if !inNames then p.emptyValue? r
      else
        let (items, r) ← readItems false [] fuel r
        return r.keep p.number (.sequence items)
    | _ => p.emptyValue? r
termination_by structural fuel => fuel

/-- Reads the items of a sequence; the last one read comes first. One that is `indented` has an end of
its own. -/
def readItems (indented : Bool) (items : List Node) : (fuel : Nat) → Reading →
    Option (List Node × Reading)
  | 0, _ => none
  | fuel + 1, r =>
    match r.tokens with
    | .blockEntry :: behind =>
      if endsItem indented behind then readItems indented (.null :: items) fuel r.next
      else
        (readNode true false fuel r.next).bind fun (node, r) =>
          readItems indented (node :: items) fuel r
    | .blockEnd :: _ => some (items.reverse, if indented then r.next else r)
    | _ => if indented then none else some (items.reverse, r)
termination_by structural fuel => fuel

/-- Reads the names and values of a block up to its end; the last one read comes first. -/
def readMembers (nodes : List Node) : (fuel : Nat) → Reading → Option (List Node × Reading)
  | 0, _ => none
  | fuel + 1, r =>
    match r.tokens with
    | .key :: behind =>
      if endsMember behind then readMemberValue (.null :: nodes) fuel r.next
      else
        (readNode true true fuel r.next).bind fun (name, r) =>
          readMemberValue (name :: nodes) fuel r
    | .value :: _ => readMemberValue (.null :: nodes) fuel r
    | .blockEnd :: _ => some (nodes.reverse, r.next)
    | _ => none
termination_by structural fuel => fuel

/-- Reads the value of a member in a block, and the members behind it. -/
def readMemberValue (nodes : List Node) : (fuel : Nat) → Reading → Option (List Node × Reading)
  | 0, _ => none
  | fuel + 1, r =>
    match r.tokens with
    | .value :: behind =>
      if endsMember behind then readMembers (.null :: nodes) fuel r.next
      else
        (readNode true true fuel r.next).bind fun (node, r) => readMembers (node :: nodes) fuel r
    | _ => readMembers (.null :: nodes) fuel r
termination_by structural fuel => fuel

/-- Reads the items between brackets; the last one read comes first. An item may be a mapping of one
member. -/
def readFlowItems (first : Bool) (items : List Node) : (fuel : Nat) → Reading →
    Option (List Node × Reading)
  | 0, _ => none
  | fuel + 1, r =>
    match r.tokens with
    | .flowSequenceEnd :: _ => some (items.reverse, r.next)
    | token :: _ =>
      let r := if first then some r else if token = .flowEntry then some r.next else none
      r.bind fun r =>
        match r.tokens with
        | .flowSequenceEnd :: _ => some (items.reverse, r.next)
        | .key :: behind =>
          if endsFlowMember .flowSequenceEnd behind || behind.head? = some .value then
            (readPairValue .null fuel r.next.next).bind fun (node, r) =>
              readFlowItems false (node :: items) fuel r
          else
            (readNode false false fuel r.next).bind fun (name, r) =>
              (readPairValue name fuel r).bind fun (node, r) =>
                readFlowItems false (node :: items) fuel r
        | _ =>
          (readNode false false fuel r).bind fun (node, r) =>
            readFlowItems false (node :: items) fuel r
    | [] => none
termination_by structural fuel => fuel

/-- Reads the value of the one member of a mapping between brackets. -/
def readPairValue (name : Node) : (fuel : Nat) → Reading → Option (Node × Reading)
  | 0, _ => none
  | fuel + 1, r =>
    match r.tokens with
    | .value :: behind =>
      if endsFlowMember .flowSequenceEnd behind then
        (Node.ofMembers? [name, .null]).map (·, r.next)
      else
        (readNode false false fuel r.next).bind fun (node, r) =>
          (Node.ofMembers? [name, node]).map (·, r)
    | _ => (Node.ofMembers? [name, .null]).map (·, r)
termination_by structural fuel => fuel

/-- Reads the names and values between braces; the last one read comes first. -/
def readFlowMembers (first : Bool) (nodes : List Node) : (fuel : Nat) → Reading →
    Option (List Node × Reading)
  | 0, _ => none
  | fuel + 1, r =>
    match r.tokens with
    | .flowMappingEnd :: _ => some (nodes.reverse, r.next)
    | token :: _ =>
      let r := if first then some r else if token = .flowEntry then some r.next else none
      r.bind fun r =>
        match r.tokens with
        | .flowMappingEnd :: _ => some (nodes.reverse, r.next)
        | .key :: behind =>
          if endsFlowMember .flowMappingEnd behind || behind.head? = some .value then
            readFlowValue (.null :: nodes) fuel r.next
          else
            (readNode false false fuel r.next).bind fun (name, r) =>
              readFlowValue (name :: nodes) fuel r
        | .value :: _ => readFlowValue (.null :: nodes) fuel r
        | _ =>
          (readNode false false fuel r).bind fun (name, r) =>
            readFlowMembers false (.null :: name :: nodes) fuel r
    | [] => none
termination_by structural fuel => fuel

/-- Reads the value of a member between braces, and the members behind it. -/
def readFlowValue (nodes : List Node) : (fuel : Nat) → Reading → Option (List Node × Reading)
  | 0, _ => none
  | fuel + 1, r =>
    match r.tokens with
    | .value :: behind =>
      if endsFlowMember .flowMappingEnd behind then
        readFlowMembers false (.null :: nodes) fuel r.next
      else
        (readNode false false fuel r.next).bind fun (node, r) =>
          readFlowMembers false (node :: nodes) fuel r
    | _ => readFlowMembers false (.null :: nodes) fuel r
termination_by structural fuel => fuel

end

/-! ## Documents -/

/-- Reads the directives before a document, of which the last one says what a handle stands for. The
version is given at most once. -/
def readDirectives (version : Bool) : (fuel : Nat) → Reading → Option Reading
  | 0, r => some r
  | fuel + 1, r =>
    match r.tokens with
    | .directive .version :: _ =>
      if version then none else readDirectives true fuel { r.next with prefixes := [] }
    | .directive (.handle name replacement) :: _ =>
      readDirectives version fuel { r.next with prefixes := [(name, replacement)] }
    | _ => some r

/-- Whether a document ends before it has a value. -/
def endsDocument : List Token → Bool
  | [] => true
  | .directive _ :: _ => true
  | .documentStart :: _ => true
  | .documentEnd :: _ => true
  | _ => false

/-- Reads the values of documents. One may start without a marker if it is the `bare` first one or
the one before has been marked as ended. -/
def readDocuments (bare : Bool) : (fuel : Nat) → Reading → Option (List Node)
  | 0, _ => none
  | fuel + 1, r => do
    let r := { r with tokens := r.tokens.dropWhile (· = .documentEnd), names := [] }
    if r.tokens.isEmpty then return []
    let (node, r) ←
      if endsDocument r.tokens || !bare then
        let r ← readDirectives false (r.tokens.length + 1) r
        if r.tokens.head? ≠ some .documentStart then failure
        if endsDocument (r.tokens.drop 1) then pure (Node.null, r.next)
        else readNode true false (4 * r.tokens.length + 4) r.next
      else readNode true false (4 * r.tokens.length + 4) r
    let r := { r with prefixes := [] }
    let nodes ← match r.tokens with
      | .documentEnd :: _ => readDocuments true fuel r.next
      | .directive _ :: _ => none
      | _ => readDocuments false fuel r
    return node :: nodes

/-- The value of a text that holds one document. A text without a document is a mapping without
members; one with several has no value. -/
def read? (text : String) : Option Json := do
  let tokens ← tokens? text
  match ← readDocuments true (tokens.length + 1) { tokens := tokens } with
  | [] => return .object []
  | [node] => node.toJson?
  | _ => failure

end RecordQuery.Yaml
