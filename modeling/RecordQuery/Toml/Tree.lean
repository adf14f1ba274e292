import RecordQuery.Json.Basic

set_option autoImplicit false

/-!
# Trees of tables

A TOML text says line by line what stands where in a tree of tables. A table comes about in one of
three ways, which decides what may still be added to it and how.

## Main definitions

* `RecordQuery.Toml.Node` — a value, a table, or an array of tables.
* `RecordQuery.Toml.add?` — the members with a value at a path.
* `RecordQuery.Toml.openTable?`, `RecordQuery.Toml.openItem?` — the members with a table at a path
  that a header names.
* `RecordQuery.Toml.within?` — the members after a change in the table at a path.
-/

namespace RecordQuery.Toml

/-- How a table came about. -/
inductive Origin where
  /-- A header names it. -/
  | header
  /-- A header names a table in it. -/
  | around
  /-- A dotted name leads through it. -/
  | dotted
deriving DecidableEq, Repr

/-- What stands under a name. -/
inductive Node where
  | value (v : Json)
  | table (origin : Origin) (members : List (String × Node))
  | tables (items : List (List (String × Node)))

/-- Nodes under distinct names. -/
abbrev Members := List (String × Node)

/-- The node under a name. -/
def find? (name : String) (members : Members) : Option Node :=
  (members.find? fun m => m.1 == name).map (·.2)

/-- The members with `node` under `name`, in place of what was there. -/
def put (name : String) (node : Node) (members : Members) : Members :=
  members.filter (fun m => m.1 != name) ++ [(name, node)]

/-- The members with a value at a path: the names of tables that dotted names made or make, and the
name of the value, which must be new. The path may lead through the last table of an array, but not
end there. -/
def add? (name : String) (v : Json) : (path : List String) → Members → Option Members
  | [], members => if (find? name members).isSome then none else some (put name (.value v) members)
  | step :: path, members =>
    match find? step members with
    | none => (add? name v path []).map fun inner => put step (.table .dotted inner) members
    | some (.table origin inner) =>
      if origin = .header ∨ (path = [] ∧ origin ≠ .dotted) then none
      else (add? name v path inner).map fun inner => put step (.table origin inner) members
    | some (.tables items) =>
      match items.getLast? with
      | none => none
      | some last =>
        if path = [] then none
        else (add? name v path last).map fun last =>
          put step (.tables (items.dropLast ++ [last])) members
    | some (.value _) => none

/-- The members after a change in the table at a path. Of an array of tables the last is meant, and
tables that are missing are made around the one at the path. -/
def within? (change : Members → Option Members) : (path : List String) → Members → Option Members
  | [], members => change members
  | step :: path, members =>
    match find? step members with
    | none => (within? change path []).map fun inner => put step (.table .around inner) members
    | some (.table origin inner) =>
      (within? change path inner).map fun inner => put step (.table origin inner) members
    | some (.tables items) =>
      match items.getLast? with
      | none => none
      | some last =>
        (within? change path last).map fun last =>
          put step (.tables (items.dropLast ++ [last])) members
    | some (.value _) => none

/-- The members with a table that a header names, which no header may have named before. -/
def openTable? (name : String) (members : Members) : Option Members :=
  match find? name members with
  | none => some (put name (.table .header []) members)
  | some (.table .around inner) => some (put name (.table .header inner) members)
  | some _ => none

/-- The members with one more table in an array of tables. -/
def openItem? (name : String) (members : Members) : Option Members :=
  match find? name members with
  | none => some (put name (.tables [[]]) members)
  | some (.tables items) => some (put name (.tables (items ++ [[]])) members)
  | some _ => none

mutual

/-- A node as a value. -/
def Node.toJson : Node → Json
  | .value v => v
  | .table _ members => .object (toPairs members)
  | .tables items => .array (toObjects items)

/-- Members as names and values. -/
def toPairs : List (String × Node) → List (String × Json)
  | [] => []
  | (name, node) :: members => (name, node.toJson) :: toPairs members

/-- The tables of an array as values. -/
def toObjects : List (List (String × Node)) → List Json
  | [] => []
  | members :: items => .object (toPairs members) :: toObjects items

end

end RecordQuery.Toml
