import RecordQuery.Text.Split

set_option autoImplicit false

/-!
# Paths

What the text of a path says by itself: its components, whether it stands for a standard stream,
and the extension of the file that it names.

## Main definitions

* `RecordQuery.Path.components` — the names that a path leads through.
* `RecordQuery.Path.isStream` — whether a path stands for a standard stream.
* `RecordQuery.Path.extension?` — the extension of the file that a path names.
* `RecordQuery.Path.withExtension?` — a path with one more extension.
-/

namespace RecordQuery.Path

/-- Whether a path starts at the root. -/
def isAbsolute (path : String) : Bool := path.toList.head? == some '/'

/-- The names that a path leads through. Repeated slashes count once, and a point for the directory
itself counts only at the start of a relative path. -/
def components (path : String) : List String :=
  match (Text.split '/' path.toList).map String.ofList with
  | [] => []
  | first :: rest =>
    (if first = "" then [] else [first]) ++ rest.filter fun part => part != "" && part != "."

/-- Whether a path stands for a standard stream. -/
def isStream (path : String) : Bool := !isAbsolute path && components path == ["-"]

/-- The name of the file at a path; a path that ends in the directory itself or its parent names
none. -/
def fileName? (path : String) : Option String :=
  match (components path).getLast? with
  | none => none
  | some name => if name = "." ∨ name = ".." then none else some name

/-- The extension of the file at a path: what follows the last point of its name, unless the name
starts with that point. -/
def extension? (path : String) : Option String :=
  match fileName? path with
  | none => none
  | some name =>
    let reversed := name.toList.reverse
    match reversed.dropWhile (· ≠ '.') with
    | [] => none
    | [_] => none
    | _ => some (String.ofList (reversed.takeWhile (· ≠ '.')).reverse)

/-- Drops the slashes, and the points for the directory itself, that end a reversed path. -/
def dropSelf : List Char → List Char
  | '/' :: cs => dropSelf cs
  | '.' :: '/' :: cs => dropSelf cs
  | cs => cs

/-- The path to the file whose name is that of the file at `path`, a point and `extension`. -/
def withExtension? (path extension : String) : Option String :=
  (fileName? path).map fun _ =>
    String.ofList (dropSelf path.toList.reverse).reverse ++ "." ++ extension

end RecordQuery.Path
