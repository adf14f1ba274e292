import RecordQuery.Json.Skipping
import RecordQuery.Settings.Option

set_option autoImplicit false

/-!
# Settings as JSON

Settings written as one JSON text: an object whose members are options, or an array with the
options in their order. Here every option takes only values of its own kind, and members that are
no options are passed over.

## Main definitions

* `RecordQuery.Settings.ofJson?` — the settings that a text is.
-/

namespace RecordQuery.Settings

open Json

/-- A value that an option may take. -/
inductive Choice where
  | truth (b : Bool)
  | text (s : String)
deriving DecidableEq, Repr

namespace Choice

/-- A choice as a truth value. -/
def truth? : Choice → Option Bool
  | truth b => some b
  | text _ => none

/-- A choice as text. -/
def text? : Choice → Option String
  | truth _ => none
  | text s => some s

/-- Reads the value of an option: a truth value or a string. -/
def read? (k : Cursor) : Option (Choice × Cursor) :=
  let k := k.skipSpace
  match k.rest with
  | 't' :: _ => (readWord "true".toList k).toOption.map (truth true, ·)
  | 'f' :: _ => (readWord "false".toList k).toOption.map (truth false, ·)
  | '"' :: _ => (readString [] k.next).toOption.map fun (s, k) => (text s, k)
  | _ => none

end Choice

/-- Reads the members of an object up to the closing brace and keeps those that are options; `read`
holds those before the cursor, the last one first. -/
def readOptions (first : Bool) (read : List (String × Choice)) : (fuel : Nat) → Cursor →
    Option (List (String × Choice) × Cursor)
  | 0, _ => none
  | fuel + 1, k =>
    match nextMember first k with
    | .error _ => none
    | .ok (.finished k) => some (read.reverse, k)
    | .ok (.another k) => do
      let (name, k) ← (readString [] k).toOption
      let k ← (readColon k).toOption
      if (Setting.ofName? name).isSome then
        let (choice, k) ← Choice.read? k
        readOptions false ((name, choice) :: read) fuel k
      else
        let rest ← skipValue? k.rest
        readOptions false read fuel { k with rest := rest }

/-- Reads the options of an array in their order, as many as it has; more than there are options
are too many. -/
def readInOrder (first : Bool) : List String → Cursor → Option (List (String × Choice) × Cursor)
  | names, k =>
    match nextItem first k with
    | .error _ => none
    | .ok (.finished k) => some ([], k)
    | .ok (.another k) =>
      match names with
      | [] => none
      | name :: names => do
        let (choice, k) ← Choice.read? k
        let (choices, k) ← readInOrder false names k
        return ((name, choice) :: choices, k)

/-- The settings that a text is. -/
def ofJson? (text : String) : Option Settings := do
  let k := (Cursor.start text.toList).skipSpace
  let (choices, k) ← match k.rest with
    | '\x7b' :: _ => readOptions true [] (k.rest.length + 1) k.next
    | '[' :: _ => readInOrder true ["case_sensitive", "prefer_regex", "date_key"] k.next
    | _ => none
  let _ ← (readEnd k).toOption
  (ofNamed Choice.truth? Choice.text? choices).toOption

end RecordQuery.Settings
