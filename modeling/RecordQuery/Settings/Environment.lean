import RecordQuery.Number.Whole
import RecordQuery.Settings.Layer

set_option autoImplicit false

/-!
# Settings from the environment

The variables whose names start with `RECSIFT_`, in any case, are a layer of settings: what follows
in the name, in lower case, names an option. A variable holds a text, and a text that is a truth
value or a number is taken as one.

## Main definitions

* `RecordQuery.Environment` — the variables of an environment.
* `RecordQuery.Environment.value` — the value that the text of a variable is.
* `RecordQuery.Environment.layer` — the layer of settings that an environment is.
* `RecordQuery.Environment.configuration?` — the path to a file of settings that it names.
-/

namespace RecordQuery

/-- The variables of an environment. -/
abbrev Environment := Entries String

namespace Environment

/-- What the name of a variable for an option starts with, in lower case. -/
def mark : List Char := "recsift_".toList

/-- The value that the text of a variable is. -/
def value (text : String) : Json :=
  if Text.lower text = "true" then .bool true
  else if Text.lower text = "false" then .bool false
  else match readInteger? 10 text.toList with
    | some n => .integer n
    | none =>
      match Number.read? text.toList with
      | some x => .decimal x
      | none => .string text

/-- The name and value that a variable gives, if it is one for settings. -/
def setting? (name text : String) : Option (String × Json) :=
  let name := (Text.lower name).toList
  if mark.isPrefixOf name then some (String.ofList (name.drop mark.length), value text) else none

/-- The layer of settings that an environment is. -/
def layer (environment : Environment) : Settings.Layer :=
  .ofPairs (environment.filterMap fun p => setting? p.1 p.2)

/-- The path to a file of settings that an environment names. -/
def configuration? (environment : Environment) : Option String :=
  Entries.get? environment "RECSIFT_CONFIG"

end Environment

end RecordQuery
