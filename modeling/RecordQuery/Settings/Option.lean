import RecordQuery.Json.Basic
import RecordQuery.Settings.Basic

set_option autoImplicit false

/-!
# Options by name

A source of settings gives values to options by name, and an option has several spellings. No
option may be given in two spellings at once.

## Main definitions

* `RecordQuery.Setting` — the options of a query, as things to be named.
* `RecordQuery.Setting.spellings` — the names of an option.
* `RecordQuery.Setting.given` — the values that named values give to an option.
-/

namespace RecordQuery

/-- An option of a query. -/
inductive Setting where
  | caseSensitive
  | preferPatterns
  | dateKey
deriving DecidableEq, Repr

namespace Setting

/-- The names of an option. -/
def spellings : Setting → List String
  | caseSensitive => ["case_sensitive", "caseSensitive", "casesensitive"]
  | preferPatterns => ["prefer_regex", "preferRegex", "preferregex"]
  | dateKey => ["date_key", "dateKey", "datekey"]

/-- The option with a name. -/
def ofName? (name : String) : Option Setting :=
  [caseSensitive, preferPatterns, dateKey].find? fun s => s.spellings.contains name

/-- The values that named values give to an option. -/
def given {α : Type} (s : Setting) (named : List (String × α)) : List α :=
  (named.filter fun p => s.spellings.contains p.1).map (·.2)

end Setting

namespace Settings

/-- Why a source of settings cannot be used. -/
inductive Fault where
  /-- The file cannot be found or read, or its name does not tell its format. -/
  | noFile
  /-- The text is not of its format, or holds no names. -/
  | malformed
  /-- An option is given more than once. -/
  | repeated (s : Setting)
  /-- An option cannot have the value that it is given. -/
  | unfit (s : Setting)
deriving DecidableEq, Repr

/-- The wording of a fault, which is the same for all. -/
def Fault.message : Fault → String := fun _ => "Config: Failed to load query configuration"

/-- The value of an option: what `convert` makes of the value it is given, or `standard` if it is
given none. -/
def choose {α β : Type} (s : Setting) (convert : α → Option β) (standard : β) :
    List α → Except Fault β
  | [] => .ok standard
  | [v] =>
    match convert v with
    | none => .error (.unfit s)
    | some b => .ok b
  | _ => .error (.repeated s)

/-- The settings that named values give: `truth` and `text` say which values the options take, and
options without a value keep the standard one. -/
def ofNamed {α : Type} (truth : α → Option Bool) (text : α → Option String)
    (named : List (String × α)) : Except Fault Settings := do
  let standard : Settings := {}
  return {
    caseSensitive :=
      ← choose .caseSensitive truth standard.caseSensitive (Setting.caseSensitive.given named)
    preferPatterns :=
      ← choose .preferPatterns truth standard.preferPatterns (Setting.preferPatterns.given named)
    dateKey := ← choose .dateKey text standard.dateKey (Setting.dateKey.given named) }

end Settings

end RecordQuery
