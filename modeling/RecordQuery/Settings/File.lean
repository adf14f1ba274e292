import RecordQuery.Ini.Reader
import RecordQuery.Json.Reader
import RecordQuery.Json5.Reader
import RecordQuery.Path
import RecordQuery.Ron.Reader
import RecordQuery.Settings.Layer
import RecordQuery.Toml.Reader
import RecordQuery.Yaml.Reader

set_option autoImplicit false

/-!
# Files of settings

A file of settings is in the format that the extension of its name tells, and holds one table of
values under names.

## Main definitions

* `RecordQuery.Settings.Format` — the formats of files of settings.
* `RecordQuery.Settings.Format.ofPath?` — the format of the file at a path.
* `RecordQuery.Settings.candidates` — where a file may be that a path leaves without an extension.
* `RecordQuery.Settings.Format.read` — the layer of settings that a text in some format is.
-/

namespace RecordQuery.Settings

/-- The formats of files of settings. -/
inductive Format where
  | toml
  | json
  | yaml
  | ini
  | ron
  | json5
deriving DecidableEq, Repr

namespace Format

/-- The extensions of file names that tell a format. -/
def extensions : Format → List String
  | toml => ["toml"]
  | json => ["json"]
  | yaml => ["yaml", "yml"]
  | ini => ["ini"]
  | ron => ["ron"]
  | json5 => ["json5"]

/-- All formats. -/
def all : List Format := [toml, json, yaml, ini, ron, json5]

/-- The format of the file at a path. The case of the extension counts. -/
def ofPath? (path : String) : Option Format :=
  (Path.extension? path).bind fun extension =>
    all.find? fun format => format.extensions.contains extension

/-- A value as the settings of a file hold it: whole numbers of more than 64 bits with a sign are
rounded. -/
def ofJson : Json → Json
  | .integer n => if n < 0x8000000000000000 then .integer n else .decimal (Number.ofInt n)
  | v => v

/-- The members of an object. -/
def members? : Json → Option (List (String × Json))
  | .object members => some members
  | _ => none

/-- The names and values of a text in some format, if it holds a table. -/
def pairs? (format : Format) (text : String) : Option (List (String × Json)) :=
  match format with
  | toml => Toml.read? text
  | json =>
    (Json.read text.toList).toOption.bind fun v =>
      (members? v).map fun members => members.map fun m => (m.1, ofJson m.2)
  | yaml => (Yaml.read? text).bind members?
  | ini => Ini.read? text
  | ron => (Ron.read? text).bind members?
  | json5 => (Json5.read? text).bind members?

/-- A text without the mark that may start it and tells its encoding. -/
def withoutMark (text : String) : String :=
  match text.toList with
  | '\ufeff' :: cs => String.ofList cs
  | _ => text

/-- The layer of settings that a text in some format is. -/
def read (format : Format) (text : String) : Except Fault Layer :=
  match format.pairs? (withoutMark text) with
  | none => .error .malformed
  | some pairs => .ok (.ofPairs pairs)

end Format

/-- The files that a path may stand for when there is none at the path itself: one with an extension
added that tells a format. -/
def candidates (path : String) : List (String × Format) :=
  Format.all.flatMap fun format =>
    format.extensions.filterMap fun extension =>
      (Path.withExtension? path extension).map (·, format)

/-- The settings that a layer for the environment gives, over a layer for a file if there is one. -/
def ofLayers (file : Option Layer) (environment : Layer) : Except Fault Settings :=
  (environment.overlay (file.getD [])).settings

end RecordQuery.Settings
