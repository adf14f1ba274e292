import RecordQuery.Entries
import RecordQuery.Json.Basic
import RecordQuery.Number.Text
import RecordQuery.Settings.Option
import RecordQuery.Text.Ascii
import RecordQuery.Text.Lower

set_option autoImplicit false

/-!
# Layers of settings

Settings come from several sources, each a layer of values under names. Layers lie over each other
name by name: a name has the value of the uppermost layer that gives it one. Only what results is
read as options, and there a value of another kind is taken for what it says: a number for whether
it is zero, a word for a truth value, a number for its text.

## Main definitions

* `RecordQuery.Settings.truth?`, `RecordQuery.Settings.text?` — what a value says.
* `RecordQuery.Settings.Layer` — values under names.
* `RecordQuery.Settings.Layer.ofPairs` — the layer of a list of names and values.
* `RecordQuery.Settings.Layer.overlay` — one layer over another.
* `RecordQuery.Settings.Layer.settings` — the settings that a layer gives.
-/

namespace RecordQuery.Settings

/-! ## Values as options -/

/-- A word for a truth value, in any case. -/
def truthOfWord? (word : String) : Option Bool :=
  let word := Text.lower word
  if ["1", "true", "on", "yes"].contains word then some true
  else if ["0", "false", "off", "no"].contains word then some false
  else none

/-- A value as a truth value. -/
def truth? : Json → Option Bool
  | .bool b => some b
  | .integer n => some (n != 0)
  | .decimal x => some !x.isZero
  | .string s => truthOfWord? s
  | .null => none
  | .array _ => none
  | .object _ => none

/-- A value as text. -/
def text? : Json → Option String
  | .string s => some s
  | .bool b => some (if b then "true" else "false")
  | .integer n => some (toString n)
  | .decimal x => some x.text
  | .null => none
  | .array _ => none
  | .object _ => none

/-! ## Names that lead into a value -/

/-- Where a name has got to that may lead into a value: through points to names, and through
brackets to places. -/
inductive Trail where
  | nameStart
  | inName
  | placeStart
  | signed
  | inPlace
  | placeEnd
  | afterPlace
  | astray
deriving DecidableEq, Repr

namespace Trail

/-- Whether a character may stand in one of the names on the way. -/
def isNameChar (c : Char) : Bool := c.isAlphanum || c = '_' || c = '-'

/-- Where one more character leads. -/
def step (trail : Trail) (c : Char) : Trail :=
  let onward := if c = '.' then nameStart else if c = '[' then placeStart else astray
  let blank := c = ' ' ∨ c = '\t'
  match trail with
  | nameStart => if isNameChar c then inName else astray
  | inName => if isNameChar c then inName else onward
  | placeStart =>
    if isDigit c then inPlace else if c = '-' then signed else if blank then placeStart else astray
  | signed => if isDigit c then inPlace else astray
  | inPlace =>
    if isDigit c then inPlace else if c = ']' then afterPlace
    else if blank then placeEnd else astray
  | placeEnd => if c = ']' then afterPlace else if blank then placeEnd else astray
  | afterPlace => onward
  | astray => astray

/-- Where a name leads. -/
def ofName (name : String) : Trail := name.toList.foldl step nameStart

end Trail

/-- The name under which a value is put, and the value that stands there then. A name that leads
into a value makes that value a composite one, which no option takes. -/
def placed (name : String) (value : Json) : String × Json :=
  let root := name.toList.takeWhile Trail.isNameChar
  let rest := name.toList.dropWhile Trail.isNameChar
  if rest = [] then (name, value)
  else match Trail.ofName name with
    | .inName => (String.ofList root, .object [(String.ofList rest, value)])
    | .afterPlace => (String.ofList root, .object [(String.ofList rest, value)])
    | _ => (name, value)

/-! ## Layers -/

/-- Values under names. -/
abbrev Layer := Entries Json

namespace Layer

/-- The layer of a list of names and values. -/
def ofPairs (pairs : List (String × Json)) : Layer :=
  Entries.ofList (pairs.map fun p => placed p.1 p.2)

/-- One layer over another. -/
def overlay (upper lower : Layer) : Layer :=
  upper.foldl (fun layer p => Entries.insert p.1 p.2 layer) lower

/-- The settings that a layer gives. -/
def settings (layer : Layer) : Except Fault Settings := ofNamed truth? text? layer

end Layer

end RecordQuery.Settings
