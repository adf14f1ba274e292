import RecordQuery.Document.Layout
import RecordQuery.Number.Whole
import RecordQuery.Path
import RecordQuery.Settings.Environment
import RecordQuery.Text.Lower

set_option autoImplicit false

/-!
# Arguments

The arguments of the command are switches, and parameters with one value each. A parameter takes
its value from the same argument, behind an equals sign or a letter, or from the next one. Nothing
may be given twice.

A value from the next argument is looked at only when another switch or parameter begins, or at the
end. So of an unusable value and an unknown argument right behind it, the latter is reported.

## Main definitions

* `RecordQuery.Arguments` — what the arguments say.
* `RecordQuery.Arguments.Fault` — what can be wrong with arguments.
* `RecordQuery.Arguments.Draft` — what the arguments so far say.
* `RecordQuery.Arguments.read` — what a list of arguments says.
* `RecordQuery.Arguments.resolvedLayout?` — the layout of the output.
* `RecordQuery.Arguments.override` — settings with what the arguments say about them.
-/

namespace RecordQuery

/-- What the arguments say. -/
structure Arguments where
  query : String
  input : String := "-"
  output : String := "-"
  configuration : Option String := none
  caseSensitive : Bool := false
  preferPatterns : Bool := false
  dateKey : Option String := none
  threads : Option Nat := none
  verbose : Bool := false
  layout : Option Layout := none
deriving DecidableEq, Repr

namespace Arguments

/-! ## Switches and parameters -/

/-- A switch, which is given or not. -/
inductive Switch where
  | caseSensitive
  | preferPatterns
  | verbose
  | help
  | version
deriving DecidableEq, Repr

/-- A parameter, which has a value. -/
inductive Parameter where
  | query
  | input
  | output
  | configuration
  | dateKey
  | threads
  | layout
deriving DecidableEq, Repr

/-- What an argument can begin. -/
inductive Part where
  | switch (s : Switch)
  | parameter (p : Parameter)
deriving DecidableEq, Repr

/-- The switches and parameters with their names, and their letters if they have one. -/
def parts : List (String × Option Char × Part) :=
  [("query", some 'q', .parameter .query),
    ("input", some 'i', .parameter .input),
    ("output", some 'o', .parameter .output),
    ("config", some 'c', .parameter .configuration),
    ("case-sensitive", none, .switch .caseSensitive),
    ("prefer-regex", none, .switch .preferPatterns),
    ("date-key", none, .parameter .dateKey),
    ("threads", some 't', .parameter .threads),
    ("verbose", some 'v', .switch .verbose),
    ("format", none, .parameter .layout),
    ("help", some 'h', .switch .help),
    ("version", some 'V', .switch .version)]

/-- The switch or parameter with a name. -/
def ofName? (name : String) : Option Part := (parts.find? fun p => p.1 == name).map (·.2.2)

/-- The switch or parameter with a letter. -/
def ofLetter? (c : Char) : Option Part := (parts.find? fun p => p.2.1 == some c).map (·.2.2)

/-- What is wrong with arguments, or why they ask for something else than a run. -/
inductive Fault where
  /-- An argument is neither a switch or parameter nor a value. -/
  | unknown
  /-- A switch or parameter is given twice. -/
  | repeated
  /-- A parameter has no value, or one that is empty or not among those allowed. -/
  | invalidValue
  /-- A value is not a number. -/
  | notANumber
  /-- A switch has a value. -/
  | switchWithValue
  /-- There is no query. -/
  | missingQuery
  /-- A description of the arguments is asked for. -/
  | helpAsked
  /-- The version is asked for. -/
  | versionAsked
deriving DecidableEq, Repr

/-! ## Reading -/

/-- What the arguments so far say. -/
structure Draft where
  query : Option String := none
  input : Option String := none
  output : Option String := none
  configuration : Option String := none
  caseSensitive : Bool := false
  preferPatterns : Bool := false
  dateKey : Option String := none
  threads : Option Nat := none
  verbose : Bool := false
  layout : Option Layout := none
  /-- The parameter that began last, if its value is another argument, and that value once it has
  come. -/
  pending : Option (Parameter × Option String) := none
  /-- Only values may follow. -/
  valuesOnly : Bool := false
deriving DecidableEq, Repr

namespace Draft

/-- Whether a parameter has been given. -/
def has (d : Draft) : Parameter → Bool
  | .query => d.query.isSome
  | .input => d.input.isSome
  | .output => d.output.isSome
  | .configuration => d.configuration.isSome
  | .dateKey => d.dateKey.isSome
  | .threads => d.threads.isSome
  | .layout => d.layout.isSome

/-- A number of threads: digits, with an optional plus, that fit 64 bits. -/
def threads? (value : String) : Option Nat :=
  let digits := match value.toList with
    | '+' :: cs => cs
    | cs => cs
  if digits.isEmpty || !digits.all isDigit then none
  else if digitsValue digits ≤ 0xFFFFFFFFFFFFFFFF then some (digitsValue digits) else none

/-- A path, which is not empty. -/
def path (value : String) : Except Fault (Option String) :=
  if value = "" then .error .invalidValue else .ok (some value)

/-- The draft with a parameter's value. -/
def give (d : Draft) (p : Parameter) (value : String) : Except Fault Draft :=
  if d.has p then .error .repeated
  else match p with
    | .query => .ok { d with query := some value }
    | .dateKey => .ok { d with dateKey := some value }
    | .input => (path value).map fun v => { d with input := v }
    | .output => (path value).map fun v => { d with output := v }
    | .configuration => (path value).map fun v => { d with configuration := v }
    | .threads =>
      match threads? value with
      | none => .error .notANumber
      | some n => .ok { d with threads := some n }
    | .layout =>
      match Layout.ofName? value with
      | none => .error .invalidValue
      | some layout => .ok { d with layout := some layout }

/-- The draft with a switch given. -/
def flip (d : Draft) : Switch → Except Fault Draft
  | .caseSensitive =>
    if d.caseSensitive then .error .repeated else .ok { d with caseSensitive := true }
  | .preferPatterns =>
    if d.preferPatterns then .error .repeated else .ok { d with preferPatterns := true }
  | .verbose => if d.verbose then .error .repeated else .ok { d with verbose := true }
  | .help => .error .helpAsked
  | .version => .error .versionAsked

/-- The draft once the parameter that began last has its value. -/
def settle (d : Draft) : Except Fault Draft :=
  match d.pending with
  | none => .ok d
  | some (_, none) => .error .invalidValue
  | some (p, some value) => { d with pending := none }.give p value

/-- The draft behind a name and what follows it behind an equals sign. -/
def takeName (d : Draft) (name : String) (value : Option String) : Except Fault Draft :=
  match ofName? name with
  | none => .error .unknown
  | some part =>
    match d.settle with
    | .error fault => .error fault
    | .ok d =>
      match part, value with
      | .switch s, none => d.flip s
      | .switch _, some _ => .error .switchWithValue
      | .parameter p, none => .ok { d with pending := some (p, none) }
      | .parameter p, some value => d.give p value

/-- A value behind a letter, without an equals sign in front. -/
def valueBehind : List Char → String
  | '=' :: cs => String.ofList cs
  | cs => String.ofList cs

/-- The draft behind a hyphen and letters. The letters behind that of a parameter are its value. -/
def takeLetters (d : Draft) : List Char → Except Fault Draft
  | [] => .ok d
  | c :: cs =>
    match ofLetter? c with
    | none => .error .unknown
    | some part =>
      match d.settle with
      | .error fault => .error fault
      | .ok d =>
        match part with
        | .switch s =>
          match d.flip s with
          | .error fault => .error fault
          | .ok d => takeLetters d cs
        | .parameter p =>
          if cs.isEmpty then .ok { d with pending := some (p, none) }
          else d.give p (valueBehind cs)

/-- The draft behind an argument that begins no switch or parameter. -/
def takeValue (d : Draft) (value : String) : Except Fault Draft :=
  match d.pending with
  | some (p, none) => .ok { d with pending := some (p, some value) }
  | _ => .error .unknown

/-- The draft behind one more argument. The value of the query may look like anything, other values
may not look like switches and parameters. -/
def take (d : Draft) (argument : String) : Except Fault Draft :=
  if d.valuesOnly then .error .unknown
  else if d.pending = some (.query, none) then d.takeValue argument
  else match argument.toList with
    | ['-', '-'] => .ok { d with valuesOnly := true }
    | '-' :: '-' :: cs =>
      let name := String.ofList (cs.takeWhile (· ≠ '='))
      match cs.dropWhile (· ≠ '=') with
      | [] => d.takeName name none
      | _ :: value => d.takeName name (some (String.ofList value))
    | '-' :: c :: cs => d.takeLetters (c :: cs)
    | _ => d.takeValue argument

/-- The draft behind all arguments. -/
def takeAll (d : Draft) : List String → Except Fault Draft
  | [] => d.settle
  | argument :: rest =>
    match d.take argument with
    | .error fault => .error fault
    | .ok d => takeAll d rest

/-- What a draft says once all arguments are read; the environment may name a file of settings. -/
def finish (d : Draft) (environment : Environment) : Except Fault Arguments :=
  let configuration : Except Fault (Option String) :=
    match d.configuration, environment.configuration? with
    | some path, _ => .ok (some path)
    | none, none => .ok none
    | none, some value => path value
  match configuration with
  | .error fault => .error fault
  | .ok configuration =>
    match d.query with
    | none => .error .missingQuery
    | some query => .ok {
        query := query
        input := d.input.getD "-"
        output := d.output.getD "-"
        configuration := configuration
        caseSensitive := d.caseSensitive
        preferPatterns := d.preferPatterns
        dateKey := d.dateKey
        threads := d.threads
        verbose := d.verbose
        layout := d.layout }

end Draft

/-- What a list of arguments says in an environment. -/
def read (environment : Environment) (arguments : List String) : Except Fault Arguments :=
  match Draft.takeAll {} arguments with
  | .error fault => .error fault
  | .ok d => d.finish environment

/-! ## What follows from them -/

/-- The layout of the output: as given, else lines on the standard stream, else the one that the
extension of the output file tells. -/
def resolvedLayout? (a : Arguments) : Option Layout :=
  match a.layout with
  | some layout => some layout
  | none =>
    if Path.isStream a.output then some .lines
    else (Path.extension? a.output).bind fun extension => Layout.ofName? (Text.lower extension)

/-- Settings with what the arguments say about them. -/
def override (a : Arguments) (s : Settings) : Settings where
  caseSensitive := a.caseSensitive || s.caseSensitive
  preferPatterns := a.preferPatterns || s.preferPatterns
  dateKey := a.dateKey.getD s.dateKey

end Arguments

end RecordQuery
