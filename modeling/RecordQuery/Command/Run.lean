import RecordQuery.Command.Arguments
import RecordQuery.Command.Host
import RecordQuery.Document.Selection
import RecordQuery.Settings.File
import RecordQuery.Text.Quoted

set_option autoImplicit false

/-!
# Runs

A run reads its settings, its query and its input, and writes what the query selects. The first
stage that fails ends it, and nothing is written before all others have succeeded.

## Main definitions

* `RecordQuery.Run.Failure` — what can fail, and how it is reported.
* `RecordQuery.Run.loadSettings` — the settings of a run.
* `RecordQuery.Run.perform` — the stages of a run.
* `RecordQuery.run` — a run with some arguments.
-/

namespace RecordQuery

namespace Run

/-! ## Failures -/

/-- What made a run fail. -/
inductive Failure where
  | settings (fault : Settings.Fault)
  | query (fault : QueryFault)
  /-- Nothing tells the layout of the output. -/
  | layout
  | input (path : String) (fault : SystemFault)
  | document (fault : Document.Fault)
  | output (path : String) (fault : SystemFault)

namespace Failure

/-- The wording of a failure. -/
def message : Failure → String
  | settings fault => fault.message
  | query fault => fault.message
  | layout => "CLI: Could not detect output format from extension; use --format"
  | input path _ =>
    if Path.isStream path then "Input: Failed to read stdin"
    else "Input: Failed to read " ++ Text.quotePath path
  | document fault => fault.message
  | output path _ => "Sink: Failed to create " ++ Text.quotePath path

/-- The wording of what caused a failure, if it is another fault that is worth telling. -/
def cause? : Failure → Option String
  | settings _ => none
  | query _ => none
  | layout => none
  | input _ fault => some fault.message
  | document fault => fault.reason?
  | output _ fault => some fault.message

/-- A failure with its cause on a line of its own. -/
def report (f : Failure) : String :=
  match f.cause? with
  | none => f.message
  | some cause => f.message ++ "\n\nCaused by:\n    " ++ cause

end Failure

/-- What a run comes to. -/
inductive Outcome where
  | finished
  | failed (failure : Failure)
  | refused (fault : Arguments.Fault)

/-- The status that a run ends with. -/
def Outcome.status : Outcome → Nat
  | finished => 0
  | failed _ => 1
  | refused .helpAsked => 0
  | refused .versionAsked => 0
  | refused _ => 2

/-! ## Stages -/

variable {m : Type → Type} [Monad m]

/-- The first of some files that is there. -/
def firstFile (host : Host m) :
    List (String × Settings.Format) → m (Option (String × Settings.Format))
  | [] => pure none
  | file :: rest => do
    if ← host.isFile file.1 then return some file else firstFile host rest

/-- The file of settings that a path stands for. -/
def findFile (host : Host m) (path : String) : m (Option (String × Settings.Format)) := do
  if ← host.isFile path then return (Settings.Format.ofPath? path).map (path, ·)
  else firstFile host (Settings.candidates path)

/-- The layer of settings in the file that a path stands for. -/
def loadFile (host : Host m) (path : String) : m (Except Settings.Fault Settings.Layer) := do
  match ← findFile host path with
  | none => return .error .noFile
  | some (path, format) =>
    match ← host.read path with
    | .error _ => return .error .noFile
    | .ok text => return format.read text

/-- The settings of a run: those of the file that the arguments name, over them those of the
environment, and over these the arguments. -/
def loadSettings (host : Host m) (environment : Environment) (a : Arguments) :
    m (Except Settings.Fault Settings) := do
  let file ← match a.configuration with
    | none => pure (.ok none)
    | some path => (fun layer => layer.map some) <$> loadFile host path
  match file with
  | .error fault => return .error fault
  | .ok file => return (Settings.ofLayers file environment.layer).map a.override

/-- The items of the input: of the file at a path, or of the standard input. -/
def readItems (host : Host m) (path : String) : m (Except Failure (List Item)) := do
  match ← if Path.isStream path then host.input else host.read path with
  | .error fault => return .error (.input path fault)
  | .ok content => return (Document.read content).mapError .document

/-- Writes the output: to the file at a path, or to the standard output. -/
def deliver (host : Host m) (path text : String) : m (Except Failure Unit) := do
  if Path.isStream path then
    host.print text
    return .ok ()
  else return (← host.write path text).mapError (.output path)

/-- Tells warnings, one by one. -/
def warnAll (host : Host m) : List Warning → m Unit
  | [] => pure ()
  | warning :: rest => do
    host.warn warning.message
    warnAll host rest

/-- The stages of a run: settings, query, layout, input and output. The clock is asked once, and the
day before is that of this moment for all records, even if the day ends while they are selected. -/
def perform (host : Host m) (environment : Environment) (a : Arguments) :
    m (Except Failure Unit) := do
  match ← loadSettings host environment a with
  | .error fault => return .error (.settings fault)
  | .ok settings =>
    match Query.compile settings a.query with
    | .error fault => return .error (.query fault)
    | .ok query =>
      warnAll host query.warnings
      match a.resolvedLayout? with
      | none => return .error .layout
      | some layout =>
        match ← readItems host a.input with
        | .error failure => return .error failure
        | .ok items => deliver host a.output (query.writeSelection (← host.now) layout items)

end Run

/-- A run with some arguments in some surroundings. -/
def run {m : Type → Type} [Monad m] (host : Host m) (environment : Environment)
    (arguments : List String) : m Run.Outcome :=
  match Arguments.read environment arguments with
  | .error fault => pure (.refused fault)
  | .ok a => do
    match ← Run.perform host environment a with
    | .error failure => return .failed failure
    | .ok () => return .finished

end RecordQuery
