import RecordQuery.Command.Run
import Std.Time.DateTime.Timestamp

set_option autoImplicit false

/-!
# The command

Runs with the files, the streams, the environment and the clock of the process.

## Main definitions

* `RecordQuery.Run.processHost` — the surroundings of the process.
* `main` — a run in them.
-/

namespace RecordQuery.Run

/-- What the system says is wrong with a file. -/
def systemFault : IO.Error → SystemFault
  | .noFileOrDirectory _ _ _ => .notFound
  | .noSuchThing _ _ _ => .notFound
  | .inappropriateType _ code _ => if code = 20 then .notADirectory else .isADirectory
  | .permissionDenied _ code details =>
    .other (details ++ " (os error " ++ toString code ++ ")")
  | e => .other (toString e)

/-- Bytes as text. -/
def textOf (bytes : ByteArray) : Except SystemFault String :=
  match String.fromUTF8? bytes with
  | some text => .ok text
  | none => .error .notText

/-- An action of the process, whose error is a fault of a file. -/
def attempt {α : Type} (action : IO α) : IO (Except SystemFault α) := do
  match ← action.toBaseIO with
  | .ok a => return .ok a
  | .error e => return .error (systemFault e)

/-- The bytes of the file at a path. -/
def content (path : String) : IO ByteArray := do
  (← IO.FS.Handle.mk path .read).readBinToEnd

/-- The present moment, shown in UTC. -/
def clock : IO Instant := do
  return .ofNanos (← Std.Time.Timestamp.now).toNanosecondsSinceUnixEpoch.val

/-- Whether there is a file at a path: a directory can be opened, but not read. -/
def isFile (path : String) : IO Bool := do
  match ← attempt (IO.FS.Handle.mk path .read) with
  | .error _ => return false
  | .ok handle => return (← attempt (handle.read 1)).toOption.isSome

/-- The surroundings of the process. -/
def processHost : Host IO where
  isFile := isFile
  read path := do return (← attempt (content path)).bind textOf
  write path text := attempt (IO.FS.writeFile path text)
  input := do return (← attempt (content "/dev/stdin")).bind textOf
  print text := do (← IO.getStdout).putStr text
  warn text := IO.eprintln ("WARN " ++ text)
  now := clock

/-- The variable that a text with an equals sign in it sets, and its value. -/
def assigned? (entry : List Char) : Option (String × String) :=
  match entry.dropWhile (· ≠ '=') with
  | [] => none
  | _ :: value => some (String.ofList (entry.takeWhile (· ≠ '=')), String.ofList value)

/-- The variables and values that bytes list, with a zero behind each of them. What is no text is left
out. -/
def assignments (bytes : List UInt8) : List (String × String) :=
  (Text.split 0 bytes).filterMap fun part =>
    (String.fromUTF8? ⟨part.toArray⟩).bind fun entry => assigned? entry.toList

/-- The environment of the process. -/
def processEnvironment : IO Environment := do
  match ← attempt (content "/proc/self/environ") with
  | .error _ => return []
  | .ok bytes => return Entries.ofList (assignments bytes.toList)

end RecordQuery.Run

/-- A run with the arguments of the process. -/
def main (arguments : List String) : IO UInt32 := do
  let environment ← RecordQuery.Run.processEnvironment
  let outcome ← RecordQuery.run RecordQuery.Run.processHost environment arguments
  match outcome with
  | .failed failure => IO.eprintln ("Error: " ++ failure.report)
  | .refused _ => IO.eprintln "Usage: --query <QUERY> [OPTIONS]"
  | .finished => pure ()
  return outcome.status.toUInt32
