import RecordQuery.Calendar.Instant

set_option autoImplicit false

/-!
# The surroundings of a run

What a run needs from its surroundings: files, the standard streams and a clock. A run is the same
in any surroundings that offer these.

## Main definitions

* `RecordQuery.SystemFault` — why a file cannot be read or written.
* `RecordQuery.Host` — files, streams and a clock.
-/

namespace RecordQuery

/-- Why a file cannot be read or written. -/
inductive SystemFault where
  | notFound
  | notADirectory
  | isADirectory
  | notText
  | other (description : String)
deriving DecidableEq, Repr

/-- The wording of a fault. -/
def SystemFault.message : SystemFault → String
  | notFound => "No such file or directory (os error 2)"
  | notADirectory => "Not a directory (os error 20)"
  | isADirectory => "Is a directory (os error 21)"
  | notText => "stream did not contain valid UTF-8"
  | other description => description

/-- Files, streams and a clock. -/
structure Host (m : Type → Type) where
  /-- Whether there is a file at a path. -/
  isFile : String → m Bool
  /-- The text of the file at a path. -/
  read : String → m (Except SystemFault String)
  /-- Makes a text the content of the file at a path. -/
  write : String → String → m (Except SystemFault Unit)
  /-- The text of the standard input. -/
  input : m (Except SystemFault String)
  /-- Adds a text to the standard output. -/
  print : String → m Unit
  /-- Tells a warning, which is no output. -/
  warn : String → m Unit
  /-- The present moment. -/
  now : m Instant

end RecordQuery
