import RecordQuery.Command.Host
import RecordQuery.Entries
import RecordQuery.Text.Split

set_option autoImplicit false

/-!
# Workspaces

A workspace holds all that a run can read or change: the files of one directory and those below it,
what the standard input holds, and what has been printed and warned of. Other files do not exist for it.

## Main definitions

* `RecordQuery.Workspace` — files, streams and a clock that stands still.
* `RecordQuery.Workspace.locate` — what a path leads to.
* `RecordQuery.Workspace.host` — a workspace as the surroundings of a run.
-/

namespace RecordQuery

/-- Files, streams and a clock that stands still. -/
structure Workspace where
  /-- The texts of the files, under their names from the directory. -/
  files : Entries String
  input : String := ""
  printed : String := ""
  warnings : List String := []
  now : Instant

namespace Workspace

/-- What a path leads to. -/
inductive Spot where
  /-- A directory. -/
  | directory
  /-- A file with its name and text. -/
  | file (name text : String)
  /-- A place where a file of this name could be. -/
  | vacant (name : String)
  /-- A place where a directory could be, but no file. -/
  | vacantDirectory
  /-- No place at all. -/
  | nowhere (fault : SystemFault)
deriving DecidableEq, Repr

/-- The name of a file in the directory that some steps lead to. -/
def nameOf (steps : List String) : String := String.intercalate "/" steps

/-- Whether some steps lead to a directory: a file is below it. -/
def isDirectory (files : Entries String) (steps : List String) : Bool :=
  files.any fun f => (nameOf steps ++ "/").toList.isPrefixOf f.1.toList

/-- What the rest of a path leads to from the directory that some steps lead to. -/
def walk (files : Entries String) (steps : List String) : List String → Spot
  | [] => .directory
  | part :: rest =>
    if part = "" ∨ part = "." then walk files steps rest
    else if part = ".." then walk files steps.dropLast rest
    else if isDirectory files (steps ++ [part]) then walk files (steps ++ [part]) rest
    else match Entries.get? files (nameOf (steps ++ [part])) with
      | some text =>
        if rest.isEmpty then .file (nameOf (steps ++ [part])) text else .nowhere .notADirectory
      | none =>
        if rest.isEmpty then .vacant (nameOf (steps ++ [part]))
        else if rest.all (· = "") then .vacantDirectory
        else .nowhere .notFound

/-- What a path leads to. -/
def locate (w : Workspace) (path : String) : Spot :=
  if path.toList.head? = some '/' then .nowhere .notFound
  else walk w.files [] ((Text.split '/' path.toList).map String.ofList)

/-- The text of the file at a path. -/
def read (w : Workspace) (path : String) : Except SystemFault String :=
  match w.locate path with
  | .directory => .error .isADirectory
  | .file _ text => .ok text
  | .vacant _ => .error .notFound
  | .vacantDirectory => .error .notFound
  | .nowhere fault => .error fault

/-- The workspace once the file at a path has a text. -/
def write (w : Workspace) (path text : String) : Except SystemFault Workspace :=
  match w.locate path with
  | .directory => .error .isADirectory
  | .file name _ => .ok { w with files := Entries.insert name text w.files }
  | .vacant name => .ok { w with files := Entries.insert name text w.files }
  | .vacantDirectory => .error .isADirectory
  | .nowhere fault => .error fault

/-- Whether there is a file at a path. -/
def isFile (w : Workspace) (path : String) : Bool :=
  match w.locate path with
  | .file _ _ => true
  | _ => false

/-- A workspace as the surroundings of a run. -/
def host : Host (StateM Workspace) where
  isFile path := fun w => (w.isFile path, w)
  read path := fun w => (w.read path, w)
  write path text := fun w =>
    match w.write path text with
    | .error fault => (.error fault, w)
    | .ok w => (.ok (), w)
  input := fun w => (.ok w.input, w)
  print text := fun w => ((), { w with printed := w.printed ++ text })
  warn text := fun w => ((), { w with warnings := w.warnings ++ [text] })
  now := fun w => (w.now, w)

/-- The files that are new or have another text than before. -/
def changes (before after : Workspace) : Entries String :=
  after.files.filter fun f => Entries.get? before.files f.1 != some f.2

end Workspace

end RecordQuery
