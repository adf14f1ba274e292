import Mathlib.Data.List.Basic
import RecordQuery.Command.Run
import RecordQuery.Command.Workspace

set_option autoImplicit false

/-!
# Worlds

A world is surroundings in which a run can be watched: from outside one sees a scene, which holds
the files and what has been printed. Whoever looks changes nothing, a file that cannot be created
stays as it was, and writing changes one file. Nothing else is said of it, so that paths may lead
to files in any way, and files may hold anything.

## Main definitions

* `RecordQuery.World` — surroundings in which a run can be watched.
* `RecordQuery.World.Looks` — an action that answers and changes nothing.
* `RecordQuery.Workspace.world` — a workspace as a world.

## Main results

* `RecordQuery.World.Looks.bind` — a look after a look is one.
* `RecordQuery.World.exists_looks_loadSettings`, `RecordQuery.World.looks_readItems` — settings and
  input are looked at.
-/

namespace RecordQuery

/-- Surroundings with states `σ`, in which a run can be watched. -/
structure World (σ : Type) where
  host : Host (StateM σ)
  /-- What is seen from outside: all but warnings and the time. -/
  Scene : Type
  /-- Where a file can be, whatever the paths that lead there. -/
  Place : Type
  /-- What a file can hold, texts and other things. -/
  Content : Type
  scene : σ → Scene
  /-- The contents of the files. -/
  files : Scene → Place → Option Content
  /-- What has been printed. -/
  printed : Scene → String
  /-- The place that a path leads to. -/
  place? : Scene → String → Option Place
  /-- The content that a text is. -/
  ofText : String → Content
  isFile : Scene → String → Bool
  read : Scene → String → Except SystemFault String
  input : Scene → Except SystemFault String
  /-- Why a file cannot be created at a path, or emptied if there is one. -/
  creationFault? : Scene → String → Option SystemFault
  isFile_run : ∀ s path, ∃ s', (host.isFile path).run s = (isFile (scene s) path, s') ∧
    scene s' = scene s
  read_run : ∀ s path, ∃ s', (host.read path).run s = (read (scene s) path, s') ∧
    scene s' = scene s
  input_run : ∀ s, ∃ s', host.input.run s = (input (scene s), s') ∧ scene s' = scene s
  now_run : ∀ s, scene (host.now.run s).2 = scene s
  warn_run : ∀ s text, scene ((host.warn text).run s).2 = scene s
  /-- What can be read at a path is the content of the file that it leads to. -/
  files_of_read : ∀ c path text, read c path = .ok text →
    ∃ place, place? c path = some place ∧ files c place = some (ofText text)
  /-- Printing adds to what has been printed and changes no file. -/
  print_run : ∀ s text, files (scene ((host.print text).run s).2) = files (scene s) ∧
    printed (scene ((host.print text).run s).2) = printed (scene s) ++ text
  /-- Where no file can be created, nothing changes. -/
  write_fault : ∀ s path text fault, creationFault? (scene s) path = some fault →
    ∃ s', (host.write path text).run s = (.error fault, s') ∧ scene s' = scene s
  /-- Where one can, it holds the text, and no other file changes. -/
  write_done : ∀ s path text, creationFault? (scene s) path = none →
    ∃ s' place, (host.write path text).run s = (.ok (), s') ∧
      printed (scene s') = printed (scene s) ∧ place? (scene s) path = some place ∧
      files (scene s') place = some (ofText text) ∧
      ∀ other, other ≠ place → files (scene s') other = files (scene s) other

namespace World

variable {σ α β : Type} {W : World σ} {c : W.Scene}

/-! ## Looking -/

/-- In every state that shows the scene `c`, an action answers `a` and the scene stays. -/
def Looks (W : World σ) (c : W.Scene) (x : StateM σ α) (a : α) : Prop :=
  ∀ s, W.scene s = c → ∃ s', x.run s = (a, s') ∧ W.scene s' = c

/-- Doing nothing is a look. -/
theorem Looks.pure (a : α) : W.Looks c (pure a) a := fun s hs => ⟨s, rfl, hs⟩

/-- A look after a look is one. -/
theorem Looks.bind {x : StateM σ α} {f : α → StateM σ β} {a : α} {b : β} (hx : W.Looks c x a)
    (hf : W.Looks c (f a) b) : W.Looks c (x >>= f) b := by
  intro s hs
  obtain ⟨s', hrun, hs'⟩ := hx s hs
  obtain ⟨s'', hrun', hs''⟩ := hf s' hs'
  exact ⟨s'', by rw [StateT.run_bind, hrun]; exact hrun', hs''⟩

/-- A look with its answer changed. -/
theorem Looks.map {x : StateM σ α} {a : α} (hx : W.Looks c x a) (f : α → β) :
    W.Looks c (f <$> x) (f a) := by
  intro s hs
  obtain ⟨s', hrun, hs'⟩ := hx s hs
  exact ⟨s', by rw [StateT.run_map, hrun]; rfl, hs'⟩

/-- The answer of a look in a state that shows the scene. -/
theorem Looks.answer_eq {x : StateM σ α} {a : α} (hx : W.Looks c x a) {s : σ} (hs : W.scene s = c) :
    (x.run s).1 = a := by
  obtain ⟨s', hrun, -⟩ := hx s hs
  rw [hrun]

/-- The scene after a look. -/
theorem Looks.scene_eq {x : StateM σ α} {a : α} (hx : W.Looks c x a) {s : σ} (hs : W.scene s = c) :
    W.scene (x.run s).2 = c := by
  obtain ⟨s', hrun, hs'⟩ := hx s hs
  rw [hrun]
  exact hs'

/-- What comes after a look starts from its answer and the state behind it. -/
theorem Looks.run_bind {x : StateM σ α} {a : α} (hx : W.Looks c x a) {s : σ} (hs : W.scene s = c)
    (f : α → StateM σ β) : (x >>= f).run s = (f a).run (x.run s).2 := by
  obtain ⟨s', hrun, -⟩ := hx s hs
  rw [StateT.run_bind, hrun]
  rfl

theorem looks_isFile (path : String) : W.Looks c (W.host.isFile path) (W.isFile c path) := by
  rintro s rfl
  exact W.isFile_run s path

theorem looks_read (path : String) : W.Looks c (W.host.read path) (W.read c path) := by
  rintro s rfl
  exact W.read_run s path

theorem looks_input : W.Looks c W.host.input (W.input c) := by
  rintro s rfl
  exact W.input_run s

theorem looks_warn (text : String) : W.Looks c (W.host.warn text) () := by
  rintro s rfl
  exact ⟨_, rfl, W.warn_run s text⟩

/-- The time may be any; what comes after asking for it is a look if it is one at every time. -/
theorem looks_now_bind {f : Instant → StateM σ β} {b : β} (hf : ∀ now, W.Looks c (f now) b) :
    W.Looks c (W.host.now >>= f) b := by
  rintro s rfl
  exact hf (W.host.now.run s).1 (W.host.now.run s).2 (W.now_run s)

/-- Warnings are no part of the scene. -/
theorem looks_warnAll (warnings : List Warning) :
    W.Looks c (Run.warnAll W.host warnings) () := by
  induction warnings with
  | nil => exact .pure ()
  | cons warning rest ih => exact (looks_warn warning.message).bind ih

/-! ## Settings and input -/

/-- Files are looked for. -/
theorem exists_looks_firstFile (files : List (String × Settings.Format)) :
    ∃ found, W.Looks c (Run.firstFile W.host files) found := by
  induction files with
  | nil => exact ⟨none, .pure none⟩
  | cons file rest ih =>
    obtain ⟨found, hrest⟩ := ih
    cases hfile : W.isFile c file.1 with
    | true => exact ⟨some file, (looks_isFile file.1).bind (by rw [hfile]; exact .pure _)⟩
    | false => exact ⟨found, (looks_isFile file.1).bind (by rw [hfile]; exact hrest)⟩

/-- A file of settings is looked for. -/
theorem exists_looks_findFile (path : String) :
    ∃ found, W.Looks c (Run.findFile W.host path) found := by
  obtain ⟨found, hfound⟩ := exists_looks_firstFile (c := c) (Settings.candidates path)
  cases hfile : W.isFile c path with
  | true => exact ⟨_, (looks_isFile path).bind (by rw [hfile]; exact .pure _)⟩
  | false => exact ⟨found, (looks_isFile path).bind (by rw [hfile]; exact hfound)⟩

/-- A file of settings is looked at. -/
theorem exists_looks_loadFile (path : String) :
    ∃ layer, W.Looks c (Run.loadFile W.host path) layer := by
  obtain ⟨found, hfound⟩ := exists_looks_findFile (c := c) path
  cases found with
  | none => exact ⟨_, hfound.bind (.pure _)⟩
  | some file =>
    cases hread : W.read c file.1 with
    | error fault =>
      exact ⟨_, hfound.bind ((looks_read file.1).bind (by rw [hread]; exact .pure _))⟩
    | ok text => exact ⟨_, hfound.bind ((looks_read file.1).bind (by rw [hread]; exact .pure _))⟩

/-- The settings are looked at. -/
theorem exists_looks_loadSettings (environment : Environment) (a : Arguments) :
    ∃ settings, W.Looks c (Run.loadSettings W.host environment a) settings := by
  unfold Run.loadSettings
  cases a.configuration with
  | none => exact ⟨_, (Looks.pure _).bind (.pure _)⟩
  | some path =>
    obtain ⟨layer, hlayer⟩ := exists_looks_loadFile (c := c) path
    cases layer with
    | error fault => exact ⟨_, (hlayer.map _).bind (.pure _)⟩
    | ok layer => exact ⟨_, (hlayer.map _).bind (.pure _)⟩

/-- The text that a run takes from the standard input or from the file at a path. -/
def taken (W : World σ) (c : W.Scene) (path : String) : Except SystemFault String :=
  if Path.isStream path then W.input c else W.read c path

/-- The input is looked at. -/
theorem looks_readItems (path : String) :
    W.Looks c (Run.readItems W.host path) (match W.taken c path with
      | .error fault => .error (.input path fault)
      | .ok content => (Document.read content).mapError .document) := by
  unfold Run.readItems taken
  by_cases hstream : Path.isStream path = true
  · simp only [if_pos hstream]
    refine looks_input.bind ?_
    cases W.input c <;> exact .pure _
  · simp only [if_neg hstream]
    refine (looks_read path).bind ?_
    cases W.read c path <;> exact .pure _

end World

/-! ## Workspaces -/

namespace Workspace

/-- The place of the file that a path leads to, or where a file of that name could be. -/
def Spot.name? : Spot → Option String
  | .file name _ => some name
  | .vacant name => some name
  | .directory | .vacantDirectory | .nowhere _ => none

/-- Why no file can be created at a spot. -/
def Spot.creationFault? : Spot → Option SystemFault
  | .file _ _ | .vacant _ => none
  | .directory | .vacantDirectory => some .isADirectory
  | .nowhere fault => some fault

/-- A file that a path leads to holds its text. -/
theorem get?_of_walk_eq {files : Entries String} {steps parts : List String} {name text : String}
    (h : walk files steps parts = .file name text) : files.get? name = some text := by
  fun_induction walk files steps parts with
  | case1 => cases h
  | case2 _ _ _ _ ih => exact ih h
  | case3 _ _ _ ih => exact ih h
  | case4 _ _ _ _ _ _ ih => exact ih h
  | case5 _ _ _ _ _ _ _ hget =>
    cases h
    exact hget
  | case6 | case7 | case8 | case9 => cases h

/-- What can be read at a path is the text of a file there. -/
theorem exists_get?_of_read {w : Workspace} {path text : String} (h : w.read path = .ok text) :
    ∃ name, (w.locate path).name? = some name ∧ w.files.get? name = some text := by
  unfold read at h
  cases hspot : w.locate path with
  | file name held =>
    rw [hspot] at h
    cases h
    refine ⟨name, rfl, ?_⟩
    unfold locate at hspot
    split at hspot
    · cases hspot
    · exact get?_of_walk_eq hspot
  | directory | vacant | vacantDirectory | nowhere => rw [hspot] at h; cases h

/-- Where no file can be created, none is written. -/
theorem write_of_creationFault? {w : Workspace} {path : String} {fault : SystemFault}
    (h : (w.locate path).creationFault? = some fault) (text : String) :
    w.write path text = .error fault := by
  unfold write
  cases hspot : w.locate path with
  | directory | vacantDirectory | nowhere => rw [hspot] at h; cases h; rfl
  | file | vacant => rw [hspot] at h; cases h

/-- Where a file can be created, it is given the text. -/
theorem exists_write_eq_ok {w : Workspace} {path : String}
    (h : (w.locate path).creationFault? = none) (text : String) :
    ∃ name, (w.locate path).name? = some name ∧
      w.write path text = .ok { w with files := w.files.insert name text } := by
  unfold write
  cases hspot : w.locate path with
  | file name held => exact ⟨name, rfl, rfl⟩
  | vacant name => exact ⟨name, rfl, rfl⟩
  | directory | vacantDirectory | nowhere => rw [hspot] at h; cases h

/-- Writing in a workspace, as a change of its state. -/
theorem run_write (w : Workspace) (path text : String) :
    (host.write path text).run w = match w.write path text with
      | .error fault => (.error fault, w)
      | .ok w' => (.ok (), w') := rfl

/-- A workspace as a world. Its warnings are not seen. -/
def world : World Workspace where
  host := host
  Scene := Workspace
  Place := String
  Content := String
  scene w := { w with warnings := [] }
  files c := c.files.get?
  printed := printed
  place? c path := (c.locate path).name?
  ofText := id
  isFile := isFile
  read := read
  input c := .ok c.input
  creationFault? c path := (c.locate path).creationFault?
  isFile_run s path := ⟨s, rfl, rfl⟩
  read_run s path := ⟨s, rfl, rfl⟩
  input_run s := ⟨s, rfl, rfl⟩
  now_run _ := rfl
  warn_run _ _ := rfl
  files_of_read c path text h := exists_get?_of_read h
  print_run _ _ := ⟨rfl, rfl⟩
  write_fault s path text fault h := by
    have hwrite := write_of_creationFault? (w := s) h text
    exact ⟨s, by rw [run_write, hwrite], rfl⟩
  write_done s path text h := by
    obtain ⟨name, hname, hwrite⟩ := exists_write_eq_ok (w := s) h text
    refine ⟨{ s with files := s.files.insert name text }, name, by rw [run_write, hwrite], rfl,
      hname,
      ?_, fun other hother => ?_⟩
    · simp [Entries.get?_insert]
    · simp [Entries.get?_insert, Ne.symm hother]

end Workspace

end RecordQuery
