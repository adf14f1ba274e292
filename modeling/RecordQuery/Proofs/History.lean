import Mathlib.Data.List.Basic
import Mathlib.Data.List.Induction
import RecordQuery.Session

set_option autoImplicit false

/-!
# Histories of sessions

What a session answers is told by the steps before: its settings, its clock and its records are each
what the steps that concern them have made of them, and a query under a name is the text that was
last compiled under it without a fault, compiled under the settings of that moment. So an answer is
that of a query compiled afresh, and nothing else that happened before has a say in it.

## Main definitions

* `RecordQuery.Session.start` — the session that a run starts from.
* `RecordQuery.Session.settingsBehind`, `RecordQuery.Session.clockBehind`,
  `RecordQuery.Session.recordsBehind` — the parts of a session, told from the steps before.
* `RecordQuery.Session.Untouched` — steps that put no query under a name.
* `RecordQuery.Session.LastCompiled` — what was last compiled under a name, compiled afresh.

## Main results

* `RecordQuery.Session.after_eq` — what a step makes of a session.
* `RecordQuery.Session.queries_behind` — the queries of a session are those last compiled.
* `RecordQuery.Session.run_answers_afresh` — what a session answers about its queries.
-/

namespace RecordQuery.Session

/-! ## Single steps -/

/-- The session behind a step. A step that is refused changes nothing. -/
def after (s : Session) (step : Step) : Session :=
  match s.step step with
  | .error _ => s
  | .ok (_, s) => s

/-- What a step comes to. -/
def answer (s : Session) (step : Step) : Except Refusal Answer := (s.step step).map (·.1)

namespace Step

/-- What a step makes of the settings. -/
def onSettings (s : Settings) : Step → Settings
  | configure caseSensitive preferPatterns dateKey =>
    { caseSensitive := caseSensitive.getD s.caseSensitive
      preferPatterns := preferPatterns.getD s.preferPatterns
      dateKey := dateKey.getD s.dateKey }
  | _ => s

/-- What a step makes of the clock. -/
def onClock (now : Instant) : Step → Instant
  | setClock moved => moved
  | _ => now

/-- The record that a JSON text is, if it is one. -/
def recordOf? (text : String) : Option Record :=
  (Json.read text.toList).toOption.bind Record.ofJson?

/-- What a step makes of the records. -/
def onRecords (records : List Record) : Step → List Record
  | push record => records ++ [record]
  | pushJson text => records ++ (recordOf? text).toList
  | set index key value => records.modify index (Entries.insert key value)
  | unset index key => records.modify index (Entries.erase key)
  | remove index => records.eraseIdx index
  | _ => records

/-- What a step makes of the queries under some settings. -/
def onQueries (s : Settings) (queries : Entries Query) : Step → Entries Query
  | compile name source =>
    match Query.compile s source with
    | .error _ => queries
    | .ok query => Entries.insert name query queries
  | _ => queries

/-- A step puts no query under a name: if it tries to, the text has a fault under the settings. -/
def Leaves (step : Step) (name : String) (s : Settings) : Prop :=
  ∀ source, step = compile name source → ∃ fault, Query.compile s source = .error fault

end Step

/-- Changing a record that is there, or none. -/
theorem updateRecord_eq (s : Session) (index : Nat) (f : Record → Record) :
    s.updateRecord index f =
      match s.records[index]? with
      | none => .error .noSuchRecord
      | some record => .ok (f record, { s with records := s.records.modify index f }) := by
  unfold updateRecord
  cases h : s.records[index]? with
  | none => rfl
  | some record => simp [List.modify_eq_set_getElem?, h]

/-- What is left behind by a change of a record: nothing else changes, and nothing at all if there is
no such record. -/
theorem state_updateRecord (s : Session) (index : Nat) (f : Record → Record)
    (answer : Record → Answer) :
    (match (s.updateRecord index f).map fun (record, s) => (answer record, s) with
      | .error _ => s
      | .ok (_, s) => s) = { s with records := s.records.modify index f } := by
  rw [updateRecord_eq]
  cases h : s.records[index]? with
  | none =>
    have hsame : s.records.modify index f = s.records :=
      List.modify_eq_self (List.getElem?_eq_none_iff.1 h)
    rw [hsame]
    rfl
  | some record => rfl

/-- **What a step makes of a session** is told by what it makes of each part. -/
theorem after_eq (s : Session) (step : Step) :
    s.after step =
      { settings := step.onSettings s.settings
        clock := step.onClock s.clock
        records := step.onRecords s.records
        queries := step.onQueries s.settings s.queries } := by
  cases step with
  | configure caseSensitive preferPatterns dateKey => rfl
  | setClock now => rfl
  | push record => rfl
  | pushJson text =>
    simp only [after, Session.step, Step.onRecords, Step.recordOf?]
    cases Json.read text.toList with
    | error fault => simp [Except.toOption, Step.onSettings, Step.onClock, Step.onQueries]
    | ok json =>
      cases hrecord : Record.ofJson? json <;>
        simp [Except.toOption, hrecord, pushRecord, Step.onSettings, Step.onClock, Step.onQueries]
  | set index key value => exact s.state_updateRecord index (Entries.insert key value) Answer.record
  | unset index key =>
    exact s.state_updateRecord index (Entries.erase key)
      (Answer.unset (s.records[index]?.bind (Entries.get? · key)))
  | remove index =>
    simp only [after, Session.step, Step.onRecords]
    split
    · rename_i hrefused
      split at hrefused
      · cases hrefused
      · rename_i hindex
        rw [List.eraseIdx_of_length_le (Nat.le_of_not_lt hindex)]
        rfl
    · rename_i haccepted
      split at haccepted
      · cases haccepted
        rfl
      · cases haccepted
  | compile name source =>
    simp only [after, Session.step, Step.onQueries]
    cases Query.compile s.settings source <;> rfl
  | filter name =>
    simp only [after, Session.step]
    cases Entries.get? s.queries name <;> rfl
  | asks name index =>
    simp only [after, Session.step]
    cases s.records[index]? with
    | none => rfl
    | some record => cases Entries.get? s.queries name <;> rfl

/-- The answers of a run are those of its steps, each to the session behind the steps before. -/
theorem getElem?_run (s : Session) (before : List Step) (step : Step) (behind : List Step) :
    (s.run (before ++ step :: behind)).1[before.length]? =
      some ((before.foldl after s).answer step) := by
  have hcons (s : Session) (step : Step) (steps : List Step) :
      (s.run (step :: steps)).1 = s.answer step :: ((s.after step).run steps).1 := by
    simp only [run, answer, after]
    cases s.step step <;> rfl
  induction before generalizing s with
  | nil => simp [hcons]
  | cons first before ih => simpa [hcons] using ih (s.after first)

/-! ## Steps one after the other -/

/-- The session that a run starts from: the standard settings, the start of 1970 and nothing else. -/
def start : Session := { clock := .ofSeconds 0 }

/-- The session behind some steps. -/
def behind (steps : List Step) : Session := steps.foldl after start

/-- The settings behind some steps, told from those that change them. -/
def settingsBehind (steps : List Step) : Settings := steps.foldl Step.onSettings {}

/-- The clock behind some steps, told from those that move it. -/
def clockBehind (steps : List Step) : Instant := steps.foldl Step.onClock (.ofSeconds 0)

/-- The records behind some steps, told from those that change them. -/
def recordsBehind (steps : List Step) : List Record := steps.foldl Step.onRecords []

/-- None of the steps `more` behind `before` puts a query under `name`. -/
def Untouched (name : String) (before more : List Step) : Prop :=
  ∀ mid step rest, more = mid ++ step :: rest → step.Leaves name (settingsBehind (before ++ mid))

/-- The last text that was compiled under `name` without a fault gives `query`, compiled under the
settings of that moment. -/
def LastCompiled (name : String) (steps : List Step) (query : Query) : Prop :=
  ∃ before source more, steps = before ++ .compile name source :: more ∧
    Query.compile (settingsBehind before) source = .ok query ∧
      Untouched name (before ++ [.compile name source]) more

theorem behind_concat (steps : List Step) (step : Step) :
    behind (steps ++ [step]) = (behind steps).after step := by
  simp [behind]

/-- The parts of a session are what the steps that concern them have made of them. -/
theorem parts_behind (steps : List Step) :
    (behind steps).settings = settingsBehind steps ∧ (behind steps).clock = clockBehind steps ∧
      (behind steps).records = recordsBehind steps := by
  induction steps using List.reverseRecOn with
  | nil => exact ⟨rfl, rfl, rfl⟩
  | append_singleton steps step ih =>
    obtain ⟨hsettings, hclock, hrecords⟩ := ih
    rw [behind_concat, after_eq]
    simp [settingsBehind, clockBehind, recordsBehind, hsettings, hclock, hrecords]

theorem untouched_nil (name : String) (before : List Step) : Untouched name before [] := by
  intro mid step rest h
  simp at h

/-- One more step puts no query under a name. -/
theorem Untouched.concat {name : String} {before more : List Step} (h : Untouched name before more)
    {step : Step} (hstep : step.Leaves name (settingsBehind (before ++ more))) :
    Untouched name before (more ++ [step]) := by
  intro mid other rest hsplit
  rcases List.eq_nil_or_concat rest with rfl | ⟨rest, last, rfl⟩
  · obtain ⟨rfl, hlast⟩ := List.append_inj' hsplit rfl
    obtain rfl : step = other := List.singleton_inj.1 hlast
    exact hstep
  · rw [List.concat_eq_append, ← List.cons_append, ← List.append_assoc] at hsplit
    obtain ⟨rfl, -⟩ := List.append_inj' hsplit rfl
    exact h mid other rest rfl

/-- A step that puts no query under a name leaves what is there. -/
theorem Step.Leaves.get?_onQueries {name : String} {s : Settings} {step : Step}
    (h : step.Leaves name s) (queries : Entries Query) :
    Entries.get? (step.onQueries s queries) name = Entries.get? queries name := by
  cases step with
  | compile other source =>
    simp only [Step.onQueries]
    cases hcompile : Query.compile s source with
    | error fault => rfl
    | ok query =>
      have hne : other ≠ name := by
        rintro rfl
        obtain ⟨fault, hfault⟩ := h source rfl
        rw [hcompile] at hfault
        cases hfault
      simp only [Entries.get?_insert, hne, if_false]
  | configure | setClock | push | pushJson | set | unset | remove | filter | asks => rfl

/-- **The queries of a session are those last compiled**: under a name there is what its text gives
that was last compiled there, or nothing if none has been.

**Proof sketch.** Induction on the steps, the last one taken off. Either it puts a query under the
name, which is the last one then, or it leaves what is there. -/
theorem queries_behind (name : String) (steps : List Step) :
    (∃ query, LastCompiled name steps query ∧
        Entries.get? (behind steps).queries name = some query) ∨
      Untouched name [] steps ∧ Entries.get? (behind steps).queries name = none := by
  induction steps using List.reverseRecOn with
  | nil => exact .inr ⟨untouched_nil name [], rfl⟩
  | append_singleton steps step ih =>
    have hqueries : (behind (steps ++ [step])).queries =
        step.onQueries (settingsBehind steps) (behind steps).queries := by
      rw [behind_concat, after_eq, (parts_behind steps).1]
    rw [hqueries]
    by_cases hleaves : step.Leaves name (settingsBehind steps)
    · rw [hleaves.get?_onQueries]
      rcases ih with ⟨query, ⟨before, source, more, rfl, hcompile, hmore⟩, hget⟩ | ⟨hnone, hget⟩
      · refine .inl ⟨query, ⟨before, source, more ++ [step], by simp, hcompile, ?_⟩, hget⟩
        exact hmore.concat (by simpa using hleaves)
      · exact .inr ⟨hnone.concat (by simpa using hleaves), hget⟩
    · simp only [Step.Leaves, not_forall] at hleaves
      obtain ⟨source, rfl, hfault⟩ := hleaves
      cases hcompile : Query.compile (settingsBehind steps) source with
      | error fault => exact absurd ⟨fault, hcompile⟩ hfault
      | ok query =>
        refine .inl ⟨query, ⟨steps, source, [], rfl, hcompile, untouched_nil _ _⟩, ?_⟩
        simp [Step.onQueries, hcompile, Entries.get?_insert]

/-! ## Answers -/

/-- What a run from the start answers to a step between others. -/
def answerIn (before : List Step) (step : Step) (more : List Step) :
    Option (Except Refusal Answer) :=
  (run start (before ++ step :: more)).1[before.length]?

/-- **Answers are those of queries compiled afresh.** Whatever the steps of a run are, what it
answers about the query under a name is what the text last compiled there without a fault gives,
compiled under the settings of that moment and asked about the present records at the present time;
and if no text has been compiled there, there is no such query.

**Proof sketch.** The parts of the session are told by the steps before (`parts_behind`,
`queries_behind`), and an answer by the parts. -/
theorem run_answers_afresh (before more : List Step) (name : String) :
    (∃ query, LastCompiled name before query ∧
      answerIn before (.filter name) more =
        some (.ok (.selected (query.positions (clockBehind before) (recordsBehind before)))) ∧
      ∀ index, answerIn before (.asks name index) more =
        some ((recordsBehind before)[index]?.elim (.error .noSuchRecord) fun record =>
          .ok (.holds (query.selects (clockBehind before) record)))) ∨
    (Untouched name [] before ∧
      answerIn before (.filter name) more = some (.error .noSuchQuery) ∧
      ∀ index, answerIn before (.asks name index) more =
        some ((recordsBehind before)[index]?.elim (.error .noSuchRecord) fun _ =>
          .error .noSuchQuery)) := by
  have hanswer (step : Step) : answerIn before step more = some ((behind before).answer step) :=
    getElem?_run start before step more
  obtain ⟨-, hclock, hrecords⟩ := parts_behind before
  have hfilter : (behind before).answer (.filter name) =
      (Entries.get? (behind before).queries name).elim (.error .noSuchQuery) fun query =>
        .ok (.selected (query.positions (clockBehind before) (recordsBehind before))) := by
    rw [← hclock, ← hrecords, answer, step]
    cases Entries.get? (behind before).queries name <;> rfl
  have hasks (index : Nat) : (behind before).answer (.asks name index) =
      (recordsBehind before)[index]?.elim (.error .noSuchRecord) fun record =>
        (Entries.get? (behind before).queries name).elim (.error .noSuchQuery) fun query =>
          .ok (.holds (query.selects (clockBehind before) record)) := by
    rw [← hclock, ← hrecords, answer, step]
    cases (behind before).records[index]? with
    | none => rfl
    | some record => cases Entries.get? (behind before).queries name <;> rfl
  rcases queries_behind name before with ⟨query, hlast, hget⟩ | ⟨hnone, hget⟩
  · refine .inl ⟨query, hlast, ?_, fun index => ?_⟩
    · rw [hanswer, hfilter, hget]
      rfl
    · rw [hanswer, hasks, hget]
      rfl
  · refine .inr ⟨hnone, ?_, fun index => ?_⟩
    · rw [hanswer, hfilter, hget]
      rfl
    · rw [hanswer, hasks, hget]
      rfl

end RecordQuery.Session
