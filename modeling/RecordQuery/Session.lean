import RecordQuery.Json.Reader
import RecordQuery.Query.Compiled

set_option autoImplicit false

/-!
# Sessions

A session holds settings, a clock, records and compiled queries, and changes or asks about them
step by step. A query keeps the settings under which it was compiled; all queries share the clock.

## Main definitions

* `RecordQuery.Session` — the state of a session.
* `RecordQuery.Session.Step` — what a session can be told to do.
* `RecordQuery.Session.Answer`, `RecordQuery.Session.Refusal` — what a step comes to.
* `RecordQuery.Session.step` — one step.
* `RecordQuery.Session.run` — the answers to a list of steps.
-/

namespace RecordQuery

/-- The state of a session. -/
structure Session where
  settings : Settings := {}
  clock : Instant := { seconds := 0, nanos := 0, offset := 0 }
  records : List Record := []
  queries : Entries Query := []

namespace Session

/-- What a session can be told to do. -/
inductive Step where
  | configure (caseSensitive preferPatterns : Option Bool) (dateKey : Option String)
  | setClock (now : Instant)
  | push (record : Record)
  | pushJson (text : String)
  | set (index : Nat) (key : String) (value : Value)
  | unset (index : Nat) (key : String)
  | remove (index : Nat)
  | compile (name source : String)
  | filter (name : String)
  | asks (name : String) (index : Nat)

/-- What a step answers. -/
inductive Answer where
  | settings (s : Settings)
  | clock (now : Instant)
  | count (n : Nat)
  | pushed (count : Nat) (record : Record)
  | record (r : Record)
  | unset (removed : Option Value) (record : Record)
  | compiled (source : String) (warnings : List Warning)
  | selected (positions : List Nat)
  | holds (b : Bool)

/-- Why a step is refused; a refused step changes nothing. -/
inductive Refusal where
  | noSuchRecord
  | noSuchQuery
  | notAnObject
  | json (fault : Json.Fault)
  | query (fault : QueryFault)

/-- Changes the record at an index. -/
def updateRecord (s : Session) (index : Nat) (f : Record → Record) :
    Except Refusal (Record × Session) :=
  match s.records[index]? with
  | none => .error .noSuchRecord
  | some record => .ok (f record, { s with records := s.records.set index (f record) })

/-- Adds a record at the end. -/
def pushRecord (s : Session) (record : Record) : Session :=
  { s with records := s.records ++ [record] }

/-- One step: its answer and the session after it. -/
def step (s : Session) : Step → Except Refusal (Answer × Session)
  | .configure caseSensitive preferPatterns dateKey =>
    let settings : Settings := {
      caseSensitive := caseSensitive.getD s.settings.caseSensitive
      preferPatterns := preferPatterns.getD s.settings.preferPatterns
      dateKey := dateKey.getD s.settings.dateKey }
    .ok (.settings settings, { s with settings := settings })
  | .setClock now => .ok (.clock now, { s with clock := now })
  | .push record => .ok (.count (s.records.length + 1), s.pushRecord record)
  | .pushJson text =>
    match Json.read text.toList with
    | .error fault => .error (.json fault)
    | .ok json =>
      match Record.ofJson? json with
      | none => .error .notAnObject
      | some record => .ok (.pushed (s.records.length + 1) record, s.pushRecord record)
  | .set index key value =>
    (s.updateRecord index (Entries.insert key value)).map fun (record, s) => (.record record, s)
  | .unset index key =>
    let removed := (s.records[index]?).bind (Entries.get? · key)
    (s.updateRecord index (Entries.erase key)).map fun (record, s) =>
      (.unset removed record, s)
  | .remove index =>
    if index < s.records.length then
      .ok (.count (s.records.length - 1), { s with records := s.records.eraseIdx index })
    else .error .noSuchRecord
  | .compile name source =>
    match Query.compile s.settings source with
    | .error fault => .error (.query fault)
    | .ok query =>
      .ok (.compiled query.source query.warnings,
        { s with queries := Entries.insert name query s.queries })
  | .filter name =>
    match Entries.get? s.queries name with
    | none => .error .noSuchQuery
    | some query => .ok (.selected (query.positions s.clock s.records), s)
  | .asks name index =>
    match s.records[index]? with
    | none => .error .noSuchRecord
    | some record =>
      match Entries.get? s.queries name with
      | none => .error .noSuchQuery
      | some query => .ok (.holds (query.selects s.clock record), s)

/-- What each of a list of steps comes to, and the session after the last. -/
def run (s : Session) : List Step → List (Except Refusal Answer) × Session
  | [] => ([], s)
  | step :: steps =>
    match s.step step with
    | .error refusal =>
      let (answers, s) := s.run steps
      (.error refusal :: answers, s)
    | .ok (answer, s) =>
      let (answers, s) := s.run steps
      (.ok answer :: answers, s)

end Session

end RecordQuery
