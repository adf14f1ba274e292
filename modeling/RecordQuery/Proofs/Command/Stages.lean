import Mathlib
import RecordQuery.Proofs.Command.World
import RecordQuery.Proofs.Except

set_option autoImplicit false

/-!
# Stages of runs

What can go wrong in a run is told for each stage on its own, from what is there before the run. A
run ends with the first stage in which something is wrong, and has changed nothing then; if nothing
is wrong it writes to one destination.

## Main definitions

* `RecordQuery.Run.Stage` — the stages of a run.
* `RecordQuery.Run.Stage.failure?` — what is wrong in a stage.
* `RecordQuery.World.Delivered` — one destination has been written to.

## Main results

* `RecordQuery.World.looks_perform_of_failure` — a stage that fails ends a run without a trace.
* `RecordQuery.World.run_of_success` — a run without failures writes what is selected.
* `RecordQuery.World.run_leaves_no_trace` — what a run leaves behind.
-/

namespace RecordQuery

open Run

namespace Run

/-- The stages of a run. -/
inductive Stage where
  | settings
  | query
  | layout
  | input
  | output

/-- The stages in their order. -/
def Stage.all : List Stage := [.settings, .query, .layout, .input, .output]

/-- What is wrong in a stage, told from the state before the run. Without settings nothing can be
wrong with the query. -/
def Stage.failure? {σ : Type} (W : World σ) (environment : Environment) (a : Arguments) (s : σ) :
    Stage → Option Failure
  | settings =>
    match ((loadSettings W.host environment a).run s).1 with
    | .error fault => some (.settings fault)
    | .ok _ => none
  | query =>
    match ((loadSettings W.host environment a).run s).1 with
    | .error _ => none
    | .ok loaded =>
      match Query.compile loaded a.query with
      | .error fault => some (.query fault)
      | .ok _ => none
  | layout => if a.resolvedLayout?.isNone then some .layout else none
  | input =>
    match W.taken (W.scene s) a.input with
    | .error fault => some (.input a.input fault)
    | .ok content =>
      match Document.read content with
      | .error fault => some (.document fault)
      | .ok _ => none
  | output =>
    if Path.isStream a.output then none
    else (W.creationFault? (W.scene s) a.output).map (.output a.output)

/-- What is wrong in the first stage in which something is. -/
def firstFailure? {σ : Type} (W : World σ) (environment : Environment) (a : Arguments) (s : σ) :
    Option Failure :=
  Stage.all.findSome? fun stage => stage.failure? W environment a s

end Run

namespace World

variable {σ : Type} {W : World σ} {environment : Environment} {a : Arguments}

/-- Between two scenes a text has been delivered, and nothing else has changed: it has been added to
what is printed, or it is what the file holds that the path leads to. -/
def Delivered (W : World σ) (before after : W.Scene) (path text : String) : Prop :=
  if Path.isStream path then
    W.files after = W.files before ∧ W.printed after = W.printed before ++ text
  else
    W.printed after = W.printed before ∧
      ∃ place, W.place? before path = some place ∧ W.files after place = some (W.ofText text) ∧
        ∀ other, other ≠ place → W.files after other = W.files before other

/-- The text that is taken from a file is its content. -/
theorem files_of_taken {c : W.Scene} {path content : String} {place : W.Place}
    (h : W.taken c path = .ok content) (hstream : Path.isStream path = false)
    (hplace : W.place? c path = some place) : W.files c place = some (W.ofText content) := by
  rw [taken, if_neg (by simp [hstream])] at h
  obtain ⟨place', hplace', hfiles⟩ := W.files_of_read c path content h
  obtain rfl : place = place' := Option.some.inj (hplace.symm.trans hplace')
  exact hfiles

/-- A file that a text is delivered to holds it. -/
theorem Delivered.files_eq {before after : W.Scene} {path text : String} {place : W.Place}
    (h : W.Delivered before after path text) (hstream : Path.isStream path = false)
    (hplace : W.place? before path = some place) : W.files after place = some (W.ofText text) := by
  rw [Delivered, if_neg (by simp [hstream])] at h
  obtain ⟨-, place', hplace', hfiles, -⟩ := h
  obtain rfl : place = place' := Option.some.inj (hplace.symm.trans hplace')
  exact hfiles

/-! ## Delivering -/

/-- If the output file cannot be created, delivering changes nothing. -/
theorem looks_deliver_of_creationFault? {c : W.Scene} {path : String} {fault : SystemFault}
    (hstream : Path.isStream path = false) (h : W.creationFault? c path = some fault)
    (text : String) : W.Looks c (deliver W.host path text) (.error (.output path fault)) := by
  have hwrite : W.Looks c (W.host.write path text) (.error fault) := by
    rintro s rfl
    exact W.write_fault s path text fault h
  unfold deliver
  rw [if_neg (by simp [hstream])]
  exact hwrite.bind (.pure _)

/-- Otherwise the text is delivered. -/
theorem exists_delivered_of_deliver (s : σ) {path : String}
    (h : Path.isStream path = true ∨ W.creationFault? (W.scene s) path = none) (text : String) :
    ∃ s', (deliver W.host path text).run s = (.ok (), s') ∧
      W.Delivered (W.scene s) (W.scene s') path text := by
  unfold deliver Delivered
  by_cases hstream : Path.isStream path = true
  · simp only [if_pos hstream]
    obtain ⟨hfiles, hprinted⟩ := W.print_run s text
    exact ⟨_, rfl, hfiles, hprinted⟩
  · simp only [if_neg hstream]
    obtain ⟨s', place, hrun, hprinted, hplace, hfile, hothers⟩ :=
      W.write_done s path text (h.resolve_left hstream)
    refine ⟨s', ?_, hprinted, place, hplace, hfile, hothers⟩
    rw [StateT.run_bind, hrun]
    rfl

/-! ## Stages -/

/-- Nothing is wrong in the stages before the output: what they come to in the state before the
run. -/
structure Prepared (W : World σ) (environment : Environment) (a : Arguments) (s : σ)
    (settings : Settings) (query : Query) (layout : Layout) (content : String)
    (items : List Item) : Prop where
  settings_eq : ((loadSettings W.host environment a).run s).1 = .ok settings
  query_eq : Query.compile settings a.query = .ok query
  layout_eq : a.resolvedLayout? = some layout
  content_eq : W.taken (W.scene s) a.input = .ok content
  items_eq : Document.read content = .ok items

variable (W environment a) in
/-- The settings are looked at, and are those that a look from the same state gives. -/
theorem looks_loadSettings (s : σ) :
    W.Looks (W.scene s) (loadSettings W.host environment a)
      ((loadSettings W.host environment a).run s).1 := by
  obtain ⟨settings, h⟩ := exists_looks_loadSettings (W := W) (c := W.scene s) environment a
  rw [h.answer_eq rfl]
  exact h

/-- Once all is prepared, a run asks for the time and delivers what the query selects. -/
theorem Prepared.exists_perform_eq {s : σ} {settings : Settings} {query : Query} {layout : Layout}
    {content : String} {items : List Item}
    (h : W.Prepared environment a s settings query layout content items) :
    ∃ s₁ s₂, W.scene s₁ = W.scene s ∧ W.scene s₂ = W.scene s ∧
      (perform W.host environment a).run s =
        (deliver W.host a.output
          (query.writeSelection (W.host.now.run s₁).1 layout items)).run s₂ := by
  have hsettings := looks_loadSettings W environment a s
  have hs₀ := hsettings.scene_eq rfl
  have hwarn := looks_warnAll (W := W) (c := W.scene s) query.warnings
  have hitems := looks_readItems (W := W) (c := W.scene s) a.input
  simp only [h.content_eq, h.items_eq, Except.mapError] at hitems
  unfold perform
  rw [hsettings.run_bind rfl]
  simp only [h.settings_eq, h.query_eq]
  rw [hwarn.run_bind hs₀]
  simp only [h.layout_eq]
  rw [hitems.run_bind (hwarn.scene_eq hs₀)]
  have hs₁ := hitems.scene_eq (hwarn.scene_eq hs₀)
  exact ⟨_, _, hs₁, (W.now_run _).trans hs₁, rfl⟩

/-- The output stage fails only if the output is a file that cannot be created. -/
theorem exists_creationFault?_of_output {s : σ} {failure : Failure}
    (h : Stage.output.failure? W environment a s = some failure) :
    Path.isStream a.output = false ∧
      ∃ fault, W.creationFault? (W.scene s) a.output = some fault ∧
        Failure.output a.output fault = failure := by
  simp only [Stage.failure?] at h
  split at h
  · cases h
  · rename_i hstream
    exact ⟨by simpa using hstream, Option.map_eq_some_iff.1 h⟩

/-- **A stage that fails ends a run without a trace**: the run looks at things up to that stage, and
fails as the stage does.

**Proof sketch.** The stages before it come to something, so that the run goes on to this stage, and
up to the output it only looks. -/
theorem looks_perform_of_failure {s : σ} {failure : Failure}
    (h : firstFailure? W environment a s = some failure) :
    W.Looks (W.scene s) (perform W.host environment a) (.error failure) := by
  have hsettings := looks_loadSettings W environment a s
  have hitems := looks_readItems (W := W) (c := W.scene s) a.input
  simp only [firstFailure?, Stage.all, List.findSome?_cons, List.findSome?_nil] at h
  unfold perform
  refine hsettings.bind ?_
  rcases hloaded : ((loadSettings W.host environment a).run s).1 with fault | settings
  · obtain rfl : Failure.settings fault = failure := by
      simpa [Stage.failure?, hloaded] using h
    exact .pure _
  rcases hquery : Query.compile settings a.query with fault | query
  · obtain rfl : Failure.query fault = failure := by
      simpa [Stage.failure?, hloaded, hquery] using h
    simp only [hquery]
    exact .pure _
  simp only [hquery]
  refine (looks_warnAll query.warnings).bind ?_
  rcases hlayout : a.resolvedLayout? with _ | layout
  · obtain rfl : Failure.layout = failure := by
      simpa [Stage.failure?, hloaded, hquery, hlayout] using h
    exact .pure _
  refine hitems.bind ?_
  rcases hcontent : W.taken (W.scene s) a.input with fault | content
  · obtain rfl : Failure.input a.input fault = failure := by
      simpa [Stage.failure?, hloaded, hquery, hlayout, hcontent] using h
    exact .pure _
  rcases hread : Document.read content with fault | items
  · obtain rfl : Failure.document fault = failure := by
      simpa [Stage.failure?, hloaded, hquery, hlayout, hcontent, hread] using h
    simp only [hread]
    exact .pure _
  have houtput : Stage.output.failure? W environment a s = some failure := by
    have hbefore : Stage.settings.failure? W environment a s = none ∧
        Stage.query.failure? W environment a s = none ∧
        Stage.layout.failure? W environment a s = none ∧
        Stage.input.failure? W environment a s = none := by
      simp [Stage.failure?, hloaded, hquery, hlayout, hcontent, hread]
    simp only [hbefore] at h
    split at h
    · rename_i hsome
      rw [hsome, h]
    · cases h
  obtain ⟨hstream, fault, hfault, rfl⟩ := exists_creationFault?_of_output houtput
  simp only [hread]
  exact looks_now_bind fun now => looks_deliver_of_creationFault? hstream hfault _

/-- If no stage fails, all before the output is prepared and the output can be created. -/
theorem exists_prepared_of_firstFailure?_eq_none {s : σ}
    (h : firstFailure? W environment a s = none) :
    (∃ settings query layout content items,
      W.Prepared environment a s settings query layout content items) ∧
      (Path.isStream a.output = true ∨ W.creationFault? (W.scene s) a.output = none) := by
  simp only [firstFailure?, Stage.all, List.findSome?_eq_none_iff, List.forall_mem_cons] at h
  obtain ⟨hsettings, hquery, hlayout, hinput, houtput, -⟩ := h
  simp only [Stage.failure?] at hsettings hquery hlayout hinput houtput
  rcases hloaded : ((loadSettings W.host environment a).run s).1 with fault | settings
  · simp [hloaded] at hsettings
  rcases hcompile : Query.compile settings a.query with fault | query
  · simp [hloaded, hcompile] at hquery
  rcases hresolved : a.resolvedLayout? with _ | layout
  · simp [hresolved] at hlayout
  rcases hcontent : W.taken (W.scene s) a.input with fault | content
  · simp [hcontent] at hinput
  rcases hread : Document.read content with fault | items
  · simp [hcontent, hread] at hinput
  refine ⟨⟨settings, query, layout, content, items, hloaded, hcompile, hresolved, hcontent,
    hread⟩, ?_⟩
  split at houtput
  · exact .inl ‹_›
  · exact .inr (Option.map_eq_none_iff.1 houtput)

/-! ## Runs -/

/-- A run whose arguments are refused does nothing. -/
theorem run_of_refused {arguments : List String} {fault : Arguments.Fault}
    (h : Arguments.read environment arguments = .error fault) (s : σ) :
    (run W.host environment arguments).run s = (.refused fault, s) := by
  unfold run
  rw [h]
  rfl

/-- A run with a stage that fails changes nothing, and fails as the first such stage. -/
theorem run_of_failure {arguments : List String} {s : σ} {failure : Failure}
    (ha : Arguments.read environment arguments = .ok a)
    (h : firstFailure? W environment a s = some failure) :
    ∃ s', (run W.host environment arguments).run s = (.failed failure, s') ∧
      W.scene s' = W.scene s := by
  unfold run
  rw [ha]
  exact (looks_perform_of_failure h).bind (.pure (Outcome.failed failure)) s rfl

/-- A run in which no stage fails delivers what the query selects. -/
theorem run_of_success {arguments : List String} {s : σ}
    (ha : Arguments.read environment arguments = .ok a)
    (h : firstFailure? W environment a s = none) :
    ∃ settings query layout content items s₁ s',
      W.Prepared environment a s settings query layout content items ∧ W.scene s₁ = W.scene s ∧
      (run W.host environment arguments).run s = (.finished, s') ∧
      W.Delivered (W.scene s) (W.scene s') a.output
        (query.writeSelection (W.host.now.run s₁).1 layout items) := by
  obtain ⟨⟨settings, query, layout, content, items, hprepared⟩, houtput⟩ :=
    exists_prepared_of_firstFailure?_eq_none h
  obtain ⟨s₁, s₂, hs₁, hs₂, hperform⟩ := hprepared.exists_perform_eq
  rw [← hs₂] at houtput
  obtain ⟨s', hdeliver, hdelivered⟩ := exists_delivered_of_deliver s₂ houtput
    (query.writeSelection (W.host.now.run s₁).1 layout items)
  rw [hs₂] at hdelivered
  refine ⟨settings, query, layout, content, items, s₁, s', hprepared, hs₁, ?_, hdelivered⟩
  unfold run
  rw [ha]
  simp only [StateT.run_bind, hperform, hdeliver]
  rfl

/-- Arguments that ask for neither a description nor the version are refused with status two. -/
theorem status_refused {fault : Arguments.Fault} (hhelp : fault ≠ .helpAsked)
    (hversion : fault ≠ .versionAsked) : (Outcome.refused fault).status = 2 := by
  cases fault with
  | helpAsked => exact absurd rfl hhelp
  | versionAsked => exact absurd rfl hversion
  | _ => rfl

/-- **A run leaves no trace unless it succeeds**, and then only what it selects. If the status is not
zero, no file has been created or changed and nothing has been printed. The status is one if some
stage fails, and what is reported is the failure of the first such stage. If the status is zero, one
destination has been written to: the standard output, or the file that the output path leads to,
which may be the input file and then holds the selection from its former content.

**Proof sketch.** Either the arguments are refused, or some stage fails, up to which a run only looks
(`run_of_failure`), or what is selected is delivered (`run_of_success`). -/
theorem run_leaves_no_trace (W : World σ) (environment : Environment) (arguments : List String)
    (s : σ) (hhelp : Arguments.read environment arguments ≠ .error .helpAsked)
    (hversion : Arguments.read environment arguments ≠ .error .versionAsked) :
    ∃ outcome s', (run W.host environment arguments).run s = (outcome, s') ∧
      (outcome.status ≠ 0 → W.files (W.scene s') = W.files (W.scene s) ∧
        W.printed (W.scene s') = W.printed (W.scene s)) ∧
      (outcome.status = 1 ↔ ∃ a, Arguments.read environment arguments = .ok a ∧
        firstFailure? W environment a s ≠ none) ∧
      (∀ failure, outcome = .failed failure → ∃ a, Arguments.read environment arguments = .ok a ∧
        firstFailure? W environment a s = some failure) ∧
      (outcome.status = 0 ↔ ∃ a, Arguments.read environment arguments = .ok a ∧
        firstFailure? W environment a s = none) ∧
      (outcome.status = 0 → ∃ a settings query layout content items s₁,
        Arguments.read environment arguments = .ok a ∧
        W.Prepared environment a s settings query layout content items ∧ W.scene s₁ = W.scene s ∧
        let text := query.writeSelection (W.host.now.run s₁).1 layout items
        W.Delivered (W.scene s) (W.scene s') a.output text ∧
          ∀ place, Path.isStream a.input = false → W.place? (W.scene s) a.input = some place →
            Path.isStream a.output = false → W.place? (W.scene s) a.output = some place →
              W.files (W.scene s) place = some (W.ofText content) ∧
                W.files (W.scene s') place = some (W.ofText text)) := by
  cases ha : Arguments.read environment arguments with
  | error fault =>
    have hstatus : (Outcome.refused fault).status = 2 :=
      status_refused (fun h => hhelp (h ▸ ha)) (fun h => hversion (h ▸ ha))
    refine ⟨.refused fault, s, run_of_refused ha s, fun _ => ⟨rfl, rfl⟩, ?_, ?_, ?_, ?_⟩
    · simp [hstatus]
    · simp
    · simp [hstatus]
    · simp [hstatus]
  | ok a =>
    cases hfirst : firstFailure? W environment a s with
    | some failure =>
      obtain ⟨s', hrun, hscene⟩ := run_of_failure ha hfirst
      refine ⟨.failed failure, s', hrun, fun _ => by rw [hscene]; exact ⟨rfl, rfl⟩, ?_, ?_, ?_, ?_⟩
      · simp [Outcome.status, hfirst]
      · simp [hfirst]
      · simp [Outcome.status, hfirst]
      · simp [Outcome.status]
    | none =>
      obtain ⟨settings, query, layout, content, items, s₁, s', hprepared, hs₁, hrun, hdelivered⟩ :=
        run_of_success ha hfirst
      refine ⟨.finished, s', hrun, fun h => absurd rfl h, ?_, ?_, ?_, fun _ => ?_⟩
      · simp [Outcome.status, hfirst]
      · simp
      · simp [Outcome.status, hfirst]
      · refine ⟨a, settings, query, layout, content, items, s₁, rfl, hprepared, hs₁, hdelivered, ?_⟩
        intro place hinput hfrom houtput hto
        exact ⟨files_of_taken hprepared.content_eq hinput hfrom, hdelivered.files_eq houtput hto⟩

/-- A run that writes what it selects into the file that it reads, to which two paths lead. -/
theorem run_leaves_no_trace_in_place :
    let w : Workspace :=
      { files := [("a", "[\x7b\"k\":\"b\"\x7d,\x7b\"k\":\"c\"\x7d]")], now := ⟨0, 0, 0, by decide⟩ }
    let arguments := ["-q", "k:b", "-i", "a", "-o", "./a", "--format", "json"]
    Arguments.read [] arguments ≠ .error .helpAsked ∧
      Arguments.read [] arguments ≠ .error .versionAsked ∧
      ∃ outcome w', (run Workspace.host [] arguments).run w = (outcome, w') ∧ outcome.status = 0 ∧
        w'.printed = "" ∧ w'.files.get? "a" = some "[\n  \x7b\"k\":\"b\"\x7d\n]\n" := by
  intro w arguments
  let a : Arguments := { query := "k:b", input := "a", output := "./a", layout := some .array }
  let query : Query := ⟨"k:b", (Tree.field "k" false (.text "b")).predicate {}, []⟩
  let items : List Item := [⟨.object [("k", .string "b")], [("k", .text "b")]⟩,
    ⟨.object [("k", .string "c")], [("k", .text "c")]⟩]
  have ha : Arguments.read [] arguments = .ok a := by cbv
  have hhelp : Arguments.read [] arguments ≠ .error .helpAsked := by simp [ha]
  have hversion : Arguments.read [] arguments ≠ .error .versionAsked := by simp [ha]
  have hsettings : ((loadSettings Workspace.world.host [] a).run w).1 = .ok {} := by cbv
  have htree : Tree.ofText {} "k:b" = .ok (.field "k" false (.text "b")) := by cbv
  have hquery : Query.compile {} a.query = .ok query := by rw [Query.compile, htree]; rfl
  have hcontent : Workspace.world.taken (Workspace.world.scene w) a.input =
      .ok "[\x7b\"k\":\"b\"\x7d,\x7b\"k\":\"c\"\x7d]" := by cbv
  have hitems : Document.read "[\x7b\"k\":\"b\"\x7d,\x7b\"k\":\"c\"\x7d]" = .ok items := by cbv
  have hcreation : Workspace.world.creationFault? (Workspace.world.scene w) a.output = none := by
    cbv
  have hselected : ∀ now, query.writeSelection now .array items =
      "[\n  \x7b\"k\":\"b\"\x7d\n]\n" := by
    intro now
    cbv
  have hfirst : firstFailure? Workspace.world [] a w = none := by
    simp [firstFailure?, Stage.all, Stage.failure?, hsettings, hquery, hcontent, hitems, hcreation,
      Arguments.resolvedLayout?, a]
  obtain ⟨outcome, w', hrun, -, -, -, hstatus, hdone⟩ :=
    run_leaves_no_trace Workspace.world [] arguments w hhelp hversion
  have hzero : outcome.status = 0 := hstatus.2 ⟨a, ha, hfirst⟩
  obtain ⟨a', settings', query', layout', content', items', s₁, ha', hprepared, -, hdelivered,
      hplace⟩ :=
    hdone hzero
  obtain rfl : a' = a := Except.ok.inj (ha'.symm.trans ha)
  obtain rfl : settings' = {} := Except.ok.inj (hprepared.settings_eq.symm.trans hsettings)
  obtain rfl : query' = query := Except.ok.inj (hprepared.query_eq.symm.trans hquery)
  obtain rfl : content' = _ := Except.ok.inj (hprepared.content_eq.symm.trans hcontent)
  obtain rfl : items' = items := Except.ok.inj (hprepared.items_eq.symm.trans hitems)
  obtain rfl : layout' = .array := (Option.some.inj hprepared.layout_eq).symm
  have hstream : Path.isStream a.output = false := by cbv
  have hfile := (hplace "a" (by cbv) (by cbv) hstream (by cbv)).2
  rw [Delivered, if_neg (by simp [hstream])] at hdelivered
  refine ⟨hhelp, hversion, outcome, w', hrun, hzero, hdelivered.1, ?_⟩
  rw [hselected] at hfile
  exact hfile

end World

end RecordQuery
