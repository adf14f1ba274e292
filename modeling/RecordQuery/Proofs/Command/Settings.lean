import RecordQuery.Proofs.Command.World
import RecordQuery.Proofs.Settings.Environment

set_option autoImplicit false

/-!
# Settings of runs

The settings of a run come from a file, from variables of the environment and from arguments, each
over the one before, option by option. Only where the file gives an option in another spelling than
its variable does, the option is given twice, and there are no settings.

## Main definitions

* `RecordQuery.World.loaded` — the settings that a run loads.
* `RecordQuery.World.fileLayer` — the layer of settings of the file that arguments name.
* `RecordQuery.Arguments.plain` — arguments that say nothing about settings.

## Main results

* `RecordQuery.World.loaded_layers` — the settings of a run, told from what each source says alone.
* `RecordQuery.World.loaded_spelled_apart` — two sources that each load, but not together.
-/

namespace RecordQuery

open Run Settings

/-- The same arguments without what they say about settings, but for the file. -/
def Arguments.plain (a : Arguments) : Arguments :=
  { a with caseSensitive := false, preferPatterns := false, dateKey := none }

namespace World

variable {σ : Type} {W : World σ} {a : Arguments} {s : σ}

/-- The settings that a run loads. -/
def loaded (W : World σ) (environment : Environment) (a : Arguments) (s : σ) :
    Except Fault Settings :=
  ((loadSettings W.host environment a).run s).1

/-- The layer of settings of the file that arguments name, which is empty if they name none. -/
def fileLayer (W : World σ) (a : Arguments) (s : σ) : Except Fault Layer :=
  match a.configuration with
  | none => .ok []
  | some path => ((loadFile W.host path).run s).1

/-- The settings that a run loads are those of its layers, overridden by arguments. -/
theorem loaded_eq (environment : Environment) (a : Arguments) (s : σ) :
    W.loaded environment a s = (W.fileLayer a s).bind fun file =>
      (environment.layer.overlay file).settings.map a.override := by
  unfold loaded fileLayer loadSettings
  cases a.configuration with
  | none => rfl
  | some path =>
    simp only [StateT.run_bind, StateT.run_map]
    obtain ⟨layer, s'⟩ := (loadFile W.host path).run s
    cases layer <;> rfl

/-- The names in a layer that is read ascend. -/
theorem ascending_of_read {format : Format} {text : String} {layer : Layer}
    (h : format.read text = .ok layer) : layer.Ascending := by
  unfold Format.read at h
  split at h
  · cases h
  · cases h
    exact Layer.ascending_ofPairs _

/-- The names in the layer of a file ascend. -/
theorem ascending_of_loadFile {path : String} {layer : Layer}
    (h : ((loadFile W.host path).run s).1 = .ok layer) : layer.Ascending := by
  unfold loadFile at h
  rw [StateT.run_bind] at h
  cases hfound : (findFile W.host path).run s with
  | mk found s' =>
    rw [hfound] at h
    cases found with
    | none => cases h
    | some file =>
      change ((W.host.read file.1 >>= _).run s').1 = _ at h
      rw [StateT.run_bind] at h
      cases hread : (W.host.read file.1).run s' with
      | mk held s'' =>
        rw [hread] at h
        cases held with
        | error fault => cases h
        | ok text => exact ascending_of_read h

theorem ascending_of_fileLayer {layer : Layer} (h : W.fileLayer a s = .ok layer) :
    layer.Ascending := by
  unfold fileLayer at h
  split at h
  · cases h
    exact List.Pairwise.nil
  · exact ascending_of_loadFile h

/-- Arguments that say nothing about settings change none. -/
theorem override_plain (a : Arguments) (s : Settings) : a.plain.override s = s := rfl

theorem layer_nil : Environment.layer [] = [] := rfl

/-- A file loads by itself if it gives settings. -/
theorem loaded_file_eq_ok_iff {file : Settings} :
    W.loaded [] a.plain s = .ok file ↔
      ∃ layer, W.fileLayer a s = .ok layer ∧ layer.settings = .ok file := by
  have hconfiguration : W.fileLayer a.plain s = W.fileLayer a s := rfl
  rw [loaded_eq, hconfiguration, Except.bind_eq_ok_iff]
  simp only [layer_nil, Layer.overlay, List.foldl_nil, Except.map_eq_ok_iff, override_plain,
    exists_eq_right]

/-- The variables of the environment load by themselves if they give settings. -/
theorem loaded_environment_eq_ok_iff {environment : Environment} {assigned : Settings} :
    W.loaded environment { a.plain with configuration := none } s = .ok assigned ↔
      environment.layer.settings = .ok assigned := by
  have hlayer : environment.layer.Distinct := environment.distinct_layer
  have hover : (environment.layer.overlay []).Distinct :=
    (Entries.Ascending.foldl_insert List.Pairwise.nil environment.layer).distinct
  have hvalues (o : Setting) :
      (environment.layer.overlay []).valuesOf o = environment.layer.valuesOf o := by
    unfold Layer.valuesOf
    refine List.filterMap_congr fun name _ => ?_
    rw [Layer.get?_overlay_eq hlayer, Entries.get?_nil, Option.or_none]
  have hloaded : W.loaded environment { a.plain with configuration := none } s =
      (environment.layer.overlay []).settings.map a.plain.override :=
    loaded_eq _ _ _
  simp only [hloaded, Except.map_eq_ok_iff, override_plain, exists_eq_right,
    Layer.settings_eq_ok_iff hover, Layer.settings_eq_ok_iff hlayer, hvalues]

/-- **The settings of a run**, from what each source says alone. If the file loads without the
variables and without arguments, and the variables load without the file, then the run has for each
option what an argument says, or else the variable if it is set, or else the file. But if a variable
is set for an option that the file spells in another way, the run has no settings at all: the option
is given twice. Variables that say nothing about options may be there as well.

**Proof sketch.** Both sources are layers, the variables over the file. Layers give each option the
upper value or the lower one unless they clash, and the variables use the first spellings only. -/
theorem loaded_layers {environment : Environment} (hoptions : environment.OfOptions)
    (hdistinct : environment.Distinct) {file assigned : Settings}
    (hfile : W.loaded [] a.plain s = .ok file)
    (hassigned : W.loaded environment { a.plain with configuration := none } s = .ok assigned) :
    ∃ layer, W.fileLayer a s = .ok layer ∧
      (∀ o, Setting.all.find? (fun o => environment.SpelledApart layer o) = some o →
        W.loaded environment a s = .error (.repeated o)) ∧
      ((∀ o, ¬environment.SpelledApart layer o) →
        W.loaded environment a s = .ok
          { caseSensitive :=
              if a.caseSensitive then true
              else if (Entries.get? environment Setting.caseSensitive.envName).isSome then
                assigned.caseSensitive
              else file.caseSensitive
            preferPatterns :=
              if a.preferPatterns then true
              else if (Entries.get? environment Setting.preferPatterns.envName).isSome then
                assigned.preferPatterns
              else file.preferPatterns
            dateKey := a.dateKey.getD
              (if (Entries.get? environment Setting.dateKey.envName).isSome then assigned.dateKey
              else file.dateKey) }) := by
  obtain ⟨layer, hlayer, hfile⟩ := loaded_file_eq_ok_iff.1 hfile
  have hassigned := loaded_environment_eq_ok_iff.1 hassigned
  have hover := Layer.settings_overlay environment.distinct_layer (ascending_of_fileLayer hlayer)
    hassigned hfile
  simp only [Environment.clash_layer_iff hoptions hdistinct] at hover
  have hloaded : W.loaded environment a s =
      (environment.layer.overlay layer).settings.map a.override := by
    rw [loaded_eq, hlayer]
    rfl
  refine ⟨layer, hlayer, fun o ho => ?_, fun happart => ?_⟩
  · rw [hloaded, hover, ho]
    rfl
  · have hnone : Setting.all.find? (fun o => environment.SpelledApart layer o) = none :=
      List.find?_eq_none.2 fun o _ => by simpa using happart o
    rw [hloaded, hover, hnone]
    simp [Except.map, Arguments.override, Layer.chosen,
      Environment.sets_layer_iff hoptions hdistinct]

/-- Where the file spells an option as its variable does, the variable goes before the file, and the
file keeps what no variable is set for. The environment also holds a foreign variable and the path to
the file. -/
theorem loaded_layers_variable_over_file :
    Workspace.world.loaded
      [("PATH", "/bin"), ("RECSIFT_CASE_SENSITIVE", "false"), ("RECSIFT_CONFIG", "d.json")]
      { query := "x", configuration := some "d.json", preferPatterns := true }
      { files := [("d.json", "\x7b\"case_sensitive\": true, \"dateKey\": \"day\"\x7d")],
        now := .ofSeconds 0 } =
      .ok { caseSensitive := false, preferPatterns := true, dateKey := "day" } := by
  let environment : Environment :=
    [("PATH", "/bin"), ("RECSIFT_CASE_SENSITIVE", "false"), ("RECSIFT_CONFIG", "d.json")]
  let a : Arguments := { query := "x", configuration := some "d.json", preferPatterns := true }
  let w : Workspace :=
    { files := [("d.json", "\x7b\"case_sensitive\": true, \"dateKey\": \"day\"\x7d")],
      now := .ofSeconds 0 }
  have hoptions : environment.OfOptions := by
    intro p hp
    simp only [environment, List.mem_cons, List.not_mem_nil, or_false] at hp
    rcases hp with rfl | rfl | rfl
    · exact .inr (Environment.silent_of_not_mark (by decide +kernel))
    · exact .inl ⟨.caseSensitive, rfl⟩
    · exact .inr Environment.silent_configuration
  have hdistinct : environment.Distinct := by
    unfold Entries.Distinct
    decide
  have hspelled : (Workspace.world.fileLayer a w).toOption.all
      (fun layer => Setting.all.all fun o => !environment.SpelledApart layer o) = true := by
    decide +kernel
  have hfile : Workspace.world.loaded [] a.plain w =
      .ok { caseSensitive := true, dateKey := "day" } := by
    decide +kernel
  have hassigned : Workspace.world.loaded environment { a.plain with configuration := none } w =
      .ok {} := by
    decide +kernel
  obtain ⟨layer, hlayer, -, hloaded⟩ :=
    loaded_layers hoptions hdistinct hfile hassigned
  refine hloaded fun o => ?_
  rw [hlayer] at hspelled
  simpa using List.all_eq_true.1 hspelled o o.mem_all

/-- A file and a variable can each load alone, but not together: the file spells the option
`caseSensitive`, and the variable does not go before it. -/
theorem loaded_spelled_apart :
    Workspace.world.loaded [] { query := "x", configuration := some "d.json" }
        { files := [("d.json", "\x7b\"caseSensitive\":true\x7d")], now := .ofSeconds 0 } =
      .ok { caseSensitive := true } ∧
    Workspace.world.loaded [("RECSIFT_CASE_SENSITIVE", "false")] { query := "x" }
        { files := [("d.json", "\x7b\"caseSensitive\":true\x7d")], now := .ofSeconds 0 } =
      .ok { caseSensitive := false } ∧
    Workspace.world.loaded [("RECSIFT_CASE_SENSITIVE", "false")]
        { query := "x", configuration := some "d.json" }
        { files := [("d.json", "\x7b\"caseSensitive\":true\x7d")], now := .ofSeconds 0 } =
      .error (.repeated .caseSensitive) := by
  refine ⟨?_, ?_, ?_⟩ <;> decide +kernel

end World

end RecordQuery
