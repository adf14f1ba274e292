import RecordQuery.Proofs.Settings.Layer
import RecordQuery.Settings.Environment

set_option autoImplicit false

/-!
# Variables for options

Each option has a variable in the environment, which gives it a value under the first of its
spellings. So variables for options clash with a layer that spells one of them in another way. What
other variables there are does not matter, as long as they say nothing about options.

## Main definitions

* `RecordQuery.Setting.envName` — the name of the variable for an option.
* `RecordQuery.Environment.Silent` — names of variables that say nothing about options.
* `RecordQuery.Environment.OfOptions` — only the variable of an option says something about it.
* `RecordQuery.Environment.SpelledApart` — a layer spells an option differently than its variable.

## Main results

* `RecordQuery.Environment.get?_layer_name` — an option has the value of its variable.
* `RecordQuery.Environment.clash_layer_iff` — when variables clash with another layer.
-/

namespace RecordQuery

open Settings

namespace Setting

/-- The name of the variable of the environment for an option. -/
def envName : Setting → String
  | caseSensitive => "RECSIFT_CASE_SENSITIVE"
  | preferPatterns => "RECSIFT_PREFER_REGEX"
  | dateKey => "RECSIFT_DATE_KEY"

/-- The spelling of an option under which its variable gives it a value. -/
def name : Setting → String
  | caseSensitive => "case_sensitive"
  | preferPatterns => "prefer_regex"
  | dateKey => "date_key"

theorem name_mem_spellings (o : Setting) : o.name ∈ o.spellings := by
  cases o <;> decide

/-- No other option has the name of an option among its spellings. -/
theorem eq_of_name_mem_spellings {o o' : Setting} (h : o'.name ∈ o.spellings) : o' = o := by
  revert h
  cases o <;> cases o' <;> decide

end Setting

namespace Environment

/-- A name that is the mark and some word in lower case gives its value to that word. -/
theorem setting?_of_lower_eq {name word : String}
    (h : (Text.lower name).toList = mark ++ word.toList) (text : String) :
    setting? name text = some (word, value text) := by
  have hprefix : mark.isPrefixOf (mark ++ word.toList) = true :=
    List.isPrefixOf_iff_prefix.2 (List.prefix_append _ _)
  simp [setting?, h, hprefix]

/-- A name without the mark gives nothing. -/
theorem setting?_of_not_mark {name : String} (h : ¬mark <+: (Text.lower name).toList)
    (text : String) : setting? name text = none :=
  if_neg fun hprefix => h (List.isPrefixOf_iff_prefix.1 hprefix)

/-- A variable for an option gives its value to the option. -/
theorem setting?_envName (o : Setting) (text : String) :
    setting? o.envName text = some (o.name, value text) := by
  refine setting?_of_lower_eq ?_ text
  cases o <;> decide +kernel

theorem placed_name (o : Setting) (v : Json) : placed o.name v = (o.name, v) := by
  cases o <;> rfl

/-! ## Variables that say nothing -/

/-- A variable with this name gives no option a value, in any spelling and whatever text it holds. So it
is with names that have no mark (`silent_of_not_mark`) and with the one for the path to a file of settings
(`silent_configuration`). -/
def Silent (name : String) : Prop :=
  ∀ text, ∀ p ∈ setting? name text, ∀ o : Setting, (placed p.1 p.2).1 ∉ o.spellings

/-- Every variable of an environment is the one for some option, or says nothing about options. -/
def OfOptions (environment : Environment) : Prop :=
  ∀ p ∈ environment, (∃ o : Setting, p.1 = o.envName) ∨ Silent p.1

/-- A name without the mark of settings says nothing about options. -/
theorem silent_of_not_mark {name : String} (h : ¬mark <+: (Text.lower name).toList) :
    Silent name := by
  intro text p hp
  rw [setting?_of_not_mark h] at hp
  cases hp

/-- The variable for the path to a file of settings says nothing about options itself. -/
theorem silent_configuration : Silent "RECSIFT_CONFIG" := by
  intro text p hp o
  have hlower : (Text.lower "RECSIFT_CONFIG").toList = mark ++ "config".toList := by
    decide +kernel
  have hplaced (v : Json) : placed "config" v = ("config", v) := rfl
  rw [setting?_of_lower_eq hlower] at hp
  cases hp
  rw [hplaced]
  show "config" ∉ o.spellings
  cases o <;> decide

/-! ## Values of variables -/

/-- The names and values that the variables of an environment give. -/
def given (environment : Environment) : Entries Json :=
  (environment.filterMap fun p => setting? p.1 p.2).map fun p => placed p.1 p.2

theorem layer_eq (environment : Environment) :
    environment.layer = Entries.ofList environment.given := rfl

theorem distinct_layer (environment : Environment) : environment.layer.Distinct :=
  (Layer.ascending_ofPairs _).distinct

variable {environment : Environment}

/-- **What is given to an option** in some spelling is given by its variable, in the first one. -/
theorem mem_given_iff (h : environment.OfOptions) {o : Setting} {name : String}
    (hname : name ∈ o.spellings) {v : Json} :
    (name, v) ∈ environment.given ↔
      name = o.name ∧ ∃ text, (o.envName, text) ∈ environment ∧ v = value text := by
  constructor
  · intro hmem
    obtain ⟨q, hq, hplaced⟩ := List.mem_map.1 hmem
    obtain ⟨⟨key, text⟩, hp, hsetting⟩ := List.mem_filterMap.1 hq
    rcases h _ hp with ⟨o', rfl : key = o'.envName⟩ | hsilent
    · rw [setting?_envName] at hsetting
      cases hsetting
      rw [placed_name] at hplaced
      cases hplaced
      obtain rfl : o' = o := Setting.eq_of_name_mem_spellings hname
      exact ⟨rfl, text, hp, rfl⟩
    · refine absurd hname ?_
      have hspelling := hsilent text q hsetting o
      rwa [hplaced] at hspelling
  · rintro ⟨rfl, text, hp, rfl⟩
    exact List.mem_map.2
      ⟨_, List.mem_filterMap.2 ⟨_, hp, setting?_envName o text⟩, placed_name o (value text)⟩

/-- **An option has the value of its variable**, under the first of its spellings. -/
theorem get?_layer_name (h : environment.OfOptions) (hdistinct : environment.Distinct)
    (o : Setting) :
    Entries.get? environment.layer o.name = (Entries.get? environment o.envName).map value := by
  have hgiven {v : Json} := mem_given_iff h o.name_mem_spellings (v := v)
  rw [layer_eq]
  cases hfound : Entries.get? environment o.envName with
  | none =>
    rw [Option.map_none, Entries.get?_ofList_eq_none_iff]
    intro v hv
    obtain ⟨-, text, hmem, -⟩ := hgiven.1 hv
    rw [hdistinct.get?_of_mem hmem] at hfound
    cases hfound
  | some text =>
    refine Entries.get?_ofList_eq_some
      (hgiven.2 ⟨rfl, text, Entries.mem_of_get? hfound, rfl⟩) fun w hw => ?_
    obtain ⟨-, text', hmem, rfl⟩ := hgiven.1 hw
    rw [hdistinct.get?_of_mem hmem] at hfound
    cases hfound
    rfl

/-- Under its other spellings an option has no value. -/
theorem get?_layer_of_ne (h : environment.OfOptions) {o : Setting} {name : String}
    (hname : name ∈ o.spellings) (hne : name ≠ o.name) :
    Entries.get? environment.layer name = none := by
  rw [layer_eq, Entries.get?_ofList_eq_none_iff]
  exact fun v hv => hne ((mem_given_iff h hname).1 hv).1

/-- An option is given a value exactly if its variable is set. -/
theorem sets_layer_iff (h : environment.OfOptions) (hdistinct : environment.Distinct)
    (o : Setting) :
    environment.layer.Sets o ↔ (Entries.get? environment o.envName).isSome := by
  constructor
  · rintro ⟨name, hname, hsome⟩
    by_cases hne : name = o.name
    · simpa [hne, get?_layer_name h hdistinct] using hsome
    · rw [get?_layer_of_ne h hname hne] at hsome
      cases hsome
  · intro hsome
    exact ⟨o.name, o.name_mem_spellings, by simpa [get?_layer_name h hdistinct] using hsome⟩

/-- The variable for an option is set, and a layer gives the option a value in another spelling than
the variable does. -/
def SpelledApart (environment : Environment) (layer : Layer) (o : Setting) : Prop :=
  (Entries.get? environment o.envName).isSome ∧
    ∃ other ∈ o.spellings, other ≠ o.name ∧ (Entries.get? layer other).isSome

instance (environment : Environment) (layer : Layer) (o : Setting) :
    Decidable (environment.SpelledApart layer o) :=
  inferInstanceAs (Decidable ((Entries.get? environment o.envName).isSome ∧
    ∃ other ∈ o.spellings, other ≠ o.name ∧ (Entries.get? layer other).isSome))

/-- **The variables clash with another layer** exactly where that gives an option whose variable is
set a value in another spelling than the variable does. -/
theorem clash_layer_iff (h : environment.OfOptions) (hdistinct : environment.Distinct)
    (o : Setting) (lower : Layer) :
    Layer.Clash o environment.layer lower ↔ environment.SpelledApart lower o := by
  constructor
  · rintro ⟨name, hname, other, hother, hne, hupper, hlower⟩
    obtain rfl : name = o.name := by
      by_contra hname'
      rw [get?_layer_of_ne h hname hname'] at hupper
      cases hupper
    refine ⟨?_, other, hother, hne.symm, hlower⟩
    simpa [get?_layer_name h hdistinct] using hupper
  · rintro ⟨hsome, other, hother, hne, hlower⟩
    refine ⟨o.name, o.name_mem_spellings, other, hother, hne.symm, ?_, hlower⟩
    simpa [get?_layer_name h hdistinct] using hsome

end Environment

end RecordQuery
