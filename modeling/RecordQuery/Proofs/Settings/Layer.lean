import Mathlib.Data.List.Nodup
import Mathlib.Data.List.Perm.Subperm
import RecordQuery.Proofs.Entries
import RecordQuery.Proofs.Except
import RecordQuery.Settings.Layer

set_option autoImplicit false

/-!
# Layers over each other

What two layers of settings come to, told from what each of them comes to alone: an option has the
setting of the upper layer if that gives it a value, and that of the lower one otherwise. But layers
lie over each other name by name, so that an option to which they give values in different spellings
is given twice.

## Main definitions

* `RecordQuery.Settings.Layer.valuesOf` — the values of an option, spelling by spelling.
* `RecordQuery.Settings.Layer.Sets` — whether a layer gives an option a value.
* `RecordQuery.Settings.Layer.Clash` — two layers give an option values in different spellings.

## Main results

* `RecordQuery.Settings.Layer.settings_overlay` — the settings of one layer over another.
-/

namespace RecordQuery

/-! ## Looking up names -/

namespace Entries

variable {α : Type}

/-- Of entries that are put over others, each name has the upper value if there is one. -/
theorem get?_foldl_insert {upper : Entries α} (h : upper.Distinct) (lower : Entries α)
    (name : String) :
    get? (upper.foldl (fun entries e => insert e.1 e.2 entries) lower) name =
      (get? upper name).or (get? lower name) := by
  induction upper generalizing lower with
  | nil => rfl
  | cons e upper ih =>
    obtain ⟨he, hupper⟩ := List.nodup_cons.1 h
    rw [List.foldl_cons, ih hupper, get?_insert, get?_cons]
    by_cases hname : e.1 = name
    · have hnone : get? upper name = none := by
        unfold get?
        rw [Option.map_eq_none_iff, List.find?_eq_none]
        intro d hd heq
        exact he (List.mem_map.2 ⟨d, hd, by simpa [hname] using heq⟩)
      simp [hname, hnone]
    · simp [hname]

/-- Entries that are put over others keep names ascending. -/
theorem Ascending.foldl_insert {lower : Entries α} (h : lower.Ascending) (upper : Entries α) :
    Ascending (upper.foldl (fun entries e => Entries.insert e.1 e.2 entries) lower) := by
  induction upper generalizing lower with
  | nil => exact h
  | cons e upper ih => exact ih (h.insert e.1 e.2)

end Entries

namespace Setting

/-- The options. -/
def all : List Setting := [caseSensitive, preferPatterns, dateKey]

theorem mem_all (o : Setting) : o ∈ all := by
  cases o <;> decide

theorem nodup_spellings (o : Setting) : o.spellings.Nodup := by
  cases o <;> decide

end Setting

namespace Settings

/-- An option that is given more than one value is given too many. -/
theorem choose_of_two_le {α β : Type} {o : Setting} {convert : α → Option β} {standard : β}
    {values : List α} (h : 2 ≤ values.length) :
    choose o convert standard values = .error (.repeated o) := by
  match values, h with
  | _ :: _ :: _, _ => rfl

/-- The order of the values of an option does not matter. -/
theorem choose_perm {α β : Type} (o : Setting) (convert : α → Option β) (standard : β)
    {values values' : List α} (h : values.Perm values') :
    choose o convert standard values = choose o convert standard values' := by
  match values, h with
  | [], h => rw [List.nil_perm.1 h]
  | [v], h => rw [List.singleton_perm.1 h]
  | _ :: _ :: _, h =>
    have hlength : 2 ≤ values'.length := by
      rw [← h.length_eq]
      simp
    rw [choose_of_two_le hlength]
    rfl

namespace Layer

/-- The values that a layer gives to an option, spelling by spelling. -/
def valuesOf (layer : Layer) (o : Setting) : List Json :=
  o.spellings.filterMap (Entries.get? layer)

/-- A layer gives an option a value, in some spelling. -/
def Sets (layer : Layer) (o : Setting) : Prop :=
  ∃ name ∈ o.spellings, (Entries.get? layer name).isSome

/-- Two layers give an option values in different spellings. -/
def Clash (o : Setting) (upper lower : Layer) : Prop :=
  ∃ name ∈ o.spellings, ∃ other ∈ o.spellings,
    name ≠ other ∧ (Entries.get? upper name).isSome ∧ (Entries.get? lower other).isSome

instance (layer : Layer) (o : Setting) : Decidable (layer.Sets o) :=
  inferInstanceAs (Decidable (∃ name ∈ o.spellings, (Entries.get? layer name).isSome))

instance (o : Setting) (upper lower : Layer) : Decidable (Clash o upper lower) :=
  inferInstanceAs (Decidable (∃ name ∈ o.spellings, ∃ other ∈ o.spellings,
    name ≠ other ∧ (Entries.get? upper name).isSome ∧ (Entries.get? lower other).isSome))

theorem ascending_ofPairs (pairs : List (String × Json)) : (ofPairs pairs).Ascending :=
  Entries.ascending_ofList _

/-! ## One layer -/

variable {layer upper lower : Layer}

/-- The values that are given to an option are those of its spellings. -/
theorem given_perm_valuesOf (h : layer.Distinct) (o : Setting) :
    (o.given layer).Perm (layer.valuesOf o) := by
  have hvalues : layer.valuesOf o =
      (o.spellings.filterMap fun name => (Entries.get? layer name).map (name, ·)).map (·.2) := by
    simp [valuesOf, List.map_filterMap, Function.comp_def]
  rw [Setting.given, hvalues]
  refine List.Perm.map _ ((List.perm_ext_iff_of_nodup ?_ ?_).2 fun p => ?_)
  · exact (List.Nodup.of_map _ h).filter _
  · refine List.Nodup.filterMap (fun name other p hp hp' => ?_) (Setting.nodup_spellings o)
    obtain ⟨v, -, rfl⟩ := Option.map_eq_some_iff.1 hp
    obtain ⟨w, -, heq⟩ := Option.map_eq_some_iff.1 hp'
    exact (congrArg Prod.fst heq).symm
  · rw [List.mem_filter, List.mem_filterMap]
    constructor
    · rintro ⟨hp, hname⟩
      exact ⟨p.1, by simpa using hname, by rw [h.get?_of_mem hp]; rfl⟩
    · rintro ⟨name, hname, hp⟩
      obtain ⟨v, hv, rfl⟩ := Option.map_eq_some_iff.1 hp
      obtain ⟨e, he, rfl⟩ := Option.map_eq_some_iff.1 hv
      have hmem := List.mem_of_find?_eq_some he
      have hfound : e.1 = name := by simpa using List.find?_some he
      subst hfound
      exact ⟨hmem, by simpa using hname⟩

/-- What a layer says about each option, as the values of its spellings. -/
theorem settings_eq_ok_iff (h : layer.Distinct) {s : Settings} :
    layer.settings = .ok s ↔
      choose .caseSensitive truth? false (layer.valuesOf .caseSensitive) = .ok s.caseSensitive ∧
      choose .preferPatterns truth? false (layer.valuesOf .preferPatterns) =
        .ok s.preferPatterns ∧
      choose .dateKey text? "date" (layer.valuesOf .dateKey) = .ok s.dateKey := by
  simp only [settings, ofNamed, bind, pure, Except.pure, Except.bind_eq_ok_iff, Except.ok.injEq,
    choose_perm _ _ _ (given_perm_valuesOf h _)]
  constructor
  · rintro ⟨c, hc, p, hp, k, hk, rfl⟩
    exact ⟨hc, hp, hk⟩
  · rintro ⟨hc, hp, hk⟩
    exact ⟨_, hc, _, hp, _, hk, rfl⟩

/-- A layer that gives an option no value has none under its spellings. -/
theorem get?_of_not_sets {o : Setting} (h : ¬layer.Sets o) {name : String}
    (hname : name ∈ o.spellings) : Entries.get? layer name = none := by
  by_contra hsome
  exact h ⟨name, hname, Option.isSome_iff_ne_none.2 hsome⟩

/-! ## One layer over another -/

/-- In one layer over another a name has the upper value if there is one. -/
theorem get?_overlay_eq (h : upper.Distinct) (name : String) :
    Entries.get? (upper.overlay lower) name =
      (Entries.get? upper name).or (Entries.get? lower name) :=
  Entries.get?_foldl_insert h lower name

/-- Without a clash an option has the values of the upper layer, if there are any. -/
theorem valuesOf_overlay (h : upper.Distinct) {o : Setting} (hclash : ¬Clash o upper lower) :
    (upper.overlay lower).valuesOf o =
      if upper.Sets o then upper.valuesOf o else lower.valuesOf o := by
  split
  · rename_i hsets
    obtain ⟨name, hname, hsome⟩ := hsets
    refine List.filterMap_congr fun other hother => ?_
    rw [get?_overlay_eq h]
    by_cases hne : name = other
    · subst hne
      obtain ⟨v, hv⟩ := Option.isSome_iff_exists.1 hsome
      simp [hv]
    -- a value of the lower layer in this spelling would clash with the upper one
    · have hlower : Entries.get? lower other = none := by
        by_contra hlower
        exact hclash ⟨name, hname, other, hother, hne, hsome, Option.isSome_iff_ne_none.2 hlower⟩
      rw [hlower, Option.or_none]
  · rename_i hsets
    refine List.filterMap_congr fun other hother => ?_
    rw [get?_overlay_eq h, get?_of_not_sets hsets hother, Option.none_or]

/-- Where layers clash, an option has two values at least. -/
theorem two_le_length_valuesOf (h : upper.Distinct) {o : Setting} (hclash : Clash o upper lower) :
    2 ≤ ((upper.overlay lower).valuesOf o).length := by
  obtain ⟨name, hname, other, hother, hne, hupper, hlower⟩ := hclash
  obtain ⟨v, hv⟩ := Option.isSome_iff_exists.1 hupper
  obtain ⟨w, hw⟩ := Option.isSome_iff_exists.1 hlower
  have hsub : [name, other].Subperm o.spellings := by
    refine List.subperm_of_subset (by simpa using hne) fun n hn => ?_
    rcases List.mem_pair.1 hn with rfl | rfl
    · exact hname
    · exact hother
  have hcount := hsub.countP_le fun n => (Entries.get? (upper.overlay lower) n).isSome
  rw [valuesOf, List.length_filterMap_eq_countP]
  refine le_trans (Nat.le_of_eq ?_) hcount
  simp [get?_overlay_eq h, hv, hw]

/-- What an option comes to in one layer over another. -/
theorem choose_overlay {β : Type} {o : Setting} {convert : Json → Option β} {standard u l : β}
    (h : upper.Distinct)
    (hupper : choose o convert standard (upper.valuesOf o) = .ok u)
    (hlower : choose o convert standard (lower.valuesOf o) = .ok l) :
    choose o convert standard ((upper.overlay lower).valuesOf o) =
      if Clash o upper lower then .error (.repeated o)
      else .ok (if upper.Sets o then u else l) := by
  split
  · rename_i hclash
    exact choose_of_two_le (two_le_length_valuesOf h hclash)
  · rename_i hclash
    rw [valuesOf_overlay h hclash]
    split
    · exact hupper
    · exact hlower

/-- The settings that have those of the upper layer where it gives a value. -/
def chosen (upper : Layer) (u l : Settings) : Settings where
  caseSensitive := if upper.Sets .caseSensitive then u.caseSensitive else l.caseSensitive
  preferPatterns := if upper.Sets .preferPatterns then u.preferPatterns else l.preferPatterns
  dateKey := if upper.Sets .dateKey then u.dateKey else l.dateKey

/-- **The settings of one layer over another** are those of the upper layer where it gives values
and those of the lower one elsewhere, unless they give an option values in different spellings,
which is then given twice. -/
theorem settings_overlay (hupper : upper.Distinct) (hlower : lower.Ascending) {u l : Settings}
    (hu : upper.settings = .ok u) (hl : lower.settings = .ok l) :
    (upper.overlay lower).settings =
      match Setting.all.find? fun o => Clash o upper lower with
      | some o => .error (.repeated o)
      | none => .ok (chosen upper u l) := by
  have hdistinct : (upper.overlay lower).Distinct := (hlower.foldl_insert upper).distinct
  obtain ⟨hcu, hpu, hku⟩ := (settings_eq_ok_iff hupper).1 hu
  obtain ⟨hcl, hpl, hkl⟩ := (settings_eq_ok_iff hlower.distinct).1 hl
  have hc := choose_overlay hupper hcu hcl
  have hp := choose_overlay hupper hpu hpl
  have hk := choose_overlay hupper hku hkl
  simp only [settings, ofNamed, choose_perm _ _ _ (given_perm_valuesOf hdistinct _), hc, hp, hk]
  by_cases hcase : Clash .caseSensitive upper lower
  · simp [Setting.all, hcase, bind, Except.bind]
  by_cases hprefer : Clash .preferPatterns upper lower
  · simp [Setting.all, hcase, hprefer, bind, Except.bind]
  by_cases hdate : Clash .dateKey upper lower
  · simp [Setting.all, hcase, hprefer, hdate, bind, Except.bind]
  · simp [Setting.all, hcase, hprefer, hdate, bind, Except.bind, pure, Except.pure, chosen]

end Layer

end Settings

end RecordQuery
