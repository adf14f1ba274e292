import Mathlib.Data.List.Induction
import Mathlib.Data.String.Basic
import RecordQuery.Entries

set_option autoImplicit false

/-!
# Names of entries

Entries that are put together by inserting have ascending names, and so no name twice. Then a value
is one of the values exactly if it stands under some name.

## Main definitions

* `RecordQuery.Entries.Ascending`, `RecordQuery.Entries.Distinct` — properties of the names.

## Main results

* `RecordQuery.Entries.ascending_ofList` — entries that are put together have ascending names.
* `RecordQuery.Entries.get?_ofList_eq_some` — a name has the only value that is put under it.
* `RecordQuery.Entries.Distinct.mem_values_iff` — the values are what stands under the names.
-/

namespace RecordQuery

namespace Entries

variable {α : Type} {entries : Entries α}

/-- The names of entries are in ascending order. -/
def Ascending (entries : Entries α) : Prop := entries.Pairwise fun d e => d.1 < e.1

/-- The names of entries are distinct. -/
def Distinct (entries : Entries α) : Prop := (entries.map (·.1)).Nodup

/-- What is there after an insertion was there before or is what was inserted. -/
theorem eq_or_mem_of_mem_insert {name : String} {value : α} {e : String × α}
    (h : e ∈ insert name value entries) : e = (name, value) ∨ e ∈ entries := by
  induction entries with
  | nil => simpa [insert] using h
  | cons d entries ih =>
    unfold insert at h
    split at h
    · simpa using h
    split at h
    · rcases List.mem_cons.1 h with rfl | h
      · exact .inl rfl
      · exact .inr (List.mem_cons_of_mem _ h)
    · rcases List.mem_cons.1 h with rfl | h
      · exact .inr List.mem_cons_self
      · exact (ih h).imp_right (List.mem_cons_of_mem _)

/-- Inserting keeps names ascending. -/
theorem Ascending.insert (h : Ascending entries) (name : String) (value : α) :
    Ascending (insert name value entries) := by
  induction entries with
  | nil => exact List.pairwise_singleton _ _
  | cons d entries ih =>
    obtain ⟨hd, htail⟩ := List.pairwise_cons.1 h
    unfold Entries.insert
    split
    · rename_i hlt
      refine List.pairwise_cons.2 ⟨List.forall_mem_cons.2 ⟨hlt, fun e he => ?_⟩, h⟩
      exact lt_trans hlt (hd e he)
    split
    · rename_i heq
      subst heq
      exact List.pairwise_cons.2 ⟨hd, htail⟩
    · rename_i hlt hne
      refine List.pairwise_cons.2 ⟨fun e he => ?_, ih htail⟩
      rcases eq_or_mem_of_mem_insert he with rfl | he
      · exact lt_of_le_of_ne (not_lt.1 hlt) (Ne.symm hne)
      · exact hd e he

/-- The last of some pairs is inserted into the entries of those before it. -/
theorem ofList_concat (pairs : List (String × α)) (p : String × α) :
    ofList (pairs ++ [p]) = insert p.1 p.2 (ofList pairs) := by
  rw [ofList, List.foldl_append]
  rfl

/-- Entries that are put together from pairs have ascending names. -/
theorem ascending_ofList (pairs : List (String × α)) : Ascending (ofList pairs) := by
  induction pairs using List.reverseRecOn with
  | nil => exact List.Pairwise.nil
  | append_singleton pairs p ih =>
    rw [ofList_concat]
    exact ih.insert p.1 p.2

/-- Ascending names are distinct. -/
theorem Ascending.distinct (h : Ascending entries) : Distinct entries :=
  List.pairwise_map.2 (h.imp fun hlt => ne_of_lt hlt)

/-- What is inserted under a new name is added to the entries. -/
theorem insert_perm {name : String} (value : α) (h : name ∉ entries.map (·.1)) :
    (insert name value entries).Perm ((name, value) :: entries) := by
  induction entries with
  | nil => exact .refl _
  | cons d entries ih =>
    rw [List.map_cons, List.mem_cons, not_or] at h
    unfold insert
    split
    · exact .refl _
    rw [if_neg h.1]
    exact ((ih h.2).cons d).trans (.swap _ _ _)

/-- **Entries of pairs with distinct names are these pairs**, in another order. -/
theorem ofList_perm {pairs : List (String × α)} (h : Distinct pairs) :
    (ofList pairs).Perm pairs := by
  induction pairs using List.reverseRecOn with
  | nil => exact .refl _
  | append_singleton pairs p ih =>
    have hlast : (pairs ++ [p]).Perm (p :: pairs) := List.perm_append_singleton p pairs
    obtain ⟨hnew, hrest⟩ := List.nodup_cons.1 ((hlast.map _).nodup_iff.1 h)
    have hperm := ih hrest
    have hnew' : p.1 ∉ (ofList pairs).map (·.1) := fun hmem =>
      hnew ((hperm.map _).mem_iff.1 hmem)
    rw [ofList_concat]
    exact (insert_perm p.2 hnew').trans ((hperm.cons p).trans hlast.symm)

/-- **The order of pairs with distinct names does not matter** where they are put together. -/
theorem ofList_eq_of_perm {pairs others : List (String × α)} (h : Distinct pairs)
    (hperm : pairs.Perm others) : ofList pairs = ofList others := by
  have hothers : Distinct others := (hperm.map _).nodup_iff.1 h
  refine ((ofList_perm h).trans (hperm.trans (ofList_perm hothers).symm)).eq_of_pairwise ?_
    (ascending_ofList pairs) (ascending_ofList others)
  exact fun d e _ _ hde hed => absurd (hde.trans hed) (lt_irrefl _)

/-- An entry is what stands under its name, if no other entry has it. -/
theorem Distinct.get?_of_mem (h : Distinct entries) {e : String × α} (he : e ∈ entries) :
    entries.get? e.1 = some e.2 := by
  induction entries with
  | nil => cases he
  | cons d entries ih =>
    obtain ⟨hd, htail⟩ := List.nodup_cons.1 h
    rw [get?_cons]
    rcases List.mem_cons.1 he with rfl | he
    · simp
    · have hne : d.1 ≠ e.1 := fun heq => hd (List.mem_map.2 ⟨e, he, heq.symm⟩)
      rw [if_neg hne, ih htail he]

/-- What stands under a name is an entry of this name. -/
theorem mem_of_get? {name : String} {x : α} (hx : entries.get? name = some x) :
    (name, x) ∈ entries := by
  obtain ⟨e, he, rfl⟩ := Option.map_eq_some_iff.1 hx
  have hname : e.1 = name := by simpa using List.find?_some he
  exact hname ▸ List.mem_of_find?_eq_some he

/-- Where values are replaced or left out, each name has what became of its value. -/
theorem Distinct.get?_filterMap {β : Type} (h : Distinct entries) (f : α → Option β)
    (name : String) :
    get? (entries.filterMap fun e => (f e.2).map (e.1, ·)) name = (entries.get? name).bind f := by
  induction entries with
  | nil => rfl
  | cons e entries ih =>
    obtain ⟨hnew, htail⟩ := List.nodup_cons.1 h
    have hnone : get? entries e.1 = none := by
      by_contra hsome
      obtain ⟨x, hx⟩ := Option.ne_none_iff_exists'.1 hsome
      exact hnew (List.mem_map.2 ⟨_, mem_of_get? hx, rfl⟩)
    rw [get?_cons]
    cases hf : f e.2 with
    | none =>
      rw [List.filterMap_cons_none (by rw [hf]; rfl), ih htail]
      split
      · rename_i hname
        rw [← hname, hnone, Option.bind_some, hf]
        rfl
      · rfl
    | some b =>
      rw [List.filterMap_cons_some (by rw [hf]; rfl), get?_cons, ih htail]
      split
      · rw [Option.bind_some, hf]
      · rfl

/-! ## What is put under a name -/

variable {pairs : List (String × α)} {name : String}

/-- What is there after pairs are put together is one of them. -/
theorem mem_of_mem_ofList {e : String × α} (h : e ∈ ofList pairs) : e ∈ pairs := by
  induction pairs using List.reverseRecOn with
  | nil => exact h
  | append_singleton pairs p ih =>
    rw [ofList_concat] at h
    rcases eq_or_mem_of_mem_insert h with rfl | h
    · exact List.mem_append_right _ List.mem_cons_self
    · exact List.mem_append_left _ (ih h)

/-- A name that some value is put under has a value. -/
theorem isSome_get?_ofList {x : α} (hx : (name, x) ∈ pairs) : (get? (ofList pairs) name).isSome := by
  induction pairs using List.reverseRecOn with
  | nil => cases hx
  | append_singleton pairs p ih =>
    rw [ofList_concat, get?_insert]
    split
    · rfl
    · rename_i hne
      refine ih ((List.mem_append.1 hx).resolve_right fun hlast => hne ?_)
      rw [← List.mem_singleton.1 hlast]

/-- A name has no value exactly if none is put under it. -/
theorem get?_ofList_eq_none_iff : get? (ofList pairs) name = none ↔ ∀ x, (name, x) ∉ pairs := by
  constructor
  · intro hnone x hx
    have hsome := isSome_get?_ofList hx
    rw [hnone] at hsome
    cases hsome
  · intro h
    by_contra hsome
    obtain ⟨x, hx⟩ := Option.ne_none_iff_exists'.1 hsome
    exact h x (mem_of_mem_ofList (mem_of_get? hx))

/-- **A name has the only value that is put under it**, however often. -/
theorem get?_ofList_eq_some {x : α} (hx : (name, x) ∈ pairs)
    (hunique : ∀ y, (name, y) ∈ pairs → y = x) : get? (ofList pairs) name = some x := by
  obtain ⟨y, hy⟩ := Option.isSome_iff_exists.1 (isSome_get?_ofList hx)
  rw [hy, hunique y (mem_of_mem_ofList (mem_of_get? hy))]

/-! ## Values -/

/-- What stands under a name is one of the values. -/
theorem mem_values_of_get? {name : String} {x : α} (hx : entries.get? name = some x) :
    x ∈ entries.values := by
  obtain ⟨e, he, rfl⟩ := Option.map_eq_some_iff.1 hx
  exact List.mem_map_of_mem (List.mem_of_find?_eq_some he)

/-- The values are what stands under the names. -/
theorem Distinct.mem_values_iff (h : Distinct entries) {x : α} :
    x ∈ entries.values ↔ ∃ name, entries.get? name = some x := by
  constructor
  · intro hx
    obtain ⟨e, he, rfl⟩ := List.mem_map.1 hx
    exact ⟨e.1, h.get?_of_mem he⟩
  · rintro ⟨name, hx⟩
    exact mem_values_of_get? hx

end Entries

end RecordQuery
