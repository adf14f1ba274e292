import Mathlib
import RecordQuery.Proofs.Json.Grammar
import RecordQuery.Record

set_option autoImplicit false

/-!
# Objects in another order

An object whose members have distinct names, at every depth, is read as the same value in whatever order its
members and those of the objects in it are written, and with whatever white space between its tokens. So the
record that it is and the text that is written for it are the same too.

## Main definitions

* `RecordQuery.Json.Source.Distinct` — no object in a tree has two members of one name.
* `RecordQuery.Json.Source.Reordered` — trees that differ in the order of members.

## Main results

* `RecordQuery.Json.Source.Reordered.value_eq` — reordering changes no value.
* `RecordQuery.Json.read_of_reordered` — what an object is read as, and the record that it is.
-/

namespace RecordQuery

namespace Json

namespace Source

/-! ## Reordering -/

/-- In every object of a tree the members have distinct names. -/
inductive Distinct : Source → Prop where
  | scalar (s : Scalar) : Distinct (.scalar s)
  | array {items : List Source} (hitems : ∀ s ∈ items, Distinct s) : Distinct (.array items)
  | object {members : List (Label × Source)} (hnames : (members.map fun m => m.1.name).Nodup)
      (hmembers : ∀ m ∈ members, Distinct m.2) : Distinct (.object members)

/-- Trees that come from each other by permuting the members of objects, at any depth. -/
inductive Reordered : Source → Source → Prop where
  | refl (s : Source) : Reordered s s
  | trans {s t u : Source} (h : Reordered s t) (h' : Reordered t u) : Reordered s u
  | permute {members others : List (Label × Source)} (h : members.Perm others) :
      Reordered (.object members) (.object others)
  | item {s t : Source} (front back : List Source) (h : Reordered s t) :
      Reordered (.array (front ++ s :: back)) (.array (front ++ t :: back))
  | member {s t : Source} (l : Label) (front back : List (Label × Source)) (h : Reordered s t) :
      Reordered (.object (front ++ (l, s) :: back)) (.object (front ++ (l, t) :: back))

/-- The names of the pairs of an object are those of its members. -/
theorem distinct_pairs_iff {members : List (Label × Source)} :
    Entries.Distinct (pairs members) ↔ (members.map fun m => m.1.name).Nodup := by
  rw [Entries.Distinct, pairs_eq, List.map_map]
  rfl

/-- The order of items does not matter for how deep they nest. -/
theorem depthOfItems_eq_of {items others : List Source}
    (h : ∀ depth, (∀ s ∈ items, s.depth ≤ depth) ↔ ∀ s ∈ others, s.depth ≤ depth) :
    depthOfItems items = depthOfItems others :=
  eq_of_forall_ge_iff fun depth => by rw [depthOfItems_le_iff, depthOfItems_le_iff, h]

theorem depthOfMembers_eq_of {members others : List (Label × Source)}
    (h : ∀ depth, (∀ m ∈ members, m.2.depth ≤ depth) ↔ ∀ m ∈ others, m.2.depth ≤ depth) :
    depthOfMembers members = depthOfMembers others :=
  eq_of_forall_ge_iff fun depth => by rw [depthOfMembers_le_iff, depthOfMembers_le_iff, h]

/-- **Reordering changes no value** if names are distinct, and makes nothing nest deeper.

**Proof sketch.** Induction on the reordering. Members that are permuted are the same entries, since entries
are kept in the order of their names. -/
theorem Reordered.value_eq {s t : Source} (h : s.Reordered t) (hs : s.Distinct) :
    t.Distinct ∧ t.value = s.value ∧ t.depth = s.depth := by
  induction h with
  | refl => exact ⟨hs, rfl, rfl⟩
  | trans _ _ ih ih' =>
    obtain ⟨ht, hvalue, hdepth⟩ := ih hs
    obtain ⟨hu, hvalue', hdepth'⟩ := ih' ht
    exact ⟨hu, hvalue'.trans hvalue, hdepth'.trans hdepth⟩
  | @permute members others hperm =>
    cases hs with | object hnames hmembers => ?_
    have hpairs : (pairs members).Perm (pairs others) := by
      rw [pairs_eq, pairs_eq]
      exact hperm.map _
    refine ⟨.object ((hperm.map _).nodup_iff.1 hnames) fun m hm => hmembers m (hperm.mem_iff.2 hm),
      ?_, ?_⟩
    · rw [value, value, Entries.ofList_eq_of_perm (distinct_pairs_iff.2 hnames) hpairs]
    · rw [depth, depth, depthOfMembers_eq_of fun depth => ?_]
      simp only [hperm.mem_iff]
  | @item s t front back _ ih =>
    cases hs with | array hitems => ?_
    obtain ⟨hfront, hs, hback⟩ : (∀ u ∈ front, Distinct u) ∧ Distinct s ∧ ∀ u ∈ back, Distinct u := by
      simpa only [List.forall_mem_append, List.forall_mem_cons] using hitems
    obtain ⟨ht, hvalue, hdepth⟩ := ih hs
    refine ⟨.array ?_, ?_, ?_⟩
    · simpa only [List.forall_mem_append, List.forall_mem_cons] using ⟨hfront, ht, hback⟩
    · simp only [value, values_eq, List.map_append, List.map_cons, hvalue]
    · rw [depth, depth, depthOfItems_eq_of fun depth => ?_]
      simp only [List.forall_mem_append, List.forall_mem_cons, hdepth]
  | @member s t l front back _ ih =>
    cases hs with | object hnames hmembers => ?_
    obtain ⟨hfront, hs, hback⟩ :
        (∀ m ∈ front, Distinct m.2) ∧ Distinct s ∧ ∀ m ∈ back, Distinct m.2 := by
      simpa only [List.forall_mem_append, List.forall_mem_cons] using hmembers
    obtain ⟨ht, hvalue, hdepth⟩ := ih hs
    refine ⟨.object ?_ ?_, ?_, ?_⟩
    · simpa only [List.map_append, List.map_cons] using hnames
    · simpa only [List.forall_mem_append, List.forall_mem_cons] using ⟨hfront, ht, hback⟩
    · simp only [value, pairs_eq, List.map_append, List.map_cons, hvalue]
    · rw [depth, depth, depthOfMembers_eq_of fun depth => ?_]
      simp only [List.forall_mem_append, List.forall_mem_cons, hdepth]

end Source

end Json

/-! ## Records -/

/-- Only a null is no value of a field. -/
theorem Json.toValue?_eq_none_iff {v : Json} : v.toValue? = none ↔ v = .null := by
  cases v with
  | bool b => cases b <;> simp [Json.toValue?]
  | _ => simp [Json.toValue?]

/-- The record of an object has what its members are, those that are null left out. -/
theorem Record.exists_ofJson?_eq {entries : Entries Json} (h : entries.Distinct) :
    ∃ record, Record.ofJson? (.object entries) = some record ∧
      ∀ name, record.get? name = (entries.get? name).bind Json.toValue? :=
  ⟨_, rfl, h.get?_filterMap Json.toValue?⟩

namespace Json

open Source

/-- **An object is read alike in whatever order and layout**: if its members have distinct names, at every
depth, permuting members anywhere in it and changing the white space between its tokens gives a text that is
read as the same value. So the record that it is and the text that is written for it are the same too. The
record has the members that are not null, each with its value, and no others.

Every text of an object is written as the tree of some members says.

**Proof sketch.** What a text is read as depends on its tree alone (`Source.Lays.read_eq_ok_iff`), and the
value and the depth of the tree do not change by reordering (`Reordered.value_eq`). -/
theorem read_of_reordered {text : List Char} {entries : Entries Json}
    (h : read text = .ok (.object entries)) :
    (∃ members, (Source.object members).Lays text) ∧
      ∀ members, (Source.object members).Lays text → (Source.object members).Distinct →
        (∀ s text', (Source.object members).Reordered s → s.Lays text' →
          read text' = .ok (.object entries)) ∧
        ∃ record, Record.ofJson? (.object entries) = some record ∧
          (∀ m ∈ members, Entries.get? record m.1.name = m.2.value.toValue?) ∧
          ∀ name, (Entries.get? record name).isSome ↔
            ∃ m ∈ members, m.1.name = name ∧ m.2.value ≠ .null := by
  refine ⟨?_, fun members hlays hdistinct => ⟨fun s text' hreordered hlays' => ?_, ?_⟩⟩
  · obtain ⟨s, hlays, -, hvalue⟩ := read_eq_ok_iff.1 h
    obtain ⟨members, rfl⟩ := exists_members_of_value hvalue
    exact ⟨members, hlays⟩
  · obtain ⟨hdepth, hvalue⟩ := hlays.read_eq_ok_iff.1 h
    obtain ⟨-, hvalue', hdepth'⟩ := hreordered.value_eq hdistinct
    exact hlays'.read_eq_ok_iff.2 ⟨hdepth' ▸ hdepth, hvalue'.trans hvalue⟩
  · obtain ⟨-, hvalue⟩ := hlays.read_eq_ok_iff.1 h
    obtain rfl : Entries.ofList (pairs members) = entries := Json.object.inj hvalue
    cases hdistinct with | object hnames hmembers => ?_
    have hperm := Entries.ofList_perm (distinct_pairs_iff.2 hnames)
    have hentries := (Entries.ascending_ofList (pairs members)).distinct
    obtain ⟨record, hrecord, hget⟩ := Record.exists_ofJson?_eq hentries
    have hmember : ∀ m ∈ members,
        (Entries.ofList (pairs members)).get? m.1.name = some m.2.value := by
      intro m hm
      have hpair : (m.1.name, m.2.value) ∈ pairs members := by
        rw [pairs_eq]
        exact List.mem_map_of_mem hm
      exact hentries.get?_of_mem (hperm.mem_iff.2 hpair)
    refine ⟨record, hrecord, fun m hm => by rw [hget, hmember m hm, Option.bind_some],
      fun name => ?_⟩
    rw [hget, Option.isSome_iff_exists]
    constructor
    · rintro ⟨x, hx⟩
      obtain ⟨v, hv, hvalue⟩ := Option.bind_eq_some_iff.1 hx
      have hpair := hperm.mem_iff.1 (Entries.mem_of_get? hv)
      rw [pairs_eq] at hpair
      obtain ⟨m, hm, heq⟩ := List.mem_map.1 hpair
      obtain ⟨rfl, rfl⟩ := Prod.mk.inj heq
      refine ⟨m, hm, rfl, fun hnull => ?_⟩
      rw [hnull] at hvalue
      cases hvalue
    · rintro ⟨m, hm, rfl, hne⟩
      rw [hmember m hm, Option.bind_some]
      exact Option.ne_none_iff_exists'.1 fun hnone => hne (toValue?_eq_none_iff.1 hnone)

/-- An object with an object in it, both in the other order and on two lines. The member that is null is none
of the record, and the one in the object is part of its text. -/
theorem read_of_reordered_nested :
    let entries := [("a", .null), ("b", .object [("x", .null), ("y", .integer 1)])]
    read "\x7b\"b\":\x7b\"y\":1,\"x\":null\x7d,\"a\":null\x7d".toList = .ok (.object entries) ∧
      read "\x7b \"a\":null,\n\"b\":\x7b\"x\":null,\"y\":1\x7d\x7d".toList =
        .ok (.object entries) ∧
      ∃ record, Record.ofJson? (.object entries) = some record ∧
        Entries.get? record "b" = some (.text "\x7b\"x\":null,\"y\":1\x7d") ∧
        Entries.get? record "a" = none := by
  intro entries
  let null : Source := .scalar ⟨"null".toList, .null, by rintro _ ⟨⟩; decide, ⟨[], 1, 4⟩, by cbv, rfl⟩
  let one : Source := .scalar ⟨"1".toList, .integer 1, by rintro _ ⟨⟩; decide, ⟨[], 1, 1⟩, by cbv, rfl⟩
  let a : Label := ⟨"a\"".toList, "a", ⟨[], 1, 2⟩, by cbv, rfl⟩
  let b : Label := ⟨"b\"".toList, "b", ⟨[], 1, 2⟩, by cbv, rfl⟩
  let x : Label := ⟨"x\"".toList, "x", ⟨[], 1, 2⟩, by cbv, rfl⟩
  let y : Label := ⟨"y\"".toList, "y", ⟨[], 1, 2⟩, by cbv, rfl⟩
  let members := [(b, .object [(y, one), (x, null)]), (a, null)]
  let others := [(a, null), (b, .object [(x, null), (y, one)])]
  have hread : read "\x7b\"b\":\x7b\"y\":1,\"x\":null\x7d,\"a\":null\x7d".toList =
      .ok (.object entries) := by cbv
  obtain ⟨-, hobject⟩ := read_of_reordered hread
  have hlays : (Source.object members).Lays
      "\x7b\"b\":\x7b\"y\":1,\"x\":null\x7d,\"a\":null\x7d".toList := by
    refine ⟨[], List.forall_mem_nil _, ?_⟩
    exact spaced_flatMap ((Source.object members).tokens.map ([], ·)) (by simp [IsGap]) []
  have hother : (Source.object others).Lays
      "\x7b \"a\":null,\n\"b\":\x7b\"x\":null,\"y\":1\x7d\x7d".toList := by
    refine ⟨[], List.forall_mem_nil _, ?_⟩
    exact spaced_flatMap (([[], [' '], [], [], [], ['\n']] ++ List.replicate 11 []).zip
      (Source.object others).tokens) (by decide) []
  have hdistinct : (Source.object members).Distinct := by
    refine .object (by decide) (List.forall_mem_cons.2 ⟨?_, List.forall_mem_singleton.2 (.scalar _)⟩)
    refine .object (by decide) (List.forall_mem_cons.2 ⟨.scalar _, ?_⟩)
    exact List.forall_mem_singleton.2 (.scalar _)
  have hreordered : (Source.object members).Reordered (.object others) :=
    .trans (.member b [] [(a, null)] (.permute (.swap _ _ _))) (.permute (.swap _ _ _))
  obtain ⟨hreads, record, hrecord, hmembers, -⟩ := hobject members hlays hdistinct
  have hinner : Entries.ofList [("y", .integer 1), ("x", .null)] =
      [("x", .null), ("y", Json.integer 1)] := by cbv
  have hb : Entries.get? record "b" =
      (Json.object (Entries.ofList [("y", .integer 1), ("x", .null)])).toValue? :=
    hmembers (b, .object [(y, one), (x, null)]) List.mem_cons_self
  rw [hinner] at hb
  refine ⟨hread, hreads _ _ hreordered hother, record, hrecord, hb.trans (by cbv), ?_⟩
  exact hmembers (a, null) (List.mem_cons_of_mem _ List.mem_cons_self)

end Json

end RecordQuery
