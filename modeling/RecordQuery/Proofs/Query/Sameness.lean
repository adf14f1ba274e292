import RecordQuery.Proofs.Query.Selections
import RecordQuery.Query.Compiled

set_option autoImplicit false

/-!
# Equal queries

Two queries are equal if their trees are, where patterns are compared by their sources and numbers as
numbers. Of trees in general this says little: a pattern may have been compiled in another way, and what
is not a number is not equal to itself. Trees that are parsed under the same settings, however, hold
only patterns that are compiled as the settings say, and only numbers that are written in digits. Such
trees are equal exactly if they are the same, and so equal queries select the same records and raise
the same warnings.

## Main definitions

* `RecordQuery.Tree.patterns` — the patterns of a query.

## Main results

* `RecordQuery.Tree.WellFormed.same_iff_eq` — equal well-formed trees are the same.
* `RecordQuery.Query.selects_eq_of_same` — equal trees mean the same query.
-/

namespace RecordQuery

open Grammar

variable {s : Settings} {t u : Tree} {v w : Literal} {p : Pattern}

/-! ## Literals and numbers -/

/-- Numbers that are written in digits are equal only if they are the same. -/
theorem IsNumeral.eq_iff {text text' : String} {x y : Number} (hx : IsNumeral text x)
    (hy : IsNumeral text' y) : x.eq y = true ↔ x = y := by
  obtain ⟨⟨a, ha⟩, rfl⟩ := hx.exists_real
  obtain ⟨⟨b, hb⟩, rfl⟩ := hy.exists_real
  simp [Number.eq, Number.order?]

/-- Literals that can be written are equal only if they are the same: their patterns are compiled from
their sources under the same settings. -/
theorem Literal.WellFormed.same_iff_eq (hv : v.WellFormed s) (hw : w.WellFormed s) :
    v.same w = true ↔ v = w := by
  cases v with
  | text a =>
    cases w with
    | text b => simp [Literal.same]
    | pattern q => simp [Literal.same]
  | pattern p =>
    cases w with
    | text b => simp [Literal.same]
    | pattern q =>
      have hp : Pattern.compile (!s.caseSensitive) p.source = .ok p := hv.2
      have hq : Pattern.compile (!s.caseSensitive) q.source = .ok q := hw.2
      have hsource : p.source = q.source → p = q := by
        intro h
        rw [h, hq] at hp
        exact (Except.ok.inj hp).symm
      simpa [Literal.same] using ⟨hsource, fun h => h ▸ rfl⟩

namespace Tree

/-! ## Trees -/

/-- **Parts of queries are equal only if they are the same.**

**Proof sketch.** Induction on the tree: selections of the same kind are compared by what they hold,
which is a literal (`Literal.WellFormed.same_iff_eq`), a number (`IsNumeral.eq_iff`) or a text. -/
theorem IsPart.same_iff_eq (ht : t.IsPart s) (hu : u.IsPart s) : t.same u = true ↔ t = u := by
  induction t generalizing u with
  | everything => exact ht.elim
  | joined j left right ihl ihr =>
    cases u with
    | joined j' left' right' =>
      simp only [same, Bool.and_eq_true, beq_iff_eq, ihl ht.1 hu.1, ihr ht.2 hu.2, joined.injEq,
        and_assoc]
    | everything | field | number | date | anyField => simp [same]
  | field key negated v =>
    cases u with
    | field key' negated' w =>
      simp only [same, Bool.and_eq_true, beq_iff_eq, ht.2.2.2.same_iff_eq hu.2.2.2, field.injEq,
        and_assoc]
    | everything | joined | number | date | anyField => simp [same]
  | number key c negated x =>
    cases u with
    | number key' c' negated' y =>
      obtain ⟨-, text, hx⟩ := ht
      obtain ⟨-, text', hy⟩ := hu
      simp only [same, Bool.and_eq_true, beq_iff_eq, hx.eq_iff hy, number.injEq, and_assoc]
    | everything | joined | field | date | anyField => simp [same]
  | date side negated bound =>
    cases u with
    | date side' negated' bound' =>
      simp only [same, Bool.and_eq_true, beq_iff_eq, date.injEq, and_assoc]
    | everything | joined | field | number | anyField => simp [same]
  | anyField v =>
    cases u with
    | anyField w => simp only [same, Literal.WellFormed.same_iff_eq ht hu, anyField.injEq]
    | everything | joined | field | number | date => simp [same]

/-- **Well-formed trees are equal only if they are the same.** -/
theorem WellFormed.same_iff_eq (ht : t.WellFormed s) (hu : u.WellFormed s) :
    t.same u = true ↔ t = u := by
  rcases ht with rfl | ht
  · cases u <;> simp [same]
  · rcases hu with rfl | hu
    · cases t <;> simp [same]
    · exact ht.same_iff_eq hu

/-- Trees that are parsed under the same settings are equal only if they are the same. -/
theorem same_iff_eq_of_ofText {query query' : String} (ht : ofText s query = .ok t)
    (hu : ofText s query' = .ok u) : t.same u = true ↔ t = u :=
  (wellFormed_of_ofText ht).same_iff_eq (wellFormed_of_ofText hu)

/-- The tree of a text is equal to itself. -/
theorem same_self_of_ofText {query : String} (h : ofText s query = .ok t) : t.same t = true :=
  (same_iff_eq_of_ofText h h).2 rfl

/-! ## What parsed trees hold -/

/-- The patterns of a query, in reading order. -/
def patterns : Tree → List Pattern
  | joined _ left right => left.patterns ++ right.patterns
  | field _ _ (.pattern p) | anyField (.pattern p) => [p]
  | _ => []

/-- The patterns of a part are compiled from their sources as the settings say. -/
theorem IsPart.isPattern_of_mem (h : t.IsPart s) (hp : p ∈ t.patterns) : IsPattern s p.source p := by
  induction t with
  | everything | number | date => cases hp
  | joined j left right ihl ihr => exact (List.mem_append.1 hp).elim (ihl h.1) (ihr h.2)
  | field key negated v =>
    cases v with
    | text a => cases hp
    | pattern q =>
      obtain rfl := List.mem_singleton.1 hp
      exact h.2.2.2.2
  | anyField v =>
    cases v with
    | text a => cases hp
    | pattern q =>
      obtain rfl := List.mem_singleton.1 hp
      exact h.2

/-- The numbers of a part are numbers. -/
theorem IsPart.ne_nan_of_mem (h : t.IsPart s) {key : String} {c : Comparison} {negated : Bool}
    {x : Number} (hx : number key c negated x ∈ t.selections) : x ≠ .nan := by
  obtain ⟨-, text, hnumeral⟩ := h.of_mem_selections hx
  obtain ⟨m, rfl⟩ := hnumeral.exists_real
  exact nofun

end Tree

namespace Query

/-- **Equal trees mean the same query.** On the trees that are parsed under some settings, equality is
an equivalence: their numbers are equal to themselves. Texts that are parsed to equal trees are compiled
to queries that select the same records at every moment and raise the same warnings in the same order.
This is so because all their patterns are compiled from their sources with the case of letters ignored
or not as the settings say.

**Proof sketch.** Equal trees are the same (`Tree.WellFormed.same_iff_eq`). -/
theorem selects_eq_of_same (s : Settings) :
    (Equivalence fun t u : {t : Tree // ∃ source, Tree.ofText s source = .ok t} =>
      t.1.same u.1 = true) ∧
    (∀ source t, Tree.ofText s source = .ok t →
      (∀ key c negated x, .number key c negated x ∈ t.selections → x ≠ .nan) ∧
      ∀ p ∈ t.patterns, p.fold = !s.caseSensitive ∧
        Pattern.compile (!s.caseSensitive) p.source = .ok p) ∧
    ∀ source source' t u, Tree.ofText s source = .ok t → Tree.ofText s source' = .ok u →
      t.same u = true →
      ∃ q q', compile s source = .ok q ∧ compile s source' = .ok q' ∧
        (∀ now record, q.selects now record = q'.selects now record) ∧ q.warnings = q'.warnings := by
  refine ⟨⟨?_, ?_, ?_⟩, ?_, ?_⟩
  · rintro ⟨t, source, ht⟩
    exact Tree.same_self_of_ofText ht
  · rintro ⟨t, source, ht⟩ ⟨u, source', hu⟩ h
    exact (Tree.same_iff_eq_of_ofText hu ht).2 ((Tree.same_iff_eq_of_ofText ht hu).1 h).symm
  · rintro ⟨t, source, ht⟩ ⟨u, source', hu⟩ ⟨w, source'', hw⟩ h h'
    have htu : t = u := (Tree.same_iff_eq_of_ofText ht hu).1 h
    have huw : u = w := (Tree.same_iff_eq_of_ofText hu hw).1 h'
    exact (Tree.same_iff_eq_of_ofText ht hw).2 (htu.trans huw)
  · intro source t ht
    rcases Tree.wellFormed_of_ofText ht with rfl | hpart
    · exact ⟨fun _ _ _ _ h => (nomatch h), fun _ h => nomatch h⟩
    · refine ⟨fun key c negated x hx => hpart.ne_nan_of_mem hx, fun p hp => ?_⟩
      have hpattern := hpart.isPattern_of_mem hp
      obtain ⟨a, heq⟩ := hpattern.exists_eq
      exact ⟨congrArg Pattern.fold heq, hpattern⟩
  · intro source source' t u ht hu h
    obtain rfl : t = u := (Tree.same_iff_eq_of_ofText ht hu).1 h
    exact ⟨_, _, compile_eq_ok_iff.2 ⟨t, ht, rfl⟩, compile_eq_ok_iff.2 ⟨t, hu, rfl⟩,
      fun now record => rfl, rfl⟩

/-- Two ways to write a pattern and two ways to write a bound that is no date. -/
theorem selects_eq_of_same_spellings :
    let s : Settings := { caseSensitive := true }
    (∃ t u q q', Tree.ofText s "x:/b/" = .ok t ∧ Tree.ofText s "(x:/b/)" = .ok u ∧
      t.same u = true ∧ compile s "x:/b/" = .ok q ∧ compile s "(x:/b/)" = .ok q' ∧
      ∀ now record, q.selects now record = q'.selects now record) ∧
    ∃ q q', compile s "before:never" = .ok q ∧ compile s "before:\"never\"" = .ok q' ∧
      q.warnings = q'.warnings := by
  intro s
  obtain ⟨-, -, hequal⟩ := selects_eq_of_same s
  refine ⟨?_, ?_⟩
  · obtain ⟨p, hp⟩ : ∃ p, IsPattern s "b" p := by
      have hok : (Pattern.compile false "b").isOk = true := by decide +kernel
      cases hcompile : Pattern.compile false "b" with
      | error fault =>
        rw [hcompile] at hok
        cases hok
      | ok p => exact ⟨p, hcompile⟩
    let t : Tree := .field "x" false (.pattern p)
    have hlexemes : Lexeme.ofText "x:/b/" =
        .ok [⟨.word "x", 0, "x"⟩, ⟨.colon, 1, ":"⟩, ⟨.pattern "b", 2, "/b/"⟩] := by cbv
    have hgroup : Lexeme.ofText "(x:/b/)" =
        .ok [⟨.opening, 0, "("⟩, ⟨.word "x", 1, "x"⟩, ⟨.colon, 2, ":"⟩, ⟨.pattern "b", 3, "/b/"⟩,
          ⟨.closing, 6, ")"⟩] := by cbv
    have ht : Tree.ofText s "x:/b/" = .ok t := Parser.ofText_eq_ok_iff.2 ⟨_, hlexemes, .conjunction
      (Phrase.field (m := []) .plain rfl rfl rfl (.pattern rfl hp)).conjunction⟩
    have hu : Tree.ofText s "(x:/b/)" = .ok t := Parser.ofText_eq_ok_iff.2 ⟨_, hgroup, .conjunction
      (Phrase.group (o := ⟨.opening, 0, "("⟩) (w := [_, _, _]) rfl
        (Phrase.field (m := []) .plain rfl rfl rfl (.pattern rfl hp)).conjunction rfl).conjunction⟩
    have hsame : t.same t = true := Tree.same_self_of_ofText ht
    obtain ⟨q, q', hq, hq', hselects, -⟩ := hequal _ _ t t ht hu hsame
    exact ⟨t, t, q, q', ht, hu, hsame, hq, hq', hselects⟩
  · let t : Tree := .date .before false "never"
    have ht : Tree.ofText s "before:never" = .ok t := by cbv
    have hu : Tree.ofText s "before:\"never\"" = .ok t := by cbv
    obtain ⟨q, q', hq, hq', -, hwarnings⟩ := hequal _ _ t t ht hu (Tree.same_self_of_ofText ht)
    exact ⟨q, q', hq, hq', hwarnings⟩

end Query

end RecordQuery
