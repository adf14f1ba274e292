import RecordQuery.Proofs.Query.Selections
import RecordQuery.Query.Compiled

set_option autoImplicit false

/-!
# The fields that a query reads

A selection looks at one field of a record, or at all of them. A missing field is a miss, which the
selection's negation comes after, and so more fields can only make selections met that are not negated,
and only make selections missed that are. A query that only asks about named fields does not tell
records apart that agree on these fields. The field for dates is named by the settings: `before` and
`after` in front of a colon are no names of fields.

## Main definitions

* `RecordQuery.Record.Within` — a record with more fields than another.
* `RecordQuery.Tree.fieldsRead` — the fields that a query names.

## Main results

* `RecordQuery.Tree.fieldsRead_reserved` — when a query reads fields with the reserved names.
* `RecordQuery.Query.selects_more_fields` — queries are monotone in the fields of a record.
* `RecordQuery.Query.selects_congr_fields` — a query reads the fields that it names.
-/

namespace RecordQuery

variable {s : Settings} {now : Instant} {record other : Record} {t l : Tree}

/-! ## More fields -/

/-- Every field of a record is one of another, with the same value. The other may have more. -/
def Record.Within (record other : Record) : Prop :=
  ∀ key x, record.get? key = some x → other.get? key = some x

/-- A record is within the record with one more field. -/
theorem Record.within_insert {key : String} (h : record.get? key = none) (x : Value) :
    record.Within (Entries.insert key x record) := by
  intro name y hy
  have hne : key ≠ name := by
    rintro rfl
    rw [h] at hy
    cases hy
  rw [Entries.get?_insert, if_neg hne, hy]

namespace Tree

/-- With more fields, what a selection asks goes on being met. The names of the record have to be
distinct where all its values are looked at. -/
theorem plain_of_within (hl : l ∈ t.selections) (hdistinct : ∀ v, l = anyField v → record.Distinct)
    (hwithin : record.Within other) (h : l.plain.predicate s now record = true) :
    l.plain.predicate s now other = true := by
  cases l with
  | joined => exact absurd hl joined_notMem_selections
  | everything => rfl
  | field key negated v =>
    simp only [plain, predicate, Bool.bne_false, Option.any_eq_true] at h ⊢
    obtain ⟨x, hx, haccepts⟩ := h
    exact ⟨x, hwithin key x hx, haccepts⟩
  | number key c negated bound =>
    simp only [plain, predicate, Bool.bne_false, any_holds_iff] at h ⊢
    obtain ⟨x, n, hx, hn, hrelates⟩ := h
    exact ⟨x, n, hwithin key x hx, hn, hrelates⟩
  | date side negated bound =>
    simp only [plain, predicate, datePredicate_iff] at h ⊢
    obtain ⟨x, i, m, hx, hi, hm, hlies⟩ := h
    exact ⟨x, i, m, hwithin s.dateKey x hx, hi, hm, hlies⟩
  | anyField v =>
    simp only [plain, predicate, List.any_eq_true] at h ⊢
    obtain ⟨x, hx, haccepts⟩ := h
    obtain ⟨key, hkey⟩ := (hdistinct v rfl).mem_values_iff.1 hx
    exact ⟨x, Entries.mem_values_of_get? (hwithin key x hkey), haccepts⟩

/-! ## Fields that are read -/

/-- The fields that a query names: the keys of its selections, and the field for dates if there is a
selection by date. -/
def fieldsRead (s : Settings) : Tree → List String
  | joined _ left right => left.fieldsRead s ++ right.fieldsRead s
  | field key _ _ | number key _ _ _ => [key]
  | date .. => [s.dateKey]
  | everything | anyField _ => []

/-- A query reads what its selections read. -/
theorem mem_fieldsRead_iff {key : String} :
    key ∈ t.fieldsRead s ↔ ∃ l ∈ t.selections, key ∈ l.fieldsRead s := by
  induction t with
  | everything => simp [fieldsRead, selections]
  | field | number | date | anyField => simp [selections]
  | joined j left right ihl ihr => simp [fieldsRead, selections, ihl, ihr, or_and_right, exists_or]

/-- A query about named fields does not tell records apart that agree on the fields it reads.

**Proof sketch.** Each selection looks at one field, which the query reads. -/
theorem predicate_congr_fields (hnames : t.NamesFields)
    (h : ∀ key ∈ t.fieldsRead s, record.get? key = other.get? key) :
    t.predicate s now record = t.predicate s now other := by
  refine predicate_eq_of_selections fun l hl => ?_
  have hagree : ∀ key ∈ l.fieldsRead s, record.get? key = other.get? key :=
    fun key hkey => h key (mem_fieldsRead_iff.2 ⟨l, hl, hkey⟩)
  cases l with
  | joined => exact absurd hl joined_notMem_selections
  | anyField v => exact absurd hl (hnames.anyField_notMem v)
  | everything => rfl
  | field key | number key => simp only [predicate, hagree key List.mem_cons_self]
  | date side negated bound =>
    rw [Bool.eq_iff_iff, predicate, datePredicate_iff, datePredicate_iff]
    unfold Record.DateLies
    rw [hagree s.dateKey List.mem_cons_self]

/-- **A reserved word is read as the field for dates or as the key of a comparison**, if at all: in
front of a colon it is no name of a field. -/
theorem fieldsRead_reserved {key : String} (ht : t.IsPart s) (hkey : key = "before" ∨ key = "after")
    (h : key ∈ t.fieldsRead s) :
    key = s.dateKey ∨ ∃ c negated bound, number key c negated bound ∈ t.selections := by
  obtain ⟨l, hl, hread⟩ := mem_fieldsRead_iff.1 h
  have hpart : l.IsPart s := ht.of_mem_selections hl
  cases l with
  | everything => exact hpart.elim
  | joined => exact absurd hl joined_notMem_selections
  | anyField => cases hread
  | date => exact .inl (List.mem_singleton.1 hread)
  | number k c negated bound =>
    obtain rfl := List.mem_singleton.1 hread
    exact .inr ⟨c, negated, bound, hl⟩
  | field k negated v =>
    obtain rfl := List.mem_singleton.1 hread
    obtain ⟨-, hbefore, hafter, -⟩ := hpart
    exact (hkey.elim hbefore hafter).elim

end Tree

namespace Query

variable {source : String} {q : Query}

/-- **Queries are monotone in the fields of a record.** If no selection of a query is negated, then a
record with more fields than one that is selected is selected at the same moment. If all selections are
negated, which leaves out values that any field may match, then a record with fewer fields than one that
is selected is selected. The names of a record are distinct, which inserting fields keeps so
(`Entries.ascending_ofList`).

**Proof sketch.** A missing field is a miss of what a selection asks (`Tree.plain_of_within`), and the
query goes the way of that or the opposite way (`Tree.predicate_mono_of_plain`,
`Tree.predicate_anti_of_negated`). -/
theorem selects_more_fields (h : compile s source = .ok q) :
    ∃ t, Tree.ofText s source = .ok t ∧
      ∀ now (record other : Record), record.Within other →
        ((∀ l ∈ t.selections, l.isNegated = false) → record.Distinct →
          q.selects now record = true → q.selects now other = true) ∧
        ((∀ l ∈ t.selections, l.isNegated = true) →
          q.selects now other = true → q.selects now record = true) := by
  obtain ⟨t, ht, rfl⟩ := compile_eq_ok_iff.1 h
  refine ⟨t, ht, fun now record other hwithin => ⟨fun hnone hdistinct => ?_, fun hall => ?_⟩⟩
  · exact Tree.predicate_mono_of_plain hnone fun l hl =>
      Tree.plain_of_within hl (fun _ _ => hdistinct) hwithin
  · refine Tree.predicate_anti_of_negated hall fun l hl => Tree.plain_of_within hl ?_ hwithin
    -- a selection by any field is not negated
    rintro v rfl
    cases hall _ hl

/-- A date is added to a record that is selected, and taken from one that is. -/
theorem selects_more_fields_date :
    let ann : Record := [("name", .text "Ann")]
    let dated : Record := Entries.insert "date" (.text "2024-02-29") ann
    ann.Distinct ∧ ann.Within dated ∧
      (∃ q, compile {} "ann (before:never OR name:ann)" = .ok q ∧
        q.selects (.ofSeconds 0) ann = true ∧ q.selects (.ofSeconds 0) dated = true) ∧
      ∃ q, compile {} "-before:2024-02-29 -name:bo" = .ok q ∧
        q.selects (.ofSeconds 0) dated = true ∧ q.selects (.ofSeconds 0) ann = true := by
  intro ann dated
  have hdistinct : ann.Distinct := List.nodup_singleton _
  have hwithin : ann.Within dated := Record.within_insert (by decide) _
  refine ⟨hdistinct, hwithin, ?_, ?_⟩
  · let t : Tree := .joined .and (.anyField (.text "ann"))
      (.joined .or (.date .before false "never") (.field "name" false (.text "ann")))
    let q : Query := ⟨"ann (before:never OR name:ann)", t.predicate {}, t.warnings⟩
    have hparses : Tree.ofText {} q.source = .ok t := by cbv
    have hq : compile {} q.source = .ok q := compile_eq_ok_iff.2 ⟨t, hparses, rfl⟩
    obtain ⟨t', ht', hmono⟩ := selects_more_fields hq
    obtain rfl : t = t' := Except.ok.inj (hparses.symm.trans ht')
    have hnone : ∀ l ∈ t.selections, l.isNegated = false := by
      simp [t, Tree.selections, Tree.isNegated]
    have hselected : q.selects (.ofSeconds 0) ann = true := by decide +kernel
    exact ⟨q, hq, hselected, (hmono _ ann dated hwithin).1 hnone hdistinct hselected⟩
  · let t : Tree := .joined .and (.date .before true "2024-02-29") (.field "name" true (.text "bo"))
    let q : Query := ⟨"-before:2024-02-29 -name:bo", t.predicate {}, t.warnings⟩
    have hparses : Tree.ofText {} q.source = .ok t := by cbv
    have hq : compile {} q.source = .ok q := compile_eq_ok_iff.2 ⟨t, hparses, rfl⟩
    obtain ⟨t', ht', hmono⟩ := selects_more_fields hq
    obtain rfl : t = t' := Except.ok.inj (hparses.symm.trans ht')
    have hall : ∀ l ∈ t.selections, l.isNegated = true := by
      simp [t, Tree.selections, Tree.isNegated]
    have hselected : q.selects (.ofSeconds 0) dated = true := by decide +kernel
    exact ⟨q, hq, hselected, (hmono _ ann dated hwithin).2 hall hselected⟩

/-- **A query reads the fields that it names.** If a query only asks about named fields, then it does
not tell records apart that agree on the keys of its selections and, if there is a selection by date, on
the field for dates. It reads no field named `before` or `after` unless that is the field for dates or
the key of a comparison, whatever stands in front of its colons.

**Proof sketch.** The first is `Tree.predicate_congr_fields`. The tree is well formed, and so the
reserved words are not among the fields that are read (`Tree.fieldsRead_reserved`). -/
theorem selects_congr_fields (h : compile s source = .ok q) :
    ∃ t, Tree.ofText s source = .ok t ∧ (t.NamesFields →
      (∀ now (record other : Record), (∀ key ∈ t.fieldsRead s, record.get? key = other.get? key) →
        q.selects now record = q.selects now other) ∧
      ∀ key, key = "before" ∨ key = "after" → key ≠ s.dateKey →
        (∀ c negated bound, .number key c negated bound ∉ t.selections) →
        ∀ now (record other : Record), (∀ k, k ≠ key → record.get? k = other.get? k) →
          q.selects now record = q.selects now other) := by
  obtain ⟨t, ht, rfl⟩ := compile_eq_ok_iff.1 h
  refine ⟨t, ht, fun hnames => ⟨fun now record other hagree => ?_, ?_⟩⟩
  · exact Tree.predicate_congr_fields hnames hagree
  · intro key hkey hdate hnumber now record other hagree
    refine Tree.predicate_congr_fields hnames fun k hk => hagree k ?_
    rintro rfl
    rcases Tree.wellFormed_of_ofText ht with rfl | hpart
    · cases hk
    · rcases Tree.fieldsRead_reserved hpart hkey hk with heq | ⟨c, negated, bound, hmem⟩
      · exact hdate heq
      · exact hnumber c negated bound hmem

/-- The field `before` is not read, and neither is one that the query does not name. -/
theorem selects_congr_fields_before :
    let record : Record := [("after", .text "Ann"), ("date", .text "1999-12-31")]
    let other : Record := [("after", .text "Ann"), ("before", .text "x"), ("date", .text "1999-12-31")]
    let third : Record := [("date", .text "1999-12-31"), ("x", .text "Bo")]
    ∃ q, compile {} "before:2000-01-01 -name:Bo" = .ok q ∧
      q.selects (.ofSeconds 0) record = true ∧ q.selects (.ofSeconds 0) other = true ∧
      q.selects (.ofSeconds 0) third = true := by
  intro record other third
  let t : Tree := .joined .and (.date .before false "2000-01-01") (.field "name" true (.text "Bo"))
  let q : Query := ⟨"before:2000-01-01 -name:Bo", t.predicate {}, t.warnings⟩
  have hparses : Tree.ofText {} q.source = .ok t := by cbv
  have hq : compile {} q.source = .ok q := compile_eq_ok_iff.2 ⟨t, hparses, rfl⟩
  obtain ⟨t', ht', hfields⟩ := selects_congr_fields hq
  obtain rfl : t = t' := Except.ok.inj (hparses.symm.trans ht')
  obtain ⟨hread, hreserved⟩ := hfields ⟨trivial, trivial⟩
  have hnumber : ∀ c negated bound, .number "before" c negated bound ∉ t.selections := by
    simp [t, Tree.selections]
  have hother : ∀ k, k ≠ "before" → record.get? k = other.get? k := by
    intro k hk
    simp [record, other, Entries.get?_cons, hk.symm]
  have hthird : ∀ key ∈ t.fieldsRead {}, record.get? key = third.get? key := by
    simp [t, Tree.fieldsRead, record, third, Entries.get?_cons]
  have hselected : q.selects (.ofSeconds 0) record = true := by decide +kernel
  refine ⟨q, hq, hselected, ?_, ?_⟩
  · exact (hreserved "before" (.inl rfl) (by decide) hnumber _ record other hother).symm.trans hselected
  · exact (hread _ record third hthird).symm.trans hselected

end Query

end RecordQuery
