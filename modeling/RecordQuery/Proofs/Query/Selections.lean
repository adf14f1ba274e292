import RecordQuery.Proofs.Query.Complement

set_option autoImplicit false

/-!
# Selections of a query

A query is put together from selections by `AND` and `OR`, and only selections are negated. Its answer
therefore follows the answers of its selections: if each of them goes on being met, then so does the
query. What a selection asks before it is negated goes the same way if it is not negated, and the
opposite way if it is.

## Main definitions

* `RecordQuery.Tree.selections` — the selections of a query, in reading order.
* `RecordQuery.Tree.isNegated`, `RecordQuery.Tree.plain` — a selection's negation, and what it asks
  without it.

## Main results

* `RecordQuery.Tree.predicate_mono` — a query goes the way of its selections.
* `RecordQuery.Tree.predicate_eq_of_selections` — equal answers of selections are equal answers.
-/

namespace RecordQuery

variable {s s' : Settings} {now now' : Instant} {record record' : Record} {t l : Tree}

namespace Tree

/-- The selections of a query, in reading order. -/
def selections : Tree → List Tree
  | everything => []
  | joined _ left right => left.selections ++ right.selections
  | field key negated v => [field key negated v]
  | number key c negated bound => [number key c negated bound]
  | date side negated bound => [date side negated bound]
  | anyField v => [anyField v]

/-- Whether a selection is negated. Values that any field may match cannot be. -/
def isNegated : Tree → Bool
  | field _ negated _ | number _ _ negated _ | date _ negated _ => negated
  | everything | joined .. | anyField _ => false

/-- A selection without its negation. -/
def plain : Tree → Tree
  | field key _ v => field key false v
  | number key c _ bound => number key c false bound
  | date side _ bound => date side false bound
  | everything => everything
  | joined j left right => joined j left right
  | anyField v => anyField v

/-- Joined queries are no selections. -/
theorem joined_notMem_selections {j : Joint} {left right : Tree} :
    joined j left right ∉ t.selections := by
  induction t with
  | everything | field | number | date | anyField => simp [selections]
  | joined _ _ _ ihl ihr => simp [selections, ihl, ihr]

/-- A query that only asks about named fields has no selection by any field. -/
theorem NamesFields.anyField_notMem (h : t.NamesFields) (v : Literal) : anyField v ∉ t.selections := by
  induction t with
  | everything | field | number | date => simp [selections]
  | anyField => exact h.elim
  | joined j left right ihl ihr => simp [selections, ihl h.1, ihr h.2]

/-- The selections of a well-formed part are well-formed parts. -/
theorem IsPart.of_mem_selections (h : t.IsPart s) (hl : l ∈ t.selections) : l.IsPart s := by
  induction t with
  | everything => exact h.elim
  | field | number | date | anyField =>
    obtain rfl := List.mem_singleton.1 hl
    exact h
  | joined j left right ihl ihr => exact (List.mem_append.1 hl).elim (ihl h.1) (ihr h.2)

/-! ## Answers of selections -/

/-- A selection answers what it asks, and the opposite if it is negated. -/
theorem predicate_eq_plain (l : Tree) :
    l.predicate s now record = (l.plain.predicate s now record != l.isNegated) := by
  cases l with
  | everything | joined | anyField => simp [plain, isNegated]
  | field | number => simp [plain, isNegated, predicate]
  | date side negated bound =>
    cases negated with
    | false => simp [plain, isNegated]
    | true => simpa [plain, isNegated, predicate] using datePredicate_not s side false bound

/-- **A query goes the way of its selections.** If every selection that is met in one situation is met
in another, then so is the query.

**Proof sketch.** Induction on the tree: neither `AND` nor `OR` negates what it joins. -/
theorem predicate_mono
    (h : ∀ l ∈ t.selections, l.predicate s now record = true → l.predicate s' now' record' = true) :
    t.predicate s now record = true → t.predicate s' now' record' = true := by
  induction t with
  | everything => exact fun _ => rfl
  | field | number | date | anyField => exact h _ List.mem_cons_self
  | joined j left right ihl ihr =>
    have hl := ihl fun l hl => h l (List.mem_append_left _ hl)
    have hr := ihr fun l hr => h l (List.mem_append_right _ hr)
    cases j with
    | and =>
      simp only [predicate, Bool.and_eq_true]
      exact And.imp hl hr
    | or =>
      simp only [predicate, Bool.or_eq_true]
      exact Or.imp hl hr

/-- Selections with equal answers make queries with equal answers. -/
theorem predicate_eq_of_selections
    (h : ∀ l ∈ t.selections, l.predicate s now record = l.predicate s' now' record') :
    t.predicate s now record = t.predicate s' now' record' := by
  rw [Bool.eq_iff_iff]
  exact ⟨predicate_mono fun l hl => (h l hl ▸ ·), predicate_mono fun l hl => (h l hl ▸ ·)⟩

/-- A query without negation goes the way of what its selections ask. -/
theorem predicate_mono_of_plain (hplain : ∀ l ∈ t.selections, l.isNegated = false)
    (h : ∀ l ∈ t.selections,
      l.plain.predicate s now record = true → l.plain.predicate s' now' record' = true) :
    t.predicate s now record = true → t.predicate s' now' record' = true := by
  refine predicate_mono fun l hl => ?_
  rw [l.predicate_eq_plain, l.predicate_eq_plain, hplain l hl, Bool.bne_false, Bool.bne_false]
  exact h l hl

/-- A query with all its selections negated goes the opposite way. -/
theorem predicate_anti_of_negated (hnegated : ∀ l ∈ t.selections, l.isNegated = true)
    (h : ∀ l ∈ t.selections,
      l.plain.predicate s now record = true → l.plain.predicate s' now' record' = true) :
    t.predicate s' now' record' = true → t.predicate s now record = true := by
  refine predicate_mono fun l hl => ?_
  rw [l.predicate_eq_plain, l.predicate_eq_plain, hnegated l hl, Bool.bne_true, Bool.bne_true,
    Bool.not_eq_true', Bool.not_eq_true', Bool.eq_false_iff, Bool.eq_false_iff]
  exact mt (h l hl)

end Tree

end RecordQuery
