import RecordQuery.Proofs.Query.Interpretation
import RecordQuery.Proofs.Query.Writing

set_option autoImplicit false

/-!
# Complements of queries

Every query that only asks about named fields has a complement, which selects exactly the records
that it does not. The complement of a joined query is its dual: `AND` and `OR` change places and every
selection is negated. A selection is negated after it has been answered, so that it does not matter
why it was not met: a missing field, a value that is no number or date, a bound that is no date. The
empty query has no selection to negate, but another query selects nothing.

A value that any field may match cannot be negated, and so queries with such values have no dual.

## Main definitions

* `RecordQuery.Tree.dual` — `AND` for `OR`, and every selection negated.
* `RecordQuery.Tree.NamesFields` — queries that only ask about named fields.

## Main results

* `RecordQuery.Tree.predicate_dual` — the dual selects what the query does not.
* `RecordQuery.Tree.exists_complement` — the complement can be written.
-/

namespace RecordQuery

variable {s : Settings} {now : Instant} {record : Record}

/-- The other joint. -/
def Joint.dual : Joint → Joint
  | and => or
  | or => and

namespace Tree

/-- The query with `AND` for `OR`, `OR` for `AND` and every selection negated. Values that any field
may match stay as they are. -/
def dual : Tree → Tree
  | everything => everything
  | joined j left right => joined j.dual left.dual right.dual
  | field key negated v => field key (!negated) v
  | number key c negated bound => number key c (!negated) bound
  | date side negated bound => date side (!negated) bound
  | anyField v => anyField v

/-- Whether a query only asks about named fields. -/
def NamesFields : Tree → Prop
  | joined _ left right => left.NamesFields ∧ right.NamesFields
  | anyField _ => False
  | everything | field .. | number .. | date .. => True

/-- The dual of a well-formed part is one. -/
theorem IsPart.dual {t : Tree} (h : t.IsPart s) : t.dual.IsPart s := by
  induction t with
  | joined j left right ihl ihr => exact ⟨ihl h.1, ihr h.2⟩
  | everything | field | number | date | anyField => exact h

/-- The dual asks about the same fields. -/
theorem NamesFields.dual {t : Tree} (h : t.NamesFields) : t.dual.NamesFields := by
  induction t with
  | joined j left right ihl ihr => exact ⟨ihl h.1, ihr h.2⟩
  | everything | field | number | date | anyField => exact h

/-! ## What the dual selects -/

/-- A negated selection by date is met if the selection is not. -/
theorem datePredicate_not (s : Settings) (side : Side) (negated : Bool) (bound : String) :
    datePredicate s side (!negated) bound now record =
      !datePredicate s side negated bound now record := by
  unfold datePredicate
  cases Bound.ofText? bound with
  | none => rfl
  | some b => exact Bool.bne_not _ _

/-- **The dual selects what the query does not.**

**Proof sketch.** Induction on the tree. For joined queries this is the law of De Morgan, and a
selection compares its answer with whether it is negated. -/
theorem predicate_dual {t : Tree} (ht : t.IsPart s) (hnames : t.NamesFields) :
    t.dual.predicate s now record = !t.predicate s now record := by
  induction t with
  | everything => exact ht.elim
  | anyField v => exact hnames.elim
  | joined j left right ihl ihr =>
    have hl := ihl ht.1 hnames.1
    have hr := ihr ht.2 hnames.2
    cases j with
    | and => simp only [dual, Joint.dual, predicate, hl, hr, Bool.not_and]
    | or => simp only [dual, Joint.dual, predicate, hl, hr, Bool.not_or]
  | field key negated v => simp only [dual, predicate, Bool.bne_not]
  | number key c negated bound => simp only [dual, predicate, Bool.bne_not]
  | date side negated bound => exact datePredicate_not s side negated bound

/-! ## The complement as a query -/

/-- A bound that is no date. -/
def noDate : String := "never"

/-- No date lies before a bound that is none. -/
theorem predicate_noDate (s : Settings) :
    (date .before false noDate).predicate s now record = false := by
  have hbound : Bound.ofText? noDate = none := rfl
  simp [predicate, datePredicate, hbound]

/-- **Queries about named fields have complements**: if a query is parsed and only asks about named
fields, some other query about named fields is parsed under the same settings that selects, at every
moment, exactly the records that the first does not. Unless the first is the empty query, the other one
is its dual.

**Proof sketch.** The tree is well formed (`wellFormed_of_ofText`), and so is its dual, which can then
be written (`writable_of_isPart`). The complement of the empty query asks for dates before a bound
that is none. -/
theorem exists_complement {query : String} {t : Tree} (h : Tree.ofText s query = .ok t)
    (hnames : t.NamesFields) :
    ∃ other u, Tree.ofText s other = .ok u ∧ u.NamesFields ∧ (t ≠ everything → u = t.dual) ∧
      ∀ now record, u.predicate s now record = !t.predicate s now record := by
  rcases wellFormed_of_ofText h with rfl | ht
  · have hpart : (date .before false noDate).IsPart s := .inr (by decide)
    obtain ⟨other, hother⟩ := writable_of_isPart hpart
    exact ⟨other, _, hother, trivial, fun hne => absurd rfl hne, fun now record => predicate_noDate s⟩
  · obtain ⟨other, hother⟩ := writable_of_isPart ht.dual
    exact ⟨other, _, hother, hnames.dual, fun _ => rfl, fun now record => predicate_dual ht hnames⟩

/-- In the complement, a group and a bound that is no date are joined by `OR`. -/
theorem exists_complement_group :
    let t : Tree := .joined .and
      (.joined .or (.field "name" true (.text "Ann")) (.date .after false "2020-02-30"))
      (.date .before false "yesterday")
    let u : Tree := .joined .or
      (.joined .and (.field "name" false (.text "Ann")) (.date .after true "2020-02-30"))
      (.date .before true "yesterday")
    Tree.ofText {} "(-name:Ann OR after:2020-02-30) before:yesterday" = .ok t ∧ t.NamesFields ∧
      ∃ other, Tree.ofText {} other = .ok u ∧
        ∀ now record, u.predicate {} now record = !t.predicate {} now record := by
  intro t u
  have hparses : Tree.ofText {} "(-name:Ann OR after:2020-02-30) before:yesterday" = .ok t := by cbv
  have hnames : t.NamesFields := ⟨⟨trivial, trivial⟩, trivial⟩
  obtain ⟨other, u', hother, -, hdual, hpredicate⟩ := exists_complement hparses hnames
  obtain rfl : u' = u := hdual (by simp [t])
  exact ⟨hparses, hnames, other, hother, hpredicate⟩

end Tree

end RecordQuery
