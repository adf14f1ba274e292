import RecordQuery.Proofs.Query.Selections
import RecordQuery.Query.Compiled

set_option autoImplicit false

/-!
# Queries as the clock moves

A bound of `yesterday` is looked up whenever a query is asked, 24 hours before the clock. As the clock
moves on, dates come to lie before the bound and cease to lie after it. If every selection by such a
bound is met by more dates then, or every one by fewer, the answer of the query can change in one
direction only, and without such bounds it does not change. At which offset the clock is shown makes no
difference, as long as there is a local day before it.

## Main definitions

* `RecordQuery.IsYesterday` — the bounds that depend on the clock.
* `RecordQuery.Instant.HasDayBefore` — the clocks with a whole local day before them.
* `RecordQuery.Side.widens` — whether a selection is met by more dates as its bound moves on.
* `RecordQuery.Tree.YesterdayWidens`, `RecordQuery.Tree.Timeless` — queries by their bounds of
  `yesterday`.

## Main results

* `RecordQuery.Tree.predicate_date_mono` — which way a selection by date goes with its bound.
* `RecordQuery.Query.yesterday_one_way` — which way a query goes with the clock.
-/

namespace RecordQuery

/-! ## Bounds that depend on the clock -/

/-- A bound is `yesterday`, in letters of any case. -/
def IsYesterday (bound : String) : Prop := bound.toList.map lowerAscii = "yesterday".toList

instance (bound : String) : Decidable (IsYesterday bound) :=
  inferInstanceAs (Decidable (bound.toList.map lowerAscii = "yesterday".toList))

/-- A clock shows a local time that is a day or more after the first one. -/
def Instant.HasDayBefore (now : Instant) : Prop :=
  Instant.firstLocalSecond + secondsPerDay ≤ now.localSeconds

instance (now : Instant) : Decidable now.HasDayBefore :=
  inferInstanceAs (Decidable (Instant.firstLocalSecond + secondsPerDay ≤ now.localSeconds))

section Bounds

variable {now : Instant} {bound : String}

/-- A clock with a day before it means by `yesterday` the moment 24 hours before it. -/
theorem boundMoment?_yesterday (hbound : IsYesterday bound) (hnow : now.HasDayBefore) :
    boundMoment? now bound = some (now.moment - 24 * 60 * 60 * 1000000000) := by
  have hfirst : firstMoment now.offset ≤ now.moment - 24 * 60 * 60 * 1000000000 := by
    simp only [Instant.HasDayBefore, Instant.localSeconds, secondsPerDay] at hnow
    simp only [firstMoment, Instant.moment]
    omega
  unfold IsYesterday at hbound
  rw [boundMoment?, if_pos hbound, max_eq_left hfirst]

/-- On its first day, a clock two hours ahead means by `yesterday` an earlier moment than one that shows
UTC a second before. -/
example :
    let first : Instant := { seconds := Instant.firstLocalSecond, nanos := 0, offset := 0 }
    let ahead : Instant := { seconds := Instant.firstLocalSecond + 1, nanos := 0, offset := 7200 }
    first.before ahead = true ∧ ahead.dayEarlier.before first.dayEarlier = true := by
  decide +kernel

/-- Other bounds do not depend on the clock. -/
theorem boundMoment?_of_not_isYesterday (hbound : ¬IsYesterday bound) (now now' : Instant) :
    boundMoment? now bound = boundMoment? now' bound := by
  unfold IsYesterday at hbound
  rw [boundMoment?, boundMoment?, if_neg hbound, if_neg hbound]

end Bounds

/-! ## Selections by date -/

/-- Whether a selection by date is met by more dates as its bound moves on: dates come to lie before
the bound, and cease to lie after it. -/
def Side.widens : Side → (negated : Bool) → Bool
  | before, negated => !negated
  | after, negated => negated

section Selections

variable {s : Settings} {now now' : Instant} {record : Record} {side : Side} {bound : String}
  {m m' : Int}

/-- A date goes on lying on a side of a bound that moves away from the side. -/
theorem Record.DateLies.of_le (h : record.DateLies s now side bound)
    (hm : boundMoment? now bound = some m) (hm' : boundMoment? now' bound = some m')
    (hle : match side with
      | .before => m ≤ m'
      | .after => m' ≤ m) : record.DateLies s now' side bound := by
  obtain ⟨x, t, m₀, hx, ht, hm₀, hlies⟩ := h
  obtain rfl : m = m₀ := Option.some.inj (hm.symm.trans hm₀)
  refine ⟨x, t, m', hx, ht, hm', ?_⟩
  cases side with
  | before => exact lt_of_lt_of_le hlies hle
  | after => exact lt_of_le_of_lt hle hlies

namespace Tree

variable {t l : Tree}

/-- **A selection by date goes one way with its bound.** If it widens, it goes on being met by later
bounds, and otherwise by earlier ones. -/
theorem predicate_date_mono {negated : Bool} (hm : boundMoment? now bound = some m)
    (hm' : boundMoment? now' bound = some m')
    (hle : if side.widens negated then m ≤ m' else m' ≤ m)
    (h : (date side negated bound).predicate s now record = true) :
    (date side negated bound).predicate s now' record = true := by
  rw [predicate, datePredicate_iff] at h ⊢
  cases negated with
  | false =>
    refine Record.DateLies.of_le h hm hm' ?_
    cases side <;> exact hle
  | true =>
    refine fun hlies => h (hlies.of_le hm' hm ?_)
    cases side <;> exact hle

/-- Selections whose bound is not `yesterday` do not look at the clock. -/
theorem predicate_congr_clock (hl : l ∈ t.selections)
    (h : ∀ side negated bound, l = date side negated bound → ¬IsYesterday bound) :
    l.predicate s now record = l.predicate s now' record := by
  cases l with
  | joined => exact absurd hl joined_notMem_selections
  | everything | field | number | anyField => rfl
  | date side negated bound =>
    exact predicate_date_congr_bound
      (boundMoment?_of_not_isYesterday (h side negated bound rfl) now now') negated

/-! ## Queries -/

/-- In every selection by `yesterday`, more dates are met as the bound moves on, or, without `widens`,
fewer. -/
def YesterdayWidens (widens : Bool) (t : Tree) : Prop :=
  ∀ side negated bound, date side negated bound ∈ t.selections → IsYesterday bound →
    side.widens negated = widens

/-- No selection is by `yesterday`. -/
def Timeless (t : Tree) : Prop :=
  ∀ side negated bound, date side negated bound ∈ t.selections → ¬IsYesterday bound

/-- **A query goes one way with the clock** if all its bounds of `yesterday` do.

**Proof sketch.** Each selection by `yesterday` goes that way (`predicate_date_mono`), the other ones do
not look at the clock (`predicate_congr_clock`), and the query goes the way of its selections
(`predicate_mono`). -/
theorem predicate_mono_clock {widens : Bool} (ht : t.YesterdayWidens widens)
    (hnow : now.HasDayBefore) (hnow' : now'.HasDayBefore)
    (hle : if widens then now.moment ≤ now'.moment else now'.moment ≤ now.moment) :
    t.predicate s now record = true → t.predicate s now' record = true := by
  refine predicate_mono fun l hl => ?_
  by_cases hyesterday : ∃ side negated bound, l = date side negated bound ∧ IsYesterday bound
  · obtain ⟨side, negated, bound, rfl, hbound⟩ := hyesterday
    refine predicate_date_mono (boundMoment?_yesterday hbound hnow)
      (boundMoment?_yesterday hbound hnow') ?_
    rw [ht side negated bound hl hbound]
    cases widens <;> exact Int.sub_le_sub_right hle _
  · have hcongr : l.predicate s now record = l.predicate s now' record :=
      predicate_congr_clock hl fun side negated bound heq hbound =>
        hyesterday ⟨side, negated, bound, heq, hbound⟩
    rw [hcongr]
    exact id

end Tree

end Selections

namespace Query

/-- **Moving the clock on moves queries by `yesterday` one way only.** Of two clocks with a day before
them, at any offsets, let one show a later moment. If each `yesterday` of a query stands behind `before`
without a minus or behind `after` with one, then what the compiled query selects at the earlier moment
it selects at the later one. If each stands behind `after` without a minus or behind `before` with one,
then what it selects at the later moment it selects at the earlier one. And without any `yesterday` it
selects the same records at every moment.

**Proof sketch.** The first two are `Tree.predicate_mono_clock`, and the last follows from
`Tree.predicate_congr_clock` for each selection. -/
theorem yesterday_one_way {s : Settings} {source : String} {q : Query}
    (h : compile s source = .ok q) :
    ∃ t, Tree.ofText s source = .ok t ∧
      (∀ earlier later : Instant, earlier.HasDayBefore → later.HasDayBefore →
        earlier.moment ≤ later.moment → ∀ record,
          (t.YesterdayWidens true → q.selects earlier record = true →
            q.selects later record = true) ∧
          (t.YesterdayWidens false → q.selects later record = true →
            q.selects earlier record = true)) ∧
      (t.Timeless → ∀ now now' record, q.selects now record = q.selects now' record) := by
  obtain ⟨t, ht, rfl⟩ := compile_eq_ok_iff.1 h
  refine ⟨t, ht, fun earlier later hearlier hlater hle record => ⟨?_, ?_⟩, ?_⟩
  · intro hwidens
    exact Tree.predicate_mono_clock hwidens hearlier hlater hle
  · intro hnarrows
    exact Tree.predicate_mono_clock hnarrows hlater hearlier hle
  · intro htimeless now now' record
    refine Tree.predicate_eq_of_selections fun l hl => ?_
    exact Tree.predicate_congr_clock hl fun side negated bound heq =>
      htimeless side negated bound (heq ▸ hl)

/-- The later moment is shown on an earlier day. -/
theorem yesterday_one_way_offsets :
    let earlier : Instant := { seconds := 1704240000, nanos := 0, offset := 19800 }
    let later : Instant := { seconds := 1704240000, nanos := 1, offset := -28800 }
    let past : Record := [("date", .text "2024-01-01T23:59:59Z")]
    let recent : Record := [("date", .text "2024-01-02T00:00:01Z")]
    earlier.HasDayBefore ∧ later.HasDayBefore ∧ earlier.moment ≤ later.moment ∧
      (∃ q, compile {} "before:Yesterday -after:YESTERDAY" = .ok q ∧
        q.selects earlier past = true ∧ q.selects later past = true) ∧
      (∃ q, compile {} "-before:yesterday OR after:YESTERDAY" = .ok q ∧
        q.selects later recent = true ∧ q.selects earlier recent = true) ∧
      ∃ q, compile {} "-before:2024-01-02 OR x:yesterday" = .ok q ∧
        q.selects earlier recent = true ∧ q.selects later recent = true := by
  intro earlier later past recent
  have hearlier : earlier.HasDayBefore := by decide
  have hlater : later.HasDayBefore := by decide
  have hle : earlier.moment ≤ later.moment := by decide
  refine ⟨hearlier, hlater, hle, ?_, ?_, ?_⟩
  · let t : Tree := .joined .and (.date .before false "Yesterday") (.date .after true "YESTERDAY")
    let q : Query := ⟨"before:Yesterday -after:YESTERDAY", t.predicate {}, t.warnings⟩
    have hparses : Tree.ofText {} q.source = .ok t := by cbv
    have hq : compile {} q.source = .ok q := compile_eq_ok_iff.2 ⟨t, hparses, rfl⟩
    obtain ⟨t', ht', hclock, -⟩ := yesterday_one_way hq
    obtain rfl : t = t' := Except.ok.inj (hparses.symm.trans ht')
    have hwidens : t.YesterdayWidens true := by
      rintro side negated bound hmem -
      simp only [t, Tree.selections, List.mem_append, List.mem_singleton, Tree.date.injEq] at hmem
      rcases hmem with ⟨rfl, rfl, -⟩ | ⟨rfl, rfl, -⟩ <;> rfl
    have hselected : q.selects earlier past = true := by decide +kernel
    exact ⟨q, hq, hselected, (hclock earlier later hearlier hlater hle past).1 hwidens hselected⟩
  · let t : Tree := .joined .or (.date .before true "yesterday") (.date .after false "YESTERDAY")
    let q : Query := ⟨"-before:yesterday OR after:YESTERDAY", t.predicate {}, t.warnings⟩
    have hparses : Tree.ofText {} q.source = .ok t := by cbv
    have hq : compile {} q.source = .ok q := compile_eq_ok_iff.2 ⟨t, hparses, rfl⟩
    obtain ⟨t', ht', hclock, -⟩ := yesterday_one_way hq
    obtain rfl : t = t' := Except.ok.inj (hparses.symm.trans ht')
    have hnarrows : t.YesterdayWidens false := by
      rintro side negated bound hmem -
      simp only [t, Tree.selections, List.mem_append, List.mem_singleton, Tree.date.injEq] at hmem
      rcases hmem with ⟨rfl, rfl, -⟩ | ⟨rfl, rfl, -⟩ <;> rfl
    have hselected : q.selects later recent = true := by decide +kernel
    exact ⟨q, hq, hselected, (hclock earlier later hearlier hlater hle recent).2 hnarrows hselected⟩
  · let t : Tree := .joined .or (.date .before true "2024-01-02") (.field "x" false (.text "yesterday"))
    let q : Query := ⟨"-before:2024-01-02 OR x:yesterday", t.predicate {}, t.warnings⟩
    have hparses : Tree.ofText {} q.source = .ok t := by cbv
    have hq : compile {} q.source = .ok q := compile_eq_ok_iff.2 ⟨t, hparses, rfl⟩
    obtain ⟨t', ht', -, htimeless⟩ := yesterday_one_way hq
    obtain rfl : t = t' := Except.ok.inj (hparses.symm.trans ht')
    have ht : t.Timeless := by
      intro side negated bound hmem
      simp only [t, Tree.selections, List.mem_append, List.mem_singleton, Tree.date.injEq,
        reduceCtorEq, or_false] at hmem
      obtain ⟨rfl, rfl, rfl⟩ := hmem
      decide
    have hselected : q.selects earlier recent = true := by decide +kernel
    exact ⟨q, hq, hselected, (htimeless ht later earlier recent).trans hselected⟩

end Query

end RecordQuery
