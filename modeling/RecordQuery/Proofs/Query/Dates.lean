import RecordQuery.Proofs.Calendar.Writing
import RecordQuery.Proofs.Query.Interpretation

set_option autoImplicit false

/-!
# Selections by date

Whether a selection by date is met depends on moments alone: on the moment of the record's date, and on
the moment that the bound names. In which form the dates are written, at which offset they are shown and
whether the record holds a date or the text of one makes no difference.

## Main definitions

* `RecordQuery.Record.date?` — the date of a record.

## Main results

* `RecordQuery.boundMoment?_of_read?` — the moment of a bound that is a written date.
* `RecordQuery.Tree.predicate_date_congr_record` — selections by date do not tell moments apart by how
  the record holds them.
* `RecordQuery.Tree.date_by_moment` — what selections by date depend on.
-/

namespace RecordQuery

/-! ## Bounds -/

theorem YearFirst.exists_isDigit {d : Day} {w : List Char} (h : YearFirst SignedYear d w) :
    ∃ c ∈ w, isDigit c = true := by
  obtain ⟨-, -, hw⟩ := h
  obtain ⟨c, cs, rfl, hc⟩ := hw.exists_cons
  exact ⟨c, by simp, hc⟩

/-- A written date has a digit. -/
theorem DateForm.Spells.exists_isDigit {f : DateForm} {cs : List Char} {p : WrittenDate}
    (h : f.Spells cs p) : ∃ c ∈ cs, isDigit c = true := by
  cases h with
  | full hday =>
    obtain ⟨c, hmem, hc⟩ := hday.signed.exists_isDigit
    exact ⟨c, List.mem_append_left _ hmem, hc⟩
  | dayTime hday =>
    obtain ⟨c, hmem, hc⟩ := hday.exists_isDigit
    exact ⟨c, List.mem_append_left _ hmem, hc⟩
  | day hday => exact hday.exists_isDigit
  | monthFirst hm =>
    rcases hm with hm | hm <;>
    · obtain ⟨c, cs, rfl, hc⟩ := hm.exists_cons
      exact ⟨c, by simp, hc⟩

/-- The word for the day before is no written date. -/
theorem ne_yesterday_of_read? {text : List Char} {i : Instant} (h : Instant.read? text = some i) :
    text.map lowerAscii ≠ "yesterday".toList := by
  obtain ⟨f, p, hspells, -⟩ := Instant.read?_eq_some_iff.1 h
  obtain ⟨c, hmem, hc⟩ := hspells.exists_isDigit
  intro hword
  have hlower : lowerAscii c ∈ "yesterday".toList :=
    hword ▸ List.mem_map_of_mem (Text.mem_of_mem_trim hmem)
  have hsame : lowerAscii c = c := by
    obtain ⟨-, hhigh⟩ := (isDigit_iff c).1 hc
    refine if_neg fun hupper => ?_
    have hcode : 65 ≤ c.toNat := hupper.1
    omega
  have hletters : "yesterday".toList.any isDigit = false := rfl
  rw [hsame] at hlower
  rw [List.any_eq_true.2 ⟨c, hlower, hc⟩] at hletters
  cases hletters

/-- **A bound that is a written date names the moment of the date**, whenever it is asked about. -/
theorem boundMoment?_of_read? {bound : String} {i : Instant}
    (h : Instant.read? bound.toList = some i) (now : Instant) :
    boundMoment? now bound = some i.moment := by
  rw [boundMoment?, if_neg (ne_yesterday_of_read? h), h, Option.map_some]

/-! ## Records -/

/-- The date of a record, if the field for dates is there and has a view as a date. -/
def Record.date? (s : Settings) (record : Record) : Option Instant :=
  (record.get? s.dateKey).bind Value.date?

section Selections

variable {s : Settings} {now : Instant} {record other : Record} {side : Side} {bound : String}
  {t u : Instant}

/-- The date of a record lies on a side of a bound if its moment does. -/
theorem Record.dateLies_iff (h : record.date? s = some t) :
    record.DateLies s now side bound ↔ ∃ m, boundMoment? now bound = some m ∧
      match side with
      | .before => t.moment < m
      | .after => m < t.moment := by
  obtain ⟨x, hx, ht⟩ := Option.bind_eq_some_iff.1 h
  constructor
  · rintro ⟨x', t', m, hx', ht', hm, hlies⟩
    obtain rfl := Option.some.inj (hx.symm.trans hx')
    obtain rfl := Option.some.inj (ht.symm.trans ht')
    exact ⟨m, hm, hlies⟩
  · rintro ⟨m, hm, hlies⟩
    exact ⟨x, t, m, hx, ht, hm, hlies⟩

namespace Tree

/-- The date of a record can be replaced by any other of the same moment. -/
theorem predicate_date_congr_record (ht : record.date? s = some t) (hu : other.date? s = some u)
    (h : t.moment = u.moment) (negated : Bool) :
    (date side negated bound).predicate s now record =
      (date side negated bound).predicate s now other := by
  rw [Bool.eq_iff_iff, predicate, datePredicate_iff, datePredicate_iff, Record.dateLies_iff ht,
    Record.dateLies_iff hu, h]

/-- **A selection by date compares moments.** -/
theorem predicate_date_iff {m : Int} (ht : record.date? s = some t)
    (hm : boundMoment? now bound = some m) :
    (date side false bound).predicate s now record = true ↔
      match side with
      | .before => t.moment < m
      | .after => m < t.moment := by
  rw [predicate, datePredicate_iff, Record.dateLies_iff ht, hm]
  simp [Signed]

/-- **Selections by date depend on moments alone.** The text of a date is read back as the date with
its offset, to the nanosecond, if RFC 3339 can hold it, and is no date if not. A bound can be replaced
by any other text that is read as the same moment, and the date of a record by any other value that is
viewed as the same moment, without changing which selections are met. And a record with a date lies
before the bound, after it or at the same moment, and only the first two are ever met. -/
theorem date_by_moment :
    (∀ t : Instant, (Value.text (Value.date t).toText).date? = if t.isWritable then some t else none) ∧
    (∀ (s : Settings) (side : Side) (negated : Bool) (bound bound' : String) (i j : Instant),
      Instant.read? bound.toList = some i → Instant.read? bound'.toList = some j →
      i.moment = j.moment → ∀ (now : Instant) (record : Record),
        (date side negated bound).predicate s now record =
          (date side negated bound').predicate s now record) ∧
    (∀ (s : Settings) (side : Side) (negated : Bool) (bound : String) (now : Instant)
      (record other : Record) (t u : Instant),
      record.date? s = some t → other.date? s = some u → t.moment = u.moment →
        (date side negated bound).predicate s now record =
          (date side negated bound).predicate s now other) ∧
    ∀ (s : Settings) (bound : String) (now : Instant) (record : Record) (t : Instant) (m : Int),
      record.date? s = some t → boundMoment? now bound = some m →
        (t.moment < m ∧ (date .before false bound).predicate s now record = true ∧
          (date .after false bound).predicate s now record = false) ∨
        (m < t.moment ∧ (date .before false bound).predicate s now record = false ∧
          (date .after false bound).predicate s now record = true) ∨
        (t.moment = m ∧ (date .before false bound).predicate s now record = false ∧
          (date .after false bound).predicate s now record = false) := by
  refine ⟨Instant.read?_text, ?_, ?_, ?_⟩
  · intro s side negated bound bound' i j hi hj h now record
    refine predicate_date_congr_bound ?_ negated
    rw [boundMoment?_of_read? hi, boundMoment?_of_read? hj, h]
  · intro s side negated bound now record other t u ht hu h
    exact predicate_date_congr_record ht hu h negated
  · intro s bound now record t m ht hm
    simp only [Bool.eq_false_iff, ne_eq, predicate_date_iff ht hm]
    omega

/-- A record with a day has the same moment as the text and the date of two in the morning two hours
ahead of UTC, and lies neither before the day nor after it. -/
theorem date_by_moment_midnight :
    let ahead : Instant := { seconds := -952473600, nanos := 0, offset := 7200 }
    let now : Instant := .ofSeconds 0
    let record : Record := [("date", .text "1939-10-27")]
    (Value.text (Value.date ahead).toText).date? = some ahead ∧
    (date .after true "10/27/1939").predicate {} now record =
      (date .after true "1939-10-27T02:00:00+02:00").predicate {} now record ∧
    (date .after true "10/27/1939").predicate {} now record =
      (date .after true "10/27/1939").predicate {} now [("date", .date ahead)] ∧
    (date .before false "10/27/1939").predicate {} now record = false ∧
    (date .after false "10/27/1939").predicate {} now record = false := by
  intro ahead now record
  obtain ⟨hwritten, hbound, hrecord, hside⟩ := date_by_moment
  let midnight : Instant := .ofSeconds (-952473600)
  have hday : record.date? {} = some midnight := rfl
  have hmoment : boundMoment? now "10/27/1939" = some midnight.moment := rfl
  refine ⟨(hwritten ahead).trans (if_pos (by decide)),
    hbound {} .after true _ _ midnight ahead rfl rfl rfl now record,
    hrecord {} .after true _ now record _ midnight ahead hday rfl rfl, ?_⟩
  rcases hside {} _ now record _ _ hday hmoment with ⟨hbefore, -⟩ | ⟨hafter, -⟩ | ⟨-, hneither⟩
  · exact absurd hbefore (lt_irrefl _)
  · exact absurd hafter (lt_irrefl _)
  · exact hneither

end Tree

end Selections

end RecordQuery
