import Mathlib
import RecordQuery.Calendar.Day

set_option autoImplicit false

/-!
# Counting days

The calendar goes from one day to the next: through the month, then to the first of the next month, then
to the first of the next year. Counted in this way from the first of January 1970, in both directions,
every day gets its number, so that days and whole numbers correspond.

## Main definitions

* `RecordQuery.Day.next` — the day after a day.
* `RecordQuery.Day.Counted` — days counted one by one from the first of January 1970.

## Main results

* `RecordQuery.Day.number_ofNumber`, `RecordQuery.Day.ofNumber_number` — days and their numbers
  correspond.
* `RecordQuery.Day.counted_iff` — the number of a day is the one that it is counted with.
-/

namespace RecordQuery

/-! ## Years -/

/-- A year has `365` or `366` days. -/
theorem sum_monthLengths (y : Int) :
    (monthLengths y).sum = if isLeapYear y then 366 else 365 := by
  unfold monthLengths
  split <;> rfl

/-- A month has `28` to `31` days. -/
theorem bounds_of_mem_monthLengths {y : Int} {l : Nat} (h : l ∈ monthLengths y) :
    28 ≤ l ∧ l ≤ 31 := by
  have hall : ∀ l ∈ monthLengths y, 28 ≤ l ∧ l ≤ 31 := by
    unfold monthLengths
    split <;> decide
  exact hall l h

/-- **A year begins when the months of the year before it are over.** -/
theorem daysBeforeYear_succ (y : Int) :
    daysBeforeYear (y + 1) = daysBeforeYear y + (monthLengths y).sum := by
  rw [sum_monthLengths]
  unfold daysBeforeYear isLeapYear
  split
  · rename_i hleap
    simp only [Bool.and_eq_true, Bool.or_eq_true, decide_eq_true_eq] at hleap
    omega
  · rename_i hcommon
    simp only [Bool.and_eq_true, Bool.or_eq_true, decide_eq_true_eq] at hcommon
    omega

theorem daysBeforeYear_strictMono : StrictMono daysBeforeYear := by
  refine strictMono_int_of_lt_succ fun y => ?_
  rw [daysBeforeYear_succ, sum_monthLengths]
  split <;> omega

/-- The days before a month are those of the months before it. -/
theorem daysBeforeMonth_succ (y : Int) (i : Nat) :
    daysBeforeMonth y (i + 1) = ((monthLengths y).take i).sum := by
  rw [daysBeforeMonth, Nat.add_sub_cancel, List.sum_eq_foldl]

namespace Day

/-- A year is found from its average length, or is next to what is found.

**Proof sketch.** The average of `400` years, `146097` days, is off by less than a year. -/
theorem yearOf_spec (n : Int) :
    daysBeforeYear (yearOf n) ≤ n ∧ n < daysBeforeYear (yearOf n + 1) := by
  have hnear : daysBeforeYear (n * 400 / 146097 - 1) ≤ n ∧
      n < daysBeforeYear (n * 400 / 146097 + 1 + 1) := by
    unfold daysBeforeYear
    omega
  unfold yearOf
  dsimp only
  split
  · rename_i hbefore
    rw [Int.sub_add_cancel]
    exact ⟨hnear.1, hbefore⟩
  split
  · rename_i hbehind
    exact ⟨hbehind, hnear.2⟩
  · exact ⟨by omega, by omega⟩

/-- A day falls into the one year that has begun and is not over. -/
theorem yearOf_eq {n y : Int} (hbegun : daysBeforeYear y ≤ n) (hover : n < daysBeforeYear (y + 1)) :
    yearOf n = y := by
  obtain ⟨hbegun', hover'⟩ := yearOf_spec n
  have hle := daysBeforeYear_strictMono.lt_iff_lt.1 (hbegun.trans_lt hover')
  have hge := daysBeforeYear_strictMono.lt_iff_lt.1 (hbegun'.trans_lt hover)
  omega

/-! ## Months -/

/-- Days are split into whole months and days of the next one. -/
theorem splitMonths_sum_add {ls : List Nat} {i k : Nat} (hi : i < ls.length) (hk : k < ls[i])
    (month : Nat) : splitMonths month ((ls.take i).sum + k) ls = (month + i, k + 1) := by
  induction ls generalizing i month with
  | nil => simp at hi
  | cons l ls ih =>
    cases i with
    | zero =>
      rw [List.getElem_cons_zero] at hk
      rw [List.take_zero, List.sum_nil, Nat.zero_add, splitMonths, if_pos hk]
      rfl
    | succ i =>
      rw [List.getElem_cons_succ] at hk
      have hrest := ih (by simpa using hi) hk (month + 1)
      rw [List.take_succ_cons, List.sum_cons, splitMonths, if_neg (by omega)]
      rw [show l + (ls.take i).sum + k - l = (ls.take i).sum + k by omega, hrest]
      rw [Nat.add_right_comm, Nat.add_assoc]

/-- Fewer days than the months have end in one of them. -/
theorem exists_lt_sum {ls : List Nat} {n : Nat} (h : n < ls.sum) :
    ∃ i, ∃ hi : i < ls.length, ∃ k, k < ls[i] ∧ n = (ls.take i).sum + k := by
  induction ls generalizing n with
  | nil => simp at h
  | cons l ls ih =>
    rw [List.sum_cons] at h
    by_cases hn : n < l
    · exact ⟨0, by simp, n, by simpa using hn, by simp⟩
    · obtain ⟨i, hi, k, hk, heq⟩ := ih (n := n - l) (by omega)
      refine ⟨i + 1, by simpa using hi, k, by simpa using hk, ?_⟩
      rw [List.take_succ_cons, List.sum_cons]
      omega

/-- Whole months and days of the next one are less than all months. -/
theorem sum_take_add_lt {ls : List Nat} {i k : Nat} (hi : i < ls.length) (hk : k < ls[i]) :
    (ls.take i).sum + k < ls.sum := by
  have hsum := congrArg List.sum (List.take_append_drop i ls)
  rw [List.sum_append, List.drop_eq_getElem_cons hi, List.sum_cons] at hsum
  omega

/-! ## Days and their numbers -/

/-- The length of a month from its place in the year, counted from zero. -/
theorem monthLength_mk_succ (y : Int) {i : Nat} (hi : i < (monthLengths y).length) (k : Nat) :
    (Day.mk y (i + 1) k).monthLength = (monthLengths y)[i] := by
  rw [monthLength]
  exact List.getD_eq_getElem _ _ hi

/-- The days of the calendar, as months and days of the month counted from zero. -/
theorem isValid_iff (d : Day) :
    d.isValid = true ↔ ∃ i, ∃ hi : i < (monthLengths d.year).length, ∃ k,
      k < (monthLengths d.year)[i] ∧ d = ⟨d.year, i + 1, k + 1⟩ := by
  obtain ⟨y, m, k⟩ := d
  have htwelve : (monthLengths y).length = 12 := rfl
  simp only [isValid, Bool.and_eq_true, decide_eq_true_eq, Day.mk.injEq, true_and]
  constructor
  · rintro ⟨⟨⟨hm, hm'⟩, hk⟩, hk'⟩
    obtain ⟨i, rfl⟩ : ∃ i, m = i + 1 := ⟨m - 1, by omega⟩
    have hi : i < (monthLengths y).length := by omega
    rw [monthLength_mk_succ y hi] at hk'
    exact ⟨i, hi, k - 1, by omega, rfl, by omega⟩
  · rintro ⟨i, hi, j, hj, rfl, rfl⟩
    rw [monthLength_mk_succ y hi]
    omega

/-- The number of a day from its month and day of the month, counted from zero. -/
theorem number_mk_succ (y : Int) (i k : Nat) :
    (Day.mk y (i + 1) (k + 1)).number =
      daysBeforeYear y + ((monthLengths y).take i).sum + k - daysBefore1970 := by
  rw [number, daysBeforeMonth_succ]
  push_cast
  omega

/-- **The day with a number is in the calendar and has that number.** -/
theorem number_ofNumber (n : Int) : (ofNumber n).isValid = true ∧ (ofNumber n).number = n := by
  obtain ⟨hbegun, hover⟩ := yearOf_spec (n + daysBefore1970)
  unfold ofNumber
  dsimp only
  generalize yearOf (n + daysBefore1970) = y at hbegun hover ⊢
  rw [daysBeforeYear_succ] at hover
  have hdays : (n + daysBefore1970 - daysBeforeYear y).toNat < (monthLengths y).sum := by omega
  obtain ⟨i, hi, k, hk, hn⟩ := exists_lt_sum hdays
  rw [hn, splitMonths_sum_add hi hk, Nat.add_comm 1 i]
  refine ⟨(isValid_iff _).2 ⟨i, hi, k, hk, rfl⟩, ?_⟩
  dsimp only
  rw [number_mk_succ]
  omega

/-- **A day of the calendar is the one with its number.** -/
theorem ofNumber_number {d : Day} (h : d.isValid = true) : ofNumber d.number = d := by
  obtain ⟨i, hi, k, hk, hd⟩ := (isValid_iff d).1 h
  generalize d.year = y at *
  subst hd
  have hlt := sum_take_add_lt hi hk
  have hdays : (Day.mk y (i + 1) (k + 1)).number + daysBefore1970 =
      daysBeforeYear y + ((monthLengths y).take i).sum + k := by
    rw [number_mk_succ]
    omega
  have hyear : yearOf ((Day.mk y (i + 1) (k + 1)).number + daysBefore1970) = y := by
    refine yearOf_eq ?_ ?_
    · omega
    · rw [daysBeforeYear_succ]
      omega
  have hmonth : ((Day.mk y (i + 1) (k + 1)).number + daysBefore1970 - daysBeforeYear y).toNat =
      ((monthLengths y).take i).sum + k := by omega
  unfold ofNumber
  dsimp only
  rw [hyear, hmonth, splitMonths_sum_add hi hk, Nat.add_comm 1 i]

/-! ## The calendar day by day -/

/-- The day after a day. -/
def next (d : Day) : Day :=
  if d.day < d.monthLength then { d with day := d.day + 1 }
  else if d.month < 12 then ⟨d.year, d.month + 1, 1⟩
  else ⟨d.year + 1, 1, 1⟩

/-- Days counted one by one from the first of January 1970, forwards and backwards. -/
inductive Counted : Day → Int → Prop
  | start : Counted ⟨1970, 1, 1⟩ 0
  | next {d : Day} {n : Int} : Counted d n → Counted d.next (n + 1)
  | previous {d : Day} {n : Int} : d.isValid = true → Counted d.next (n + 1) → Counted d n

/-- The day after a day of the calendar is in the calendar and has the next number. -/
theorem number_next {d : Day} (h : d.isValid = true) :
    d.next.isValid = true ∧ d.next.number = d.number + 1 := by
  obtain ⟨i, hi, k, hk, hd⟩ := (isValid_iff d).1 h
  generalize d.year = y at *
  subst hd
  have htwelve : (monthLengths y).length = 12 := rfl
  have hfirst (z : Int) (j : Nat) (hj : j < (monthLengths z).length) : 0 < (monthLengths z)[j] :=
    Nat.lt_of_lt_of_le (by decide) (bounds_of_mem_monthLengths (List.getElem_mem hj)).1
  unfold next
  rw [monthLength_mk_succ y hi]
  dsimp only
  split
  · rename_i hday
    refine ⟨(isValid_iff _).2 ⟨i, hi, k + 1, hday, rfl⟩, ?_⟩
    rw [number_mk_succ, number_mk_succ]
    push_cast
    omega
  have hsum : ((monthLengths y).take (i + 1)).sum = ((monthLengths y).take i).sum + k + 1 := by
    rw [List.take_succ_eq_append_getElem hi, List.sum_append, List.sum_singleton]
    omega
  split
  · rename_i hmonth
    have hi' : i + 1 < (monthLengths y).length := by omega
    refine ⟨(isValid_iff _).2 ⟨i + 1, hi', 0, hfirst y _ hi', rfl⟩, ?_⟩
    rw [number_mk_succ y (i + 1) 0, number_mk_succ, hsum]
    push_cast
    omega
  · have hyear : ((monthLengths y).take (i + 1)).sum = (monthLengths y).sum := by
      rw [List.take_of_length_le (by omega)]
    have hzero : 0 < (monthLengths (y + 1)).length := by simp [monthLengths]
    refine ⟨(isValid_iff _).2 ⟨0, hzero, 0, hfirst (y + 1) 0 hzero, rfl⟩, ?_⟩
    rw [number_mk_succ (y + 1) 0 0, number_mk_succ, daysBeforeYear_succ, ← hyear, hsum,
      List.take_zero, List.sum_nil]
    push_cast
    omega

/-- The day with the next number is the next day. -/
theorem ofNumber_succ (n : Int) : ofNumber (n + 1) = (ofNumber n).next := by
  obtain ⟨hvalid, hnumber⟩ := number_ofNumber n
  obtain ⟨hnext, hsucc⟩ := number_next hvalid
  rw [← ofNumber_number hnext, hsucc, hnumber]

/-- **The number of a day is the one that it is counted with**, and the days that are counted are those
of the calendar.

**Proof sketch.** Counting a day more raises the number by one (`number_next`). Conversely the days with
the numbers from `0` on, forwards and backwards, follow each other (`ofNumber_succ`). -/
theorem counted_iff {d : Day} {n : Int} : d.Counted n ↔ d.isValid = true ∧ d.number = n := by
  constructor
  · intro h
    induction h with
    | start => decide
    | next _ ih =>
      obtain ⟨hnext, hsucc⟩ := number_next ih.1
      exact ⟨hnext, by rw [hsucc, ih.2]⟩
    | previous hd _ ih =>
      have hsucc := (number_next hd).2
      exact ⟨hd, by omega⟩
  · rintro ⟨hd, rfl⟩
    have hcounted (n : Int) : (ofNumber n).Counted n := by
      induction n using Int.induction_on with
      | zero => exact .start
      | succ i ih =>
        rw [ofNumber_succ]
        exact .next ih
      | pred i ih =>
        refine .previous (number_ofNumber _).1 ?_
        rwa [← ofNumber_succ, Int.sub_add_cancel]
    have h := hcounted d.number
    rwa [ofNumber_number hd] at h

/-- A common year has no 29th of February. -/
theorem not_counted_of_common {y : Int} (h : isLeapYear y = false) (n : Int) :
    ¬ (Day.mk y 2 29).Counted n := by
  intro hcounted
  have hvalid := (Day.counted_iff.1 hcounted).1
  simp [Day.isValid, Day.monthLength, monthLengths, h] at hvalid

end Day

end RecordQuery
