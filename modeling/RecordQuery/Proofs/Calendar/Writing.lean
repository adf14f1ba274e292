import RecordQuery.Calendar.Text
import RecordQuery.Proofs.Calendar.Forms
import RecordQuery.Proofs.Text.Blank

set_option autoImplicit false

/-!
# Instants written and read back

The text of an instant is read back as the instant, with its nanoseconds and its offset, where RFC 3339
can hold the instant. The text of any other instant is not a date in any form: it has two blanks, and a
written date has one at most.

## Main results

* `RecordQuery.Instant.spells_writeFull` — an instant is spelled in full, and by its own parts.
* `RecordQuery.DateForm.Spells.count_blank_le_one` — a written date has at most one blank.
* `RecordQuery.Instant.read?_text` — what the text of an instant is read as.
-/

namespace RecordQuery

/-! ## Parts written -/

/-- A number is written in digits, with zeros before them. -/
theorem isDigit_of_mem_padded {n k : Nat} {c : Char} (h : c ∈ (padded n k).toList) :
    isDigit c = true := by
  rw [padded, String.toList_append, String.toList_ofList, Nat.toList_repr] at h
  rcases List.mem_append.1 h with h | h
  · obtain rfl := List.eq_of_mem_replicate h
    rfl
  · exact isDigit_of_mem_toDigits h

/-- A number that fits is written in so many digits. -/
theorem digits_padded {n k : Nat} (hn : 0 < n) (hk : k < 10 ^ n) : Digits n k (padded n k).toList := by
  have hlength : (Nat.repr k).length ≤ n := (Nat.length_repr_le_iff hn).2 hk
  refine ⟨?_, fun c => isDigit_of_mem_padded, ?_⟩
  · rw [padded, String.length_toList, String.length_append, String.length_ofList,
      List.length_replicate]
    omega
  · rw [padded, String.toList_append, String.toList_ofList, Nat.toList_repr, digitsValue_append,
      digitsValue_replicate_zero, digitsValue_toDigits, Nat.mul_zero, Nat.zero_add]

/-- A text ends in the zeros that are dropped from it. -/
theorem exists_append_zeros (cs : List Char) :
    ∃ j, cs = (cs.reverse.dropWhile (· == '0')).reverse ++ List.replicate j '0' := by
  have hzeros : cs.reverse.takeWhile (· == '0') =
      List.replicate (cs.reverse.takeWhile (· == '0')).length '0' :=
    List.eq_replicate_iff.2 ⟨rfl, fun c hc => by simpa using List.mem_takeWhile_imp hc⟩
  refine ⟨(cs.reverse.takeWhile (· == '0')).length, ?_⟩
  have hsplit := congrArg List.reverse
    (List.takeWhile_append_dropWhile (p := (· == '0')) (l := cs.reverse))
  rw [List.reverse_reverse, List.reverse_append, hzeros, List.reverse_replicate] at hsplit
  exact hsplit.symm

namespace Instant

variable {t : Instant}

/-- The fraction of a second as written, a point before it. -/
def fractionPart (t : Instant) : String := if t.nanos = 0 then "" else "." ++ fractionDigits t.nanos

/-- The offset as written in full. -/
def offsetPart (t : Instant) : String :=
  if t.offset = 0 then "Z"
  else t.offsetSign ++ padded 2 (t.offset.natAbs / 3600) ++ ":" ++ padded 2 (t.offset.natAbs / 60 % 60)

/-- The time of day that a clock at the offset shows. -/
def localClock (t : Instant) : Clock := ⟨t.localTime / 3600, t.localTime / 60 % 60, t.localTime % 60⟩

/-- **Without the zeros at their end, the digits of a fraction stand for the same fraction.** -/
theorem fractionText_fractionPart (t : Instant) : FractionText t.nanos t.fractionPart.toList := by
  unfold fractionPart
  split
  · rename_i hzero
    rw [hzero]
    exact .none
  rename_i hne
  have hnine : Digits 9 t.nanos (padded 9 t.nanos).toList := digits_padded (by decide) t.nanos_lt
  simp only [String.toList_append, fractionDigits, String.toList_ofList]
  obtain ⟨j, hj⟩ := exists_append_zeros (padded 9 t.nanos).toList
  generalize ((padded 9 t.nanos).toList.reverse.dropWhile (· == '0')).reverse = w at hj ⊢
  obtain ⟨hlength, hdigits, hvalue⟩ := hj ▸ hnine
  rw [List.length_append, List.length_replicate] at hlength
  rw [digitsValue_append, digitsValue_replicate_zero, List.length_replicate, Nat.add_zero] at hvalue
  have hnonempty : w ≠ [] := by
    rintro rfl
    exact hne hvalue.symm
  have hfraction := FractionText.digits hnonempty fun c hc => hdigits c (List.mem_append_left _ hc)
  rw [← hlength, Nat.pow_add, Nat.mul_comm (10 ^ _), ← Nat.mul_assoc,
    Nat.mul_div_cancel _ (Nat.pow_pos (by decide)), Nat.mul_comm, hvalue] at hfraction
  exact hfraction

/-- An offset of whole minutes and less than a day is written as in RFC 3339. -/
theorem offsetText_offsetPart (hlt : t.offset.natAbs < 86400) (hminutes : t.offset.natAbs % 60 = 0) :
    OffsetText t.offset t.offsetPart.toList := by
  have hhour : Digits 2 _ _ := digits_padded (k := t.offset.natAbs / 3600) (by decide) (by omega)
  have hminute : Digits 2 _ _ := digits_padded (k := t.offset.natAbs / 60 % 60) (by decide) (by omega)
  unfold offsetPart offsetSign
  split
  · rename_i hzero
    rw [hzero]
    exact .utc (.inl rfl)
  split
  · have hbehind := OffsetText.behind hhour hminute (by omega) (by omega)
    rw [show -(3600 * ((t.offset.natAbs / 3600 : Nat) : Int) +
      60 * ((t.offset.natAbs / 60 % 60 : Nat) : Int)) = t.offset by omega] at hbehind
    simpa using hbehind
  · have hahead := OffsetText.ahead hhour hminute (by omega) (by omega)
    rw [show 3600 * ((t.offset.natAbs / 3600 : Nat) : Int) +
      60 * ((t.offset.natAbs / 60 % 60 : Nat) : Int) = t.offset by omega] at hahead
    simpa using hahead

/-! ## Instants in full -/

/-- A clock shows less than a day. -/
theorem localTime_lt (t : Instant) : t.localTime < 86400 := by
  unfold localTime secondsPerDay
  omega

/-- The day that a calendar shows is one of the calendar. -/
theorem localDay_isValid (t : Instant) : t.localDay.isValid = true := (Day.number_ofNumber _).1

/-- A written instant names itself. -/
theorem names_self (t : Instant) :
    WrittenDate.Names ⟨t.localDay, t.localClock, t.nanos, t.offset⟩ .full t := by
  have hlt := t.localTime_lt
  have hcounted : t.localDay.Counted (t.localSeconds / secondsPerDay) :=
    Day.counted_iff.2 (Day.number_ofNumber _)
  refine .time ⟨⟨_, hcounted, ?_⟩, ?_, rfl, rfl⟩
  · simp only [Clock.seconds, localClock, localTime, localSeconds, secondsPerDay]
    omega
  · have hhour : t.localTime / 3600 < 24 := by omega
    have hminute : t.localTime / 60 % 60 < 60 := Nat.mod_lt _ (by decide)
    have hsecond : t.localTime % 60 < 60 := Nat.mod_lt _ (by decide)
    simp [Clock.isValid, localClock, hhour, hminute, hsecond]

/-- An instant in full, part by part. -/
theorem toList_writeFull (t : Instant) :
    t.writeFull.toList =
      ((padded 4 t.localDay.year.toNat).toList ++ '-' ::
        ((padded 2 t.localDay.month).toList ++ '-' :: (padded 2 t.localDay.day).toList)) ++
      'T' :: (((padded 2 t.localClock.hour).toList ++ ':' ::
        ((padded 2 t.localClock.minute).toList ++ ':' :: (padded 2 t.localClock.second).toList)) ++
      (t.fractionPart.toList ++ t.offsetPart.toList)) := by
  simp [writeFull, clockParts, localClock, fractionPart, offsetPart]

end Instant

/-- The months and days of the calendar have at most two digits. -/
theorem Day.lt_of_isValid {d : Day} (h : d.isValid = true) : d.month < 100 ∧ d.day < 100 := by
  obtain ⟨i, hi, k, hk, hd⟩ := (isValid_iff d).1 h
  have hle := (bounds_of_mem_monthLengths (List.getElem_mem hi)).2
  have htwelve : (monthLengths d.year).length = 12 := rfl
  rw [hd]
  dsimp only
  omega

/-- **An instant is spelled in full, and by its own parts.** -/
theorem Instant.spells_writeFull {t : Instant} (h : t.isWritable = true) :
    DateForm.Spells .full t.writeFull.toList ⟨t.localDay, t.localClock, t.nanos, t.offset⟩ := by
  simp only [isWritable, Bool.and_eq_true, decide_eq_true_eq] at h
  obtain ⟨⟨⟨hyear, hyear'⟩, hlt⟩, hminutes⟩ := h
  obtain ⟨hmonth, hday⟩ := Day.lt_of_isValid t.localDay_isValid
  have htime := t.localTime_lt
  have hdate : YearFirst PlainYear t.localDay _ :=
    .mk ⟨_, (Int.toNat_of_nonneg hyear).symm, digits_padded (by decide) (by omega)⟩
      (digits_padded (by decide) hmonth) (digits_padded (by decide) hday)
  have hclock : ClockText t.localClock _ :=
    .mk (digits_padded (by decide) (by omega)) (digits_padded (by decide) (by omega))
      (digits_padded (by decide) (by omega))
  rw [toList_writeFull]
  exact .full hdate (by decide) hclock t.fractionText_fractionPart (offsetText_offsetPart hlt hminutes)

/-! ## Blanks in written dates -/

theorem Digits.noBlank {n k : Nat} {w : List Char} (h : Digits n k w) : NoBlank w :=
  noBlank_of_isDigit h.digits

theorem OneOrTwo.noBlank {k : Nat} {w : List Char} (h : OneOrTwo k w) : NoBlank w :=
  h.elim Digits.noBlank Digits.noBlank

theorem SignedYear.noBlank {y : Int} {w : List Char} (h : SignedYear y w) : NoBlank w := by
  cases h with
  | plain h =>
    obtain ⟨k, -, hw⟩ := h
    exact hw.noBlank
  | plus h | minus h =>
    obtain ⟨k, -, hw⟩ := h
    exact noBlank_cons.2 ⟨by decide, hw.noBlank⟩

theorem YearFirst.noBlank {d : Day} {w : List Char} (h : YearFirst SignedYear d w) : NoBlank w := by
  obtain ⟨hu, hv, hw⟩ := h
  simp only [noBlank_append, noBlank_cons, hu.noBlank, hv.noBlank, hw.noBlank]
  decide

theorem ClockText.noBlank {t : Clock} {w : List Char} (h : ClockText t w) : NoBlank w := by
  obtain ⟨hu, hv, hw⟩ := h
  simp only [noBlank_append, noBlank_cons, hu.noBlank, hv.noBlank, hw.noBlank]
  decide

theorem FractionText.noBlank {n : Nat} {w : List Char} (h : FractionText n w) : NoBlank w := by
  cases h with
  | none => exact noBlank_nil
  | digits _ hdigits => exact noBlank_cons.2 ⟨by decide, noBlank_of_isDigit hdigits⟩

theorem OffsetText.noBlank {offset : Int} {w : List Char} (h : OffsetText offset w) : NoBlank w := by
  cases h with
  | utc hz => rcases hz with rfl | rfl <;> simp <;> decide
  | ahead hu hv | behind hu hv =>
    simp only [noBlank_append, noBlank_cons, hu.noBlank, hv.noBlank]
    decide

/-- **A written date has at most one blank**, between the day and the time. -/
theorem DateForm.Spells.count_blank_le_one {f : DateForm} {cs : List Char} {p : WrittenDate}
    (h : f.Spells cs p) : cs.count ' ' ≤ 1 := by
  cases h with
  | full hday _ hclock hnanos hoffset =>
    rw [List.count_append, List.count_cons, List.count_append, List.count_append,
      hday.signed.noBlank.count_eq_zero, hclock.noBlank.count_eq_zero, hnanos.noBlank.count_eq_zero,
      hoffset.noBlank.count_eq_zero]
    split <;> decide
  | dayTime hday hclock =>
    rw [List.count_append, List.count_cons, hday.noBlank.count_eq_zero, hclock.noBlank.count_eq_zero]
    decide
  | day hday =>
    rw [hday.noBlank.count_eq_zero]
    decide
  | monthFirst hm hd hy =>
    rw [List.count_append, List.count_cons, List.count_append, List.count_cons,
      hm.noBlank.count_eq_zero, hd.noBlank.count_eq_zero, hy.noBlank.count_eq_zero]
    decide

namespace Instant

/-! ## Reading what is written -/

variable {t : Instant}

@[simp]
theorem noBlank_padded (n k : Nat) : NoBlank (padded n k).toList :=
  noBlank_of_isDigit fun _ => isDigit_of_mem_padded

theorem noBlank_writeFull (t : Instant) : NoBlank t.writeFull.toList := by
  have hfraction := t.fractionText_fractionPart.noBlank
  have hoffset : NoBlank t.offsetPart.toList := by
    unfold offsetPart offsetSign
    split
    · simp
      decide
    · split <;> simp <;> decide
  rw [toList_writeFull]
  simp [hfraction, hoffset]
  decide

/-- **An instant that RFC 3339 can hold is read back from its text.** -/
theorem read?_writeFull (h : t.isWritable = true) : read? t.writeFull.toList = some t := by
  rw [read?_eq_some_iff, t.noBlank_writeFull.trim_eq]
  exact ⟨_, _, spells_writeFull h, t.names_self⟩

/-- The day in the form for instants that RFC 3339 cannot hold. -/
def otherDay (t : Instant) : String :=
  (if t.localDay.year < 0 then "-" else if 9999 < t.localDay.year then "+" else "") ++
    padded 4 t.localDay.year.natAbs ++ "-" ++ padded 2 t.localDay.month ++ "-" ++
    padded 2 t.localDay.day

/-- The time of day in that form. -/
def otherTime (t : Instant) : String :=
  Nat.repr t.localClock.hour ++ ":" ++ padded 2 t.localClock.minute ++ ":" ++
    padded 2 t.localClock.second ++ "." ++ if t.nanos = 0 then "0" else fractionDigits t.nanos

/-- The offset in that form. -/
def otherOffset (t : Instant) : String :=
  t.offsetSign ++ padded 2 (t.offset.natAbs / 3600) ++ ":" ++ padded 2 (t.offset.natAbs / 60 % 60) ++
    ":" ++ padded 2 (t.offset.natAbs % 60)

/-- Other instants are written with a blank before the time of day and one before the offset. -/
theorem toList_writeOther (t : Instant) :
    t.writeOther.toList =
      t.otherDay.toList ++ ' ' :: (t.otherTime.toList ++ ' ' :: t.otherOffset.toList) := by
  have htext : t.writeOther = t.otherDay ++ " " ++ t.otherTime ++ " " ++ t.otherOffset := by
    unfold writeOther otherDay otherTime otherOffset clockParts localClock
    dsimp only
    simp only [String.append_assoc]
  simp [htext]

theorem noBlank_otherDay (t : Instant) : NoBlank t.otherDay.toList := by
  unfold otherDay
  split
  · simp
    decide
  · split <;> simp <;> decide

theorem noBlank_otherOffset (t : Instant) : NoBlank t.otherOffset.toList := by
  unfold otherOffset offsetSign
  split <;> simp <;> decide

/-- **The text of any other instant is no date.** -/
theorem read?_writeOther (t : Instant) : read? t.writeOther.toList = none := by
  have hday : t.otherDay.toList ≠ [] := by simp [otherDay]
  have hoffset : t.otherOffset.toList ≠ [] := by simp [otherOffset]
  have htrim := t.noBlank_otherDay.trim_append hday t.noBlank_otherOffset hoffset
    (' ' :: (t.otherTime.toList ++ [' ']))
  rw [List.cons_append, List.append_assoc, List.singleton_append, ← toList_writeOther] at htrim
  refine Option.eq_none_iff_forall_not_mem.2 fun i hread => ?_
  obtain ⟨f, p, hspells, -⟩ := read?_eq_some_iff.1 hread
  have hcount := hspells.count_blank_le_one
  rw [htrim, toList_writeOther, List.count_append, List.count_cons_self, List.count_append,
    List.count_cons_self] at hcount
  omega

/-- **What the text of an instant is read as**: the instant with its nanoseconds and its offset, if
RFC 3339 can hold it, and nothing else. -/
theorem read?_text (t : Instant) :
    read? t.text.toList = if t.isWritable then some t else none := by
  unfold text
  split
  · rename_i h
    exact read?_writeFull h
  · exact t.read?_writeOther

end Instant

end RecordQuery
