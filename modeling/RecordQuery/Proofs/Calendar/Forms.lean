import RecordQuery.Proofs.Calendar.Day
import RecordQuery.Proofs.Calendar.Spelling

set_option autoImplicit false

/-!
# Forms of written dates

A text is a date if it is, but for white space around it, spelled in one of four forms, and the day and
the time that are spelled exist. It then names one moment. A text is spelled in one form at most and in
one way: read from left to right, it shows its form, so that nothing depends on the order in which the
forms are tried.

## Main definitions

* `RecordQuery.DateForm`, `RecordQuery.DateForm.read?` — the four forms and their readers.
* `RecordQuery.DateForm.Spells` — the texts of a form.
* `RecordQuery.WrittenDate.Names` — the instant that the parts of a date name.

## Main results

* `RecordQuery.DateForm.Spells.unique` — no text is spelled in two forms, or in two ways.
* `RecordQuery.DateForm.read?_eq_some_iff` — the reader of a form takes the texts of the form.
* `RecordQuery.Instant.read?_eq_some_iff` — what is read as a date, and as which.
-/

namespace RecordQuery

/-! ## The texts of the forms -/

/-- The forms in which dates are written. -/
inductive DateForm where
  | full
  | dayTime
  | day
  | monthFirst
deriving DecidableEq, Repr

/-- The parts of a written date, the ones that are not written being zero. -/
structure WrittenDate where
  day : Day
  clock : Clock
  nanos : Nat
  offset : Int
deriving DecidableEq, Repr

/-- The texts of each form, and the parts that they show. -/
inductive DateForm.Spells : DateForm → List Char → WrittenDate → Prop
  | full {day : Day} {clock : Clock} {nanos : Nat} {offset : Int} {u v w x : List Char} {c : Char} :
    YearFirst PlainYear day u → c.toNat < 0x80 → ClockText clock v → FractionText nanos w →
    OffsetText offset x → DateForm.Spells .full (u ++ c :: (v ++ (w ++ x))) ⟨day, clock, nanos, offset⟩
  | dayTime {day : Day} {clock : Clock} {u v : List Char} :
    YearFirst SignedYear day u → ClockText clock v →
    DateForm.Spells .dayTime (u ++ ' ' :: v) ⟨day, clock, 0, 0⟩
  | day {day : Day} {u : List Char} :
    YearFirst SignedYear day u → DateForm.Spells .day u ⟨day, ⟨0, 0, 0⟩, 0, 0⟩
  | monthFirst {y : Int} {m d : Nat} {u v w : List Char} :
    OneOrTwo m u → OneOrTwo d v → SignedYear y w →
    DateForm.Spells .monthFirst (u ++ '/' :: (v ++ '/' :: w)) ⟨⟨y, m, d⟩, ⟨0, 0, 0⟩, 0, 0⟩

variable {f g : DateForm} {cs text : List Char} {p q : WrittenDate} {i j : Instant}

/-! ## One form at most -/

theorem YearFirst.signed {d : Day} {w : List Char} (h : YearFirst PlainYear d w) :
    YearFirst SignedYear d w := by
  obtain ⟨hu, hv, hw⟩ := h
  exact .mk (.plain hu) hv hw

/-- An offset is not empty. -/
theorem OffsetText.ne_nil {offset : Int} {w : List Char} (h : OffsetText offset w) : w ≠ [] := by
  cases h <;> exact List.cons_ne_nil _ _

/-- Where the year is first, there is no slash among the first three characters. -/
theorem YearFirst.slash_notMem {d : Day} {w : List Char} (h : YearFirst SignedYear d w)
    (rest : List Char) : '/' ∉ (w ++ rest).take 3 := by
  have hdigits {k : Nat} {u : List Char} (hu : Digits 4 k u) : '/' ∉ u := fun hmem =>
    absurd (hu.digits _ hmem) (by decide)
  have htake {u : List Char} (hu : '/' ∉ u) (hlength : 3 ≤ u.length) (v : List Char) :
      '/' ∉ (u ++ v).take 3 := by
    rw [List.take_append_of_le_length hlength]
    exact fun hmem => hu (List.mem_of_mem_take hmem)
  obtain ⟨hyear, -, -⟩ := h
  rw [List.append_assoc]
  cases hyear with
  | plain hyear =>
    obtain ⟨k, -, hu⟩ := hyear
    exact htake (hdigits hu) (by rw [hu.length_eq]; decide) _
  | plus hyear | minus hyear =>
    obtain ⟨k, -, hu⟩ := hyear
    refine htake ?_ (by rw [List.length_cons, hu.length_eq]; decide) _
    simpa using hdigits hu

/-- Where the month is first, there is a slash among the first three characters. -/
theorem OneOrTwo.slash_mem {k : Nat} {w : List Char} (h : OneOrTwo k w) (rest : List Char) :
    '/' ∈ (w ++ '/' :: rest).take 3 := by
  rcases h with h | h
  · obtain ⟨c, rfl⟩ := List.length_eq_one_iff.1 h.length_eq
    simp
  · obtain ⟨c, d, rfl⟩ := List.length_eq_two.1 h.length_eq
    simp

/-- The form of a text and the parts that it shows, read from left to right without trying one form
after the other. -/
def shownParts? (cs : List Char) : Option (DateForm × WrittenDate) :=
  match readYearMonthDay? cs with
  | some (day, []) => some (.day, ⟨day, ⟨0, 0, 0⟩, 0, 0⟩)
  | some (day, _ :: rest) =>
    (Clock.read? rest).bind fun (clock, rest) =>
      if rest = [] then some (.dayTime, ⟨day, clock, 0, 0⟩)
      else
        (readFraction? rest).bind fun (nanos, rest) =>
          (readOffset? rest).map fun (offset, _) => (.full, ⟨day, clock, nanos, offset⟩)
  | none =>
    (readOneOrTwo? cs).bind fun (month, rest) =>
      (readOneOrTwo? (rest.drop 1)).bind fun (day, rest) =>
        (readYear? (rest.drop 1)).map fun (year, _) =>
          (.monthFirst, ⟨⟨year, month, day⟩, ⟨0, 0, 0⟩, 0, 0⟩)

/-- **A spelled text shows its form and its parts** from left to right. -/
theorem DateForm.Spells.shownParts?_eq (h : f.Spells cs p) : shownParts? cs = some (f, p) := by
  unfold shownParts?
  cases h with
  | @full day clock nanos offset u v w x c hday _ hclock hnanos hoffset =>
    have hne : w ++ x ≠ [] := List.append_ne_nil_of_right_ne_nil _ hoffset.ne_nil
    rw [readYearMonthDay?_eq_some_iff.2 ⟨u, hday.signed, rfl⟩]
    dsimp only
    rw [Clock.read?_eq_some_iff.2 ⟨v, hclock, rfl⟩, Option.bind_some]
    dsimp only
    rw [if_neg hne, readFraction?_append hnanos hoffset.head?_ne, Option.bind_some]
    dsimp only
    rw [readOffset?_eq_some_iff.2 ⟨x, hoffset, (List.append_nil x).symm⟩, Option.map_some]
  | @dayTime day clock u v hday hclock =>
    rw [readYearMonthDay?_eq_some_iff.2 ⟨u, hday, rfl⟩]
    dsimp only
    rw [Clock.read?_eq_some_iff.2 ⟨v, hclock, (List.append_nil v).symm⟩, Option.bind_some]
    dsimp only
    rw [if_pos rfl]
  | @day day u hday => rw [readYearMonthDay?_eq_some_iff.2 ⟨_, hday, (List.append_nil _).symm⟩]
  | @monthFirst y m d u v w hm hd hy =>
    have hnone : readYearMonthDay? (u ++ '/' :: (v ++ '/' :: w)) = none := by
      refine Option.eq_none_iff_forall_not_mem.2 fun (_, rest) hread => ?_
      obtain ⟨w', hday, htext⟩ := readYearMonthDay?_eq_some_iff.1 hread
      exact hday.slash_notMem rest (htext ▸ hm.slash_mem _)
    rw [hnone]
    dsimp only
    rw [readOneOrTwo?_append hm (by decide), Option.bind_some, List.drop_one, List.tail_cons,
      readOneOrTwo?_append hd (by decide), Option.bind_some, List.drop_one, List.tail_cons,
      readYear?_eq_some_iff.2 ⟨w, hy, (List.append_nil w).symm⟩, Option.map_some]

/-- **No text is spelled in two forms**, or in two ways. -/
theorem DateForm.Spells.unique (h : f.Spells cs p) (h' : g.Spells cs q) : f = g ∧ p = q := by
  have hboth := h.shownParts?_eq.symm.trans h'.shownParts?_eq
  simpa using hboth

/-! ## The instants that are named -/

/-- An instant is a time of day of a day, told by a clock at an offset. -/
structure Instant.IsAt (i : Instant) (d : Day) (t : Clock) (nanos : Nat) (offset : Int) : Prop where
  exists_counted : ∃ n, d.Counted n ∧ i.seconds = n * secondsPerDay + t.seconds - offset
  isValid : t.isValid = true
  nanos_eq : i.nanos = nanos
  offset_eq : i.offset = offset

/-- The last second of a month in UTC. -/
def EndsMonth (seconds : Int) : Prop :=
  ∃ (d : Day) (n : Int), d.Counted n ∧ d.day = d.monthLength ∧ seconds = n * secondsPerDay + 86399

/-- The instant that the parts of a date name. With an offset a leap second can be written, which counts
as the last nanosecond of the second before it, and comes at the end of a month only. -/
inductive WrittenDate.Names (p : WrittenDate) : DateForm → Instant → Prop
  | time {f : DateForm} {i : Instant} : i.IsAt p.day p.clock p.nanos p.offset → p.Names f i
  | leapSecond {i : Instant} : p.clock.second = 60 →
    i.IsAt p.day { p.clock with second := 59 } 999999999 p.offset → EndsMonth i.seconds →
    p.Names .full i

/-- The instant of a day, a time and an offset is found if there is one. -/
theorem Day.at?_eq_some_iff {d : Day} {t : Clock} {nanos : Nat} {offset : Int}
    (hnanos : nanos < 1000000000) :
    d.at? t nanos offset = some i ↔ i.IsAt d t nanos offset := by
  unfold Day.at?
  constructor
  · intro h
    split at h
    · rename_i hvalid
      rw [Bool.and_eq_true] at hvalid
      obtain rfl := Option.some.inj h
      exact ⟨⟨d.number, counted_iff.2 ⟨hvalid.1, rfl⟩, rfl⟩, hvalid.2, Nat.mod_eq_of_lt hnanos, rfl⟩
    · cases h
  · rintro ⟨⟨n, hcounted, hseconds⟩, hclock, hnanos', hoffset⟩
    obtain ⟨hday, rfl⟩ := counted_iff.1 hcounted
    obtain ⟨seconds, nanos', offset', hlt⟩ := i
    dsimp only at hseconds hnanos' hoffset
    subst hseconds hnanos' hoffset
    rw [if_pos (by rw [hday, hclock, Bool.and_self])]
    simp only [Instant.ofLocal, Nat.mod_eq_of_lt hnanos]

/-- The end of a month is found in UTC, whatever the offset. -/
theorem Instant.endsMonth_iff (t : Instant) : t.endsMonth = true ↔ EndsMonth t.seconds := by
  simp only [endsMonth, localTime, localDay, localSeconds, Int.add_zero, Bool.and_eq_true,
    decide_eq_true_eq]
  unfold EndsMonth secondsPerDay
  constructor
  · rintro ⟨htime, hday⟩
    exact ⟨_, _, Day.counted_iff.2 (Day.number_ofNumber _), hday, by omega⟩
  · rintro ⟨d, n, hcounted, hday, hseconds⟩
    obtain ⟨hvalid, rfl⟩ := Day.counted_iff.1 hcounted
    have hnumber : t.seconds / 86400 = d.number := by omega
    rw [hnumber, Day.ofNumber_number hvalid]
    exact ⟨by omega, hday⟩

/-! ## The readers of the forms -/

/-- The reader of a form. -/
def DateForm.read? : DateForm → List Char → Option Instant
  | full => Instant.readFull?
  | dayTime => Instant.readDayTime?
  | day => Instant.readDay?
  | monthFirst => Instant.readMonthFirst?

/-- The nanoseconds that a text shows are less than a second. -/
theorem DateForm.Spells.nanos_lt (h : f.Spells cs p) : p.nanos < 1000000000 := by
  cases h with
  | full _ _ _ hnanos _ => exact hnanos.lt
  | dayTime | day | monthFirst => exact Nat.zero_lt_succ _

/-- Without a leap second the parts of a date name the instant that is found for them. -/
theorem DateForm.Spells.at?_eq_some_iff (h : f.Spells cs p) (hf : f ≠ .full ∨ p.clock.second ≠ 60) :
    p.day.at? p.clock p.nanos p.offset = some i ↔ p.Names f i := by
  rw [Day.at?_eq_some_iff h.nanos_lt]
  refine ⟨.time, fun hnames => ?_⟩
  cases hnames with
  | time hat => exact hat
  | leapSecond hsecond => exact absurd hsecond (hf.resolve_left fun hne => hne rfl)

/-- A leap second is named at the end of a month only. -/
theorem WrittenDate.names_full_iff (h : p.clock.second = 60) :
    p.Names .full i ↔
      i.IsAt p.day { p.clock with second := 59 } 999999999 p.offset ∧ EndsMonth i.seconds := by
  refine ⟨fun hnames => ?_, fun hat => .leapSecond h hat.1 hat.2⟩
  cases hnames with
  | time hat => exact absurd hat.isValid (by simp [Clock.isValid, h])
  | leapSecond _ hat hends => exact ⟨hat, hends⟩

/-- What is found for the parts of a date-time with an offset is what they name. -/
theorem DateForm.Spells.full_eq_some_iff (h : DateForm.full.Spells cs p) :
    (if p.clock.second = 60 then
        (p.day.at? { p.clock with second := 59 } 999999999 p.offset).bind fun t =>
          if t.endsMonth then some t else none
      else p.day.at? p.clock p.nanos p.offset) = some i ↔ p.Names .full i := by
  by_cases hsecond : p.clock.second = 60
  · simp only [if_pos hsecond, Option.bind_eq_some_iff, Option.ite_none_right_eq_some,
      Option.some.injEq, Day.at?_eq_some_iff (show 999999999 < 1000000000 by decide),
      WrittenDate.names_full_iff hsecond, Instant.endsMonth_iff]
    constructor
    · rintro ⟨t, hat, hends, rfl⟩
      exact ⟨hat, hends⟩
    · rintro ⟨hat, hends⟩
      exact ⟨i, hat, hends, rfl⟩
  · rw [if_neg hsecond, h.at?_eq_some_iff (.inr hsecond)]

/-- A date-time with an offset is read as spelled. -/
theorem Instant.readFull?_eq_some_iff :
    readFull? cs = some i ↔ ∃ p, DateForm.full.Spells cs p ∧ p.Names .full i := by
  simp only [readFull?, bind, Option.bind_eq_some_iff, Prod.exists, readChar?_eq_some_iff,
    readDigits?_eq_some_iff, Clock.read?_eq_some_iff, readOffset?_eq_some_iff, Option.guard_eq_some',
    List.head?_eq_some_iff, List.isEmpty_iff, exists_const]
  constructor
  · rintro ⟨y, _, ⟨u, hu, rfl⟩, _, rfl, m, _, ⟨v, hv, rfl⟩, _, rfl, d, _, ⟨w, hw, rfl⟩, c, ⟨rest, rfl⟩,
      hc, t, _, ⟨clock, hclock, hrest⟩, nanos, _, hnanos, offset, _, ⟨x, hoffset, rfl⟩, rfl, hat⟩
    obtain ⟨fraction, hfraction, rfl⟩ := exists_of_readFraction? hnanos
    rw [List.append_nil] at hrest
    obtain rfl : rest = _ := hrest
    have h := DateForm.Spells.full (.mk ⟨y, rfl, hu⟩ hv hw) hc hclock hfraction hoffset
    refine ⟨_, by simpa using h, h.full_eq_some_iff.1 hat⟩
  · rintro ⟨p, h, hnames⟩
    rw [← h.full_eq_some_iff] at hnames
    cases h with
    | full hday hc hclock hfraction hoffset =>
      obtain ⟨⟨k, rfl, hu⟩, hv, hw⟩ := hday
      have hread := readFraction?_append hfraction hoffset.head?_ne
      exact ⟨_, _, ⟨_, hu, List.append_assoc ..⟩, _, rfl, _, _, ⟨_, hv, List.append_assoc ..⟩, _, rfl,
        _, _, ⟨_, hw, rfl⟩, _, ⟨_, rfl⟩, hc, _, _, ⟨_, hclock, rfl⟩, _, _, hread, _, _,
        ⟨_, hoffset, (List.append_nil _).symm⟩, rfl, hnames⟩

/-- A day with a time of day is read as spelled. -/
theorem Instant.readDayTime?_eq_some_iff :
    readDayTime? cs = some i ↔ ∃ p, DateForm.dayTime.Spells cs p ∧ p.Names .dayTime i := by
  simp only [readDayTime?, bind, Option.bind_eq_some_iff, Prod.exists, readYearMonthDay?_eq_some_iff,
    readChar?_eq_some_iff, Clock.read?_eq_some_iff, Option.ite_none_right_eq_some, List.isEmpty_iff]
  constructor
  · rintro ⟨d, _, ⟨u, hu, rfl⟩, _, rfl, t, _, ⟨v, hv, rfl⟩, rfl, hat⟩
    have h := DateForm.Spells.dayTime hu hv
    rw [List.append_nil]
    exact ⟨_, h, (h.at?_eq_some_iff (.inl (by decide))).1 hat⟩
  · rintro ⟨p, h, hnames⟩
    rw [← h.at?_eq_some_iff (.inl (by decide))] at hnames
    cases h with
    | dayTime hu hv =>
      exact ⟨_, _, ⟨_, hu, rfl⟩, _, rfl, _, _, ⟨_, hv, (List.append_nil _).symm⟩, rfl, hnames⟩

/-- A day with the year first is read as spelled. -/
theorem Instant.readDay?_eq_some_iff :
    readDay? cs = some i ↔ ∃ p, DateForm.day.Spells cs p ∧ p.Names .day i := by
  simp only [readDay?, bind, Option.bind_eq_some_iff, Prod.exists, readYearMonthDay?_eq_some_iff,
    Option.ite_none_right_eq_some, List.isEmpty_iff]
  constructor
  · rintro ⟨d, _, ⟨u, hu, rfl⟩, rfl, hat⟩
    have h := DateForm.Spells.day hu
    rw [List.append_nil]
    exact ⟨_, h, (h.at?_eq_some_iff (.inl (by decide))).1 hat⟩
  · rintro ⟨p, h, hnames⟩
    rw [← h.at?_eq_some_iff (.inl (by decide))] at hnames
    cases h with
    | day hu => exact ⟨_, _, ⟨_, hu, (List.append_nil _).symm⟩, rfl, hnames⟩

/-- A day with the month first is read as spelled. -/
theorem Instant.readMonthFirst?_eq_some_iff :
    readMonthFirst? cs = some i ↔ ∃ p, DateForm.monthFirst.Spells cs p ∧ p.Names .monthFirst i := by
  simp only [readMonthFirst?, bind, Option.bind_eq_some_iff, Prod.exists, readYear?_eq_some_iff,
    readChar?_eq_some_iff, Option.ite_none_right_eq_some, List.isEmpty_iff]
  constructor
  · rintro ⟨m, _, hm, _, rfl, d, _, hd, _, rfl, y, _, ⟨w, hw, rfl⟩, rfl, hat⟩
    obtain ⟨u, hu, rfl⟩ := exists_of_readOneOrTwo? hm
    obtain ⟨v, hv, rfl⟩ := exists_of_readOneOrTwo? hd
    have h := DateForm.Spells.monthFirst hu hv hw
    rw [List.append_nil]
    exact ⟨_, h, (h.at?_eq_some_iff (.inl (by decide))).1 hat⟩
  · rintro ⟨p, h, hnames⟩
    rw [← h.at?_eq_some_iff (.inl (by decide))] at hnames
    cases h with
    | monthFirst hu hv hw =>
      exact ⟨_, _, readOneOrTwo?_append hu (by decide) _, _, rfl, _, _,
        readOneOrTwo?_append hv (by decide) _, _, rfl, _, _, ⟨_, hw, (List.append_nil _).symm⟩, rfl,
        hnames⟩

/-- **The reader of a form takes the texts of the form** that name an instant. -/
theorem DateForm.read?_eq_some_iff :
    f.read? cs = some i ↔ ∃ p, f.Spells cs p ∧ p.Names f i := by
  cases f with
  | full => exact Instant.readFull?_eq_some_iff
  | dayTime => exact Instant.readDayTime?_eq_some_iff
  | day => exact Instant.readDay?_eq_some_iff
  | monthFirst => exact Instant.readMonthFirst?_eq_some_iff

/-- No text is read in two forms. -/
theorem DateForm.read?_unique (hi : f.read? cs = some i) (hj : g.read? cs = some j) : f = g := by
  obtain ⟨p, hp, -⟩ := DateForm.read?_eq_some_iff.1 hi
  obtain ⟨q, hq, -⟩ := DateForm.read?_eq_some_iff.1 hj
  exact (hp.unique hq).1

/-! ## Reading in any form -/

/-- Trying all forms, in whatever order, finds what one of them reads. -/
theorem DateForm.findSome?_eq_some_iff {forms : List DateForm} (hforms : ∀ f, f ∈ forms) :
    forms.findSome? (·.read? cs) = some i ↔ ∃ f : DateForm, f.read? cs = some i := by
  constructor
  · intro h
    obtain ⟨f, -, hf⟩ := List.exists_of_findSome?_eq_some h
    exact ⟨f, hf⟩
  · rintro ⟨f, hf⟩
    have hsome : (forms.findSome? (·.read? cs)).isSome = true :=
      List.findSome?_isSome_iff.2 ⟨f, hforms f, by rw [hf, Option.isSome_some]⟩
    obtain ⟨j, hj⟩ := Option.isSome_iff_exists.1 hsome
    obtain ⟨g, -, hg⟩ := List.exists_of_findSome?_eq_some hj
    obtain rfl := DateForm.read?_unique hf hg
    rw [hj, ← hg, hf]

/-- The four forms are tried one after the other. -/
theorem Instant.read?_eq_findSome? (text : List Char) :
    read? text = [DateForm.full, .dayTime, .day, .monthFirst].findSome? (·.read? (Text.trim text)) := by
  have hor (f : DateForm) (forms : List DateForm) (cs : List Char) :
      (f :: forms).findSome? (·.read? cs) = (f.read? cs).or (forms.findSome? (·.read? cs)) := by
    rw [List.findSome?_cons]
    cases f.read? cs <;> rfl
  simp only [hor, List.findSome?_nil, Option.or_none]
  rfl

/-- **A text is a date if it is spelled in one of the forms and names an instant**, white space around
it aside. -/
theorem Instant.read?_eq_some_iff :
    read? text = some i ↔
      ∃ (f : DateForm) (p : WrittenDate), f.Spells (Text.trim text) p ∧ p.Names f i := by
  rw [read?_eq_findSome?, DateForm.findSome?_eq_some_iff (fun f => by cases f <;> decide)]
  simp only [DateForm.read?_eq_some_iff]

/-- Parts of a date that are midnight in UTC of the day counted `n`, at whatever offset. -/
structure WrittenDate.IsMidnight (p : WrittenDate) (n : Int) : Prop where
  exists_counted : ∃ m, p.day.Counted m ∧
    m * secondsPerDay + p.clock.seconds - p.offset = n * secondsPerDay
  isValid : p.clock.isValid = true
  nanos_eq : p.nanos = 0

/-- Midnight of a day is read as the same moment in whatever form it is spelled. -/
theorem DateForm.Spells.exists_read?_of_isMidnight {n : Int} (h : f.Spells (Text.trim text) p)
    (hp : p.IsMidnight n) :
    ∃ i, Instant.read? text = some i ∧ i.moment = n * secondsPerDay * 1000000000 ∧
      i.offset = p.offset := by
  obtain ⟨⟨m, hcounted, hmidnight⟩, hclock, hnanos⟩ := hp
  let i : Instant :=
    { seconds := m * secondsPerDay + p.clock.seconds - p.offset, nanos := 0, offset := p.offset }
  have hnames : p.Names f i := .time ⟨⟨m, hcounted, rfl⟩, hclock, hnanos.symm, rfl⟩
  refine ⟨i, Instant.read?_eq_some_iff.2 ⟨f, p, h, hnames⟩, ?_, rfl⟩
  simp only [i, Instant.moment, hmidnight, Nat.cast_zero, Int.add_zero]

/-- A day that does not exist is rejected in whatever form it is spelled. -/
theorem DateForm.Spells.read?_eq_none (h : f.Spells (Text.trim text) p)
    (hday : ∀ n, ¬ p.day.Counted n) : Instant.read? text = none := by
  refine Option.eq_none_iff_forall_not_mem.2 fun i hread => ?_
  obtain ⟨g, q, hq, hnames⟩ := Instant.read?_eq_some_iff.1 hread
  obtain ⟨rfl, rfl⟩ := h.unique hq
  cases hnames with
  | time hat | leapSecond _ hat _ =>
    obtain ⟨n, hcounted, -⟩ := hat.exists_counted
    exact hday n hcounted

/-- **Dates are read in exactly four forms, and which form is tried first does not matter.** A text is
read as an instant if and only if it is, white space around it aside, spelled in one of the forms and
names the instant. No text is read in two forms, so that trying them in another order, or some of them
again, gives the same. Midnight of a day gives the same moment however it is spelled, and a day that
does not exist, such as the 29th of February of a common year, is rejected in all forms. -/
theorem Instant.read?_iff_spelled :
    (∀ (text : List Char) (i : Instant),
      read? text = some i ↔
        ∃ (f : DateForm) (p : WrittenDate), f.Spells (Text.trim text) p ∧ p.Names f i) ∧
    (∀ (f g : DateForm) (cs : List Char) (i j : Instant),
      f.read? cs = some i → g.read? cs = some j → f = g) ∧
    (∀ forms : List DateForm, (∀ f, f ∈ forms) → ∀ text : List Char,
      forms.findSome? (·.read? (Text.trim text)) = read? text) ∧
    (∀ (text : List Char) (f : DateForm) (p : WrittenDate) (n : Int),
      f.Spells (Text.trim text) p → p.IsMidnight n →
        ∃ i, read? text = some i ∧ i.moment = n * secondsPerDay * 1000000000 ∧ i.offset = p.offset) ∧
    (∀ (text : List Char) (f : DateForm) (p : WrittenDate),
      f.Spells (Text.trim text) p → (∀ n, ¬ p.day.Counted n) → read? text = none) ∧
    ∀ y : Int, isLeapYear y = false → ∀ n, ¬ (Day.mk y 2 29).Counted n := by
  refine ⟨fun _ _ => read?_eq_some_iff, fun _ _ _ _ _ => DateForm.read?_unique, ?_,
    fun _ _ _ _ => DateForm.Spells.exists_read?_of_isMidnight,
    fun _ _ _ => DateForm.Spells.read?_eq_none, fun _ => Day.not_counted_of_common⟩
  intro forms hforms text
  refine Option.ext fun i => ?_
  rw [DateForm.findSome?_eq_some_iff hforms, read?_eq_some_iff]
  simp only [DateForm.read?_eq_some_iff]

/-- A day is found with the month tried first, midnight in UTC from an offset, and the 29th of February
of 1939 not at all. -/
theorem Instant.read?_iff_spelled_day :
    [DateForm.monthFirst, .day, .dayTime, .full].findSome? (·.read? (Text.trim " 10/27/1939".toList)) =
      read? " 10/27/1939".toList ∧
    (∃ i, read? "1939-10-27T02:00:00+02:00".toList = some i ∧
      i.moment = -11024 * secondsPerDay * 1000000000 ∧ i.offset = 7200) ∧
    read? "2/29/1939".toList = none := by
  obtain ⟨-, -, horder, hmidnight, hnone, hleap⟩ := Instant.read?_iff_spelled
  have hyear : PlainYear 1939 ['1', '9', '3', '9'] := ⟨1939, rfl, by decide⟩
  refine ⟨horder _ (fun f => by cases f <;> decide) _, ?_, ?_⟩
  · have hday : YearFirst PlainYear ⟨1939, 10, 27⟩ _ :=
      .mk (v := ['1', '0']) (w := ['2', '7']) hyear (by decide) (by decide)
    have hclock : ClockText ⟨2, 0, 0⟩ _ :=
      .mk (u := ['0', '2']) (v := ['0', '0']) (w := ['0', '0']) (by decide) (by decide) (by decide)
    have hoffset : OffsetText (3600 * (2 : Nat) + 60 * (0 : Nat)) _ :=
      .ahead (u := ['0', '2']) (v := ['0', '0']) (by decide) (by decide) (by decide) (by decide)
    have htext := DateForm.Spells.full (c := 'T') hday (by decide) hclock .none hoffset
    exact hmidnight "1939-10-27T02:00:00+02:00".toList _ _ _ htext
      ⟨⟨-11024, Day.counted_iff.2 (by decide), by decide⟩, rfl, rfl⟩
  · have hmonth : OneOrTwo 2 ['2'] := .inl (by decide)
    have hday : OneOrTwo 29 ['2', '9'] := .inr (by decide)
    have htext := DateForm.Spells.monthFirst hmonth hday (.plain hyear)
    exact hnone "2/29/1939".toList _ _ htext (hleap 1939 rfl)

end RecordQuery
