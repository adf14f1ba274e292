import Mathlib.Data.List.TakeWhile
import RecordQuery.Calendar.Reading
import RecordQuery.Proofs.Number.Whole

set_option autoImplicit false

/-!
# Parts of written dates

What the parts of a written date look like, told without reading: digits of a fixed number, years with
and without a sign, days, times of day, fractions of a second and offsets. The readers of parts take
exactly such texts off the start of a text.

## Main definitions

* `RecordQuery.Digits` — some digits that stand for a number.
* `RecordQuery.PlainYear`, `RecordQuery.SignedYear`, `RecordQuery.YearFirst` — years, and days that
  start with one.
* `RecordQuery.ClockText`, `RecordQuery.FractionText`, `RecordQuery.OffsetText` — times of day, parts of
  a second, and offsets.

## Main results

* `RecordQuery.readYearMonthDay?_eq_some_iff`, `RecordQuery.Clock.read?_eq_some_iff`,
  `RecordQuery.readOffset?_eq_some_iff` — what the readers of parts take.
* `RecordQuery.readFraction?_append`, `RecordQuery.exists_of_readFraction?` — a fraction is taken with
  all its digits.
-/

namespace RecordQuery

/-! ## Digits -/

/-- Digits, `n` of them, that stand for `k`. -/
structure Digits (n k : Nat) (w : List Char) : Prop where
  length_eq : w.length = n
  digits : ∀ c ∈ w, isDigit c = true
  value : digitsValue w = k

instance (n k : Nat) (w : List Char) : Decidable (Digits n k w) :=
  decidable_of_iff (w.length = n ∧ w.all isDigit = true ∧ digitsValue w = k)
    ⟨fun h => ⟨h.1, List.all_eq_true.1 h.2.1, h.2.2⟩,
      fun h => ⟨h.length_eq, List.all_eq_true.2 h.digits, h.value⟩⟩

/-- One or two digits that stand for `k`. -/
def OneOrTwo (k : Nat) (w : List Char) : Prop := Digits 1 k w ∨ Digits 2 k w

/-- A fixed number of digits is read off the start of a text. -/
theorem readDigits?_eq_some_iff {n k : Nat} {cs rest : List Char} :
    readDigits? n cs = some (k, rest) ↔ ∃ w, Digits n k w ∧ cs = w ++ rest := by
  unfold readDigits?
  dsimp only
  constructor
  · intro h
    split at h
    · rename_i hdigits
      simp only [Option.some.injEq, Prod.mk.injEq] at h
      obtain ⟨rfl, rfl⟩ := h
      exact ⟨cs.take n, ⟨hdigits.1, List.all_eq_true.1 hdigits.2, rfl⟩,
        (List.take_append_drop n cs).symm⟩
    · cases h
  · rintro ⟨w, ⟨rfl, hdigits, rfl⟩, rfl⟩
    rw [List.take_left, List.drop_left, if_pos ⟨rfl, List.all_eq_true.2 hdigits⟩]

theorem Digits.readDigits?_append {n k : Nat} {w : List Char} (h : Digits n k w) (rest : List Char) :
    readDigits? n (w ++ rest) = some (k, rest) :=
  readDigits?_eq_some_iff.2 ⟨w, h, rfl⟩

/-- A run of digits that is not empty starts with one. -/
theorem Digits.exists_cons {n k : Nat} {w : List Char} (h : Digits (n + 1) k w) :
    ∃ c cs, w = c :: cs ∧ isDigit c = true := by
  cases w with
  | nil => exact absurd h.length_eq (by simp)
  | cons c cs => exact ⟨c, cs, rfl, h.digits c List.mem_cons_self⟩

/-- A character is read off the start of a text. -/
theorem readChar?_eq_some_iff {c : Char} {cs rest : List Char} :
    readChar? c cs = some rest ↔ cs = c :: rest := by
  cases cs with
  | nil => simp [readChar?]
  | cons d cs =>
    by_cases hc : c = d
    · simp [readChar?, hc]
    · simp [readChar?, hc, Ne.symm hc]

/-- One or two digits are read in front of a character that is none. -/
theorem readOneOrTwo?_append {k : Nat} {w : List Char} (h : OneOrTwo k w) {c : Char}
    (hc : isDigit c = false) (rest : List Char) :
    readOneOrTwo? (w ++ c :: rest) = some (k, c :: rest) := by
  unfold readOneOrTwo?
  rcases h with h | h
  · have htwo : readDigits? 2 (w ++ c :: rest) = none := by
      obtain ⟨d, rfl⟩ := List.length_eq_one_iff.1 h.length_eq
      simp [readDigits?, hc]
    rw [htwo, Option.none_or, h.readDigits?_append]
  · rw [h.readDigits?_append, Option.some_or]

/-- What is read are one or two digits. -/
theorem exists_of_readOneOrTwo? {k : Nat} {cs rest : List Char}
    (h : readOneOrTwo? cs = some (k, rest)) : ∃ w, OneOrTwo k w ∧ cs = w ++ rest := by
  rw [readOneOrTwo?, Option.or_eq_some_iff] at h
  rcases h with h | ⟨-, h⟩
  · obtain ⟨w, hw, hcs⟩ := readDigits?_eq_some_iff.1 h
    exact ⟨w, .inr hw, hcs⟩
  · obtain ⟨w, hw, hcs⟩ := readDigits?_eq_some_iff.1 h
    exact ⟨w, .inl hw, hcs⟩

/-! ## Years and days -/

/-- A year of four digits. -/
def PlainYear (y : Int) (w : List Char) : Prop := ∃ k : Nat, y = k ∧ Digits 4 k w

/-- A year of four digits with an optional sign. -/
inductive SignedYear : Int → List Char → Prop
  | plain {y : Int} {w : List Char} : PlainYear y w → SignedYear y w
  | plus {y : Int} {w : List Char} : PlainYear y w → SignedYear y ('+' :: w)
  | minus {y : Int} {w : List Char} : PlainYear y w → SignedYear (-y) ('-' :: w)

/-- A day that starts with its year, dashes between the parts. -/
inductive YearFirst (Year : Int → List Char → Prop) : Day → List Char → Prop
  | mk {y : Int} {m d : Nat} {u v w : List Char} : Year y u → Digits 2 m v → Digits 2 d w →
    YearFirst Year ⟨y, m, d⟩ (u ++ '-' :: (v ++ '-' :: w))

/-- A year with an optional sign is read off the start of a text. -/
theorem readYear?_eq_some_iff {y : Int} {cs rest : List Char} :
    readYear? cs = some (y, rest) ↔ ∃ w, SignedYear y w ∧ cs = w ++ rest := by
  simp only [readYear?, bind, Option.bind_eq_some_iff, Prod.exists, readDigits?_eq_some_iff, pure,
    Option.some.injEq, Prod.mk.injEq]
  constructor
  · rintro ⟨k, behind, ⟨w, hw, hcs⟩, rfl, rfl⟩
    unfold splitSign at hcs ⊢
    split at hcs
    · exact ⟨_, .minus ⟨k, rfl, hw⟩, congrArg ('-' :: ·) hcs⟩
    · exact ⟨_, .plus ⟨k, rfl, hw⟩, congrArg ('+' :: ·) hcs⟩
    · exact ⟨_, .plain ⟨k, rfl, hw⟩, hcs⟩
  · rintro ⟨w, hw, rfl⟩
    cases hw with
    | @plain y w hyear =>
      obtain ⟨k, rfl, hw⟩ := hyear
      obtain ⟨c, cs, rfl, hc⟩ := hw.exists_cons
      rw [List.cons_append, splitSign_of_isDigit hc]
      exact ⟨k, rest, ⟨_, hw, rfl⟩, rfl, rfl⟩
    | plus hyear =>
      obtain ⟨k, rfl, hw⟩ := hyear
      exact ⟨k, rest, ⟨_, hw, rfl⟩, rfl, rfl⟩
    | minus hyear =>
      obtain ⟨k, rfl, hw⟩ := hyear
      exact ⟨k, rest, ⟨_, hw, rfl⟩, rfl, rfl⟩

/-- A day that starts with its year is read off the start of a text. -/
theorem readYearMonthDay?_eq_some_iff {day : Day} {cs rest : List Char} :
    readYearMonthDay? cs = some (day, rest) ↔ ∃ w, YearFirst SignedYear day w ∧ cs = w ++ rest := by
  simp only [readYearMonthDay?, bind, Option.bind_eq_some_iff, Prod.exists, readYear?_eq_some_iff,
    readChar?_eq_some_iff, readDigits?_eq_some_iff, pure, Option.some.injEq, Prod.mk.injEq]
  constructor
  · rintro ⟨y, _, ⟨u, hu, rfl⟩, _, rfl, m, _, ⟨v, hv, rfl⟩, _, rfl, d, _, ⟨w, hw, rfl⟩, rfl, rfl⟩
    exact ⟨_, .mk hu hv hw, by simp⟩
  · rintro ⟨_, ⟨hu, hv, hw⟩, rfl⟩
    exact ⟨_, _, ⟨_, hu, List.append_assoc ..⟩, _, rfl, _, _, ⟨_, hv, List.append_assoc ..⟩, _, rfl,
      _, _, ⟨_, hw, rfl⟩, rfl, rfl⟩

/-! ## Times of day -/

/-- An hour, a minute and a second of two digits each, colons between them. -/
inductive ClockText : Clock → List Char → Prop
  | mk {h m s : Nat} {u v w : List Char} : Digits 2 h u → Digits 2 m v → Digits 2 s w →
    ClockText ⟨h, m, s⟩ (u ++ ':' :: (v ++ ':' :: w))

/-- A time of day is read off the start of a text. -/
theorem Clock.read?_eq_some_iff {t : Clock} {cs rest : List Char} :
    Clock.read? cs = some (t, rest) ↔ ∃ w, ClockText t w ∧ cs = w ++ rest := by
  simp only [Clock.read?, bind, Option.bind_eq_some_iff, Prod.exists, readChar?_eq_some_iff,
    readDigits?_eq_some_iff, pure, Option.some.injEq, Prod.mk.injEq]
  constructor
  · rintro ⟨h, _, ⟨u, hu, rfl⟩, _, rfl, m, _, ⟨v, hv, rfl⟩, _, rfl, s, _, ⟨w, hw, rfl⟩, rfl, rfl⟩
    exact ⟨_, .mk hu hv hw, by simp⟩
  · rintro ⟨_, ⟨hu, hv, hw⟩, rfl⟩
    exact ⟨_, _, ⟨_, hu, List.append_assoc ..⟩, _, rfl, _, _, ⟨_, hv, List.append_assoc ..⟩, _, rfl,
      _, _, ⟨_, hw, rfl⟩, rfl, rfl⟩

/-! ## Fractions of a second -/

/-- A fraction of a second in nanoseconds, rounded down: nothing, or a point and digits. -/
inductive FractionText : Nat → List Char → Prop
  | none : FractionText 0 []
  | digits {w : List Char} : w ≠ [] → (∀ c ∈ w, isDigit c = true) →
    FractionText (digitsValue w * 10 ^ 9 / 10 ^ w.length) ('.' :: w)

/-- The first digits of a run, with zeros behind them if there are too few, are those of its value as a
fraction. -/
theorem digitsValue_take_zeros {w : List Char} (hw : ∀ c ∈ w, isDigit c = true) (n : Nat) :
    digitsValue ((w ++ List.replicate n '0').take n) = digitsValue w * 10 ^ n / 10 ^ w.length := by
  by_cases hn : n ≤ w.length
  · have hsplit := digitsValue_append (w.take n) (w.drop n)
    have hrest : digitsValue (w.drop n) < 10 ^ (w.drop n).length :=
      digitsValue_lt fun c hc => hw c (List.mem_of_mem_drop hc)
    have hlength : w.length = (w.drop n).length + n := by
      rw [List.length_drop]
      omega
    rw [List.take_append_drop] at hsplit
    rw [List.take_append_of_le_length hn, hlength, Nat.pow_add,
      Nat.mul_div_mul_right _ _ (Nat.pow_pos (by decide)), hsplit,
      Nat.mul_add_div (Nat.pow_pos (by decide)), Nat.div_eq_of_lt hrest, Nat.add_zero]
  · obtain ⟨j, rfl⟩ : ∃ j, n = w.length + j := ⟨n - w.length, by omega⟩
    have htake : (List.replicate (w.length + j) '0').take j = List.replicate j '0' := by
      rw [List.take_replicate, Nat.min_eq_left (by omega)]
    rw [List.take_length_add_append, htake, digitsValue_append, digitsValue_replicate_zero,
      List.length_replicate, Nat.add_zero, Nat.pow_add, ← Nat.mul_assoc, Nat.mul_right_comm,
      Nat.mul_div_cancel _ (Nat.pow_pos (by decide)), Nat.mul_comm]

/-- What is read is a fraction. -/
theorem exists_of_readFraction? {n : Nat} {cs rest : List Char}
    (h : readFraction? cs = some (n, rest)) : ∃ w, FractionText n w ∧ cs = w ++ rest := by
  unfold readFraction? at h
  split at h
  · rename_i behind
    dsimp only at h
    split at h
    · cases h
    · rename_i hne
      have hdigits : ∀ c ∈ behind.takeWhile isDigit, isDigit c = true := fun c hc =>
        List.mem_takeWhile_imp hc
      simp only [Option.some.injEq, Prod.mk.injEq] at h
      obtain ⟨rfl, rfl⟩ := h
      rw [digitsValue_take_zeros hdigits]
      refine ⟨_, .digits (by simpa using hne) hdigits, ?_⟩
      rw [List.cons_append, List.takeWhile_append_dropWhile]
  · simp only [Option.some.injEq, Prod.mk.injEq] at h
    obtain ⟨rfl, rfl⟩ := h
    exact ⟨[], .none, rfl⟩

/-- A fraction is read in front of a character that does not continue it. -/
theorem readFraction?_append {n : Nat} {w rest : List Char} (h : FractionText n w)
    (hrest : ∀ c ∈ rest.head?, isDigit c = false ∧ c ≠ '.') :
    readFraction? (w ++ rest) = some (n, rest) := by
  cases h with
  | none =>
    rw [List.nil_append]
    unfold readFraction?
    split
    · exact absurd rfl (hrest '.' rfl).2
    · rfl
  | @digits w hne hdigits =>
    have htake : (w ++ rest).takeWhile isDigit = w := by
      rw [List.takeWhile_append_of_pos hdigits]
      cases rest with
      | nil => simp
      | cons c rest => simp [(hrest c rfl).1]
    have hdrop : (w ++ rest).dropWhile isDigit = rest := by
      rw [List.dropWhile_append_of_pos hdigits]
      cases rest with
      | nil => rfl
      | cons c rest => simp [(hrest c rfl).1]
    rw [List.cons_append, readFraction?]
    dsimp only
    rw [htake, hdrop, if_neg (by simpa using hne), digitsValue_take_zeros hdigits]

/-- A fraction is less than a second. -/
theorem FractionText.lt {n : Nat} {w : List Char} (h : FractionText n w) : n < 1000000000 := by
  cases h with
  | none => decide
  | digits _ hdigits =>
    rw [Nat.div_lt_iff_lt_mul (Nat.pow_pos (by decide)), Nat.mul_comm]
    exact Nat.mul_lt_mul_of_pos_left (digitsValue_lt hdigits) (by decide)

/-! ## Offsets -/

/-- An offset in seconds: `Z` of either case, or a sign, an hour and a minute. -/
inductive OffsetText : Int → List Char → Prop
  | utc {c : Char} : c = 'Z' ∨ c = 'z' → OffsetText 0 [c]
  | ahead {h m : Nat} {u v : List Char} : Digits 2 h u → Digits 2 m v → h < 24 → m < 60 →
    OffsetText (3600 * h + 60 * m) ('+' :: (u ++ ':' :: v))
  | behind {h m : Nat} {u v : List Char} : Digits 2 h u → Digits 2 m v → h < 24 → m < 60 →
    OffsetText (-(3600 * h + 60 * m)) ('-' :: (u ++ ':' :: v))

/-- An offset is read off the start of a text. -/
theorem readOffset?_eq_some_iff {offset : Int} {cs rest : List Char} :
    readOffset? cs = some (offset, rest) ↔ ∃ w, OffsetText offset w ∧ cs = w ++ rest := by
  constructor
  · intro h
    unfold readOffset? at h
    split at h
    · cases h
    split at h
    · rename_i hz
      simp only [Option.some.injEq, Prod.mk.injEq] at h
      obtain ⟨rfl, rfl⟩ := h
      exact ⟨_, .utc hz, rfl⟩
    split at h
    · rename_i hsign
      simp only [bind, Option.bind_eq_some_iff, Prod.exists, readDigits?_eq_some_iff,
        readChar?_eq_some_iff] at h
      obtain ⟨hour, _, ⟨u, hu, rfl⟩, _, rfl, minute, _, ⟨v, hv, rfl⟩, h⟩ := h
      split at h
      · rename_i hrange
        simp only [pure, Option.some.injEq, Prod.mk.injEq] at h
        obtain ⟨rfl, rfl⟩ := h
        rcases hsign with rfl | rfl
        · exact ⟨_, .ahead hu hv hrange.1 hrange.2, by simp⟩
        · exact ⟨_, .behind hu hv hrange.1 hrange.2, by simp⟩
      · cases h
    · cases h
  · rintro ⟨_, hw, rfl⟩
    cases hw with
    | utc hz => simp [readOffset?, hz]
    | ahead hu hv hh hm =>
      simp [readOffset?, hu.readDigits?_append, hv.readDigits?_append, readChar?, hh, hm]
    | behind hu hv hh hm =>
      simp [readOffset?, hu.readDigits?_append, hv.readDigits?_append, readChar?, hh, hm]

/-- An offset starts with a character that does not continue a fraction. -/
theorem OffsetText.head?_ne {offset : Int} {w : List Char} (h : OffsetText offset w) :
    ∀ c ∈ w.head?, isDigit c = false ∧ c ≠ '.' := by
  cases h with
  | utc hz => rcases hz with rfl | rfl <;> simp <;> decide
  | ahead | behind => simp; decide

end RecordQuery
