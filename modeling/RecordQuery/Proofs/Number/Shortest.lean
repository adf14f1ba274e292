import Mathlib.Data.List.Basic
import RecordQuery.Number.Text
import RecordQuery.Proofs.Number.Rounding

set_option autoImplicit false

/-!
# Shortest decimals

The decimal that a magnitude is written as is rounded back to the magnitude, wherever ties go.
Seventeen digits are always enough: a step of the grid that they stand on is smaller than the steps
between magnitudes there. A whole number is written without a point, and as itself up to `2 ^ 53`.

## Main definitions

* `RecordQuery.Decimal.value` — the value of a decimal.

## Main results

* `RecordQuery.Magnitude.roundsTo_shortest` — the shortest decimal reads back.
* `RecordQuery.Number.exists_text_ofNat` — the text of a whole number is that of a whole number which
  is rounded in the same way.
-/

namespace RecordQuery

/-- The value of a decimal. -/
def Decimal.value (d : Decimal) : ℚ := d.digits * 10 ^ d.exponent

/-! ## Ties -/

/-- A fraction is rounded to a whole number that is at most a half away, also if a half goes up. -/
theorem roundHalfUp_spec (num : Nat) {den : Nat} (hden : 0 < den) :
    2 * num ≤ (2 * roundHalfUp num den + 1) * den ∧
      2 * roundHalfUp num den * den ≤ 2 * num + den := by
  have hdiv := Nat.div_add_mod (2 * num + den) (2 * den)
  have hmod := Nat.mod_lt (2 * num + den) (Nat.mul_pos Nat.two_pos hden)
  unfold roundHalfUp
  generalize (2 * num + den) / (2 * den) = q at *
  generalize (2 * num + den) % (2 * den) = r at *
  constructor <;> linarith

theorem roundHalfUp_mul (q : Nat) {den : Nat} (hden : 0 < den) :
    roundHalfUp (q * den) den = q := by
  have hsum : 2 * (q * den) + den = den + 2 * den * q := by ring
  rw [roundHalfUp, hsum, Nat.add_mul_div_left _ _ (Nat.mul_pos Nat.two_pos hden),
    Nat.div_eq_of_lt (by omega), Nat.zero_add]

namespace Tie

/-- **Wherever ties go, a fraction is rounded to a whole number that is at most a half away.** -/
theorem round_spec (tie : Tie) (num : Nat) {den : Nat} (hden : 0 < den) :
    2 * num ≤ (2 * tie.round num den + 1) * den ∧
      2 * tie.round num den * den ≤ 2 * num + den := by
  cases tie with
  | up => exact roundHalfUp_spec num hden
  | even =>
    obtain ⟨hhigh, hlow, -⟩ := roundHalfEven_spec num hden
    exact ⟨hhigh, hlow⟩

/-- A fraction that is a whole number is not changed. -/
theorem round_mul (tie : Tie) (q : Nat) {den : Nat} (hden : 0 < den) :
    tie.round (q * den) den = q := by
  cases tie with
  | up => exact roundHalfUp_mul q hden
  | even => exact roundHalfEven_mul q hden

end Tie

namespace Magnitude

/-! ## Powers of ten -/

/-- Ten to a power is the fraction that it is held as. -/
theorem tenTo_spec (e : Int) :
    0 < (tenTo e).2 ∧ ((tenTo e).1 : ℚ) = 10 ^ e * (tenTo e).2 := by
  unfold tenTo
  split
  · rename_i he
    obtain ⟨n, rfl⟩ := Int.eq_ofNat_of_zero_le he
    simp
  · rename_i he
    obtain ⟨n, hn⟩ : ∃ n : Nat, e = -n := ⟨(-e).toNat, by omega⟩
    subst hn
    have hpow : (10 : ℚ) ^ n ≠ 0 := by positivity
    simp [hpow]

/-- **A decimal reads back** if its value is rounded to the place of the magnitude. -/
theorem readsBack_iff (m : Magnitude) (digits : Nat) (e : Int) :
    m.readsBack digits e = true ↔ RoundsTo (digits * 10 ^ e * unitsPerOne) m.rank := by
  obtain ⟨hden, hnum⟩ := tenTo_spec e
  have hden' : (0 : ℚ) < (tenTo e).2 := by exact_mod_cast hden
  have hx : ((2 * digits * (tenTo e).1 * unitsPerOne : Nat) : ℚ) =
      2 * (digits * 10 ^ e * unitsPerOne) * (tenTo e).2 := by
    push_cast
    rw [hnum]
    ring
  -- the sides of every comparison are held times the denominator
  have hle (a : Nat) : a * (tenTo e).2 ≤ 2 * digits * (tenTo e).1 * unitsPerOne ↔
      (a : ℚ) ≤ 2 * (digits * 10 ^ e * unitsPerOne) := by
    rw [← Nat.cast_le (α := ℚ), hx, Nat.cast_mul, mul_le_mul_iff_left₀ hden']
  have hge (a : Nat) : 2 * digits * (tenTo e).1 * unitsPerOne ≤ a * (tenTo e).2 ↔
      2 * (digits * 10 ^ e * unitsPerOne) ≤ (a : ℚ) := by
    rw [← Nat.cast_le (α := ℚ), hx, Nat.cast_mul, mul_le_mul_iff_left₀ hden']
  have hlow := hle (scaledRank (m.rank - 1) + scaledRank m.rank)
  have hhigh := hge (scaledRank m.rank + scaledRank (m.rank + 1))
  have hlow' := not_congr (hge (scaledRank (m.rank - 1) + scaledRank m.rank))
  have hhigh' := not_congr (hle (scaledRank m.rank + scaledRank (m.rank + 1)))
  rw [not_le, not_le, Nat.cast_add] at hlow' hhigh'
  rw [Nat.cast_add] at hlow hhigh
  unfold readsBack scaled
  dsimp only
  by_cases heven : m.rank % 2 = 0
  · rw [if_pos heven, Bool.and_eq_true, decide_eq_true_iff, decide_eq_true_iff, hlow, hhigh]
    constructor
    · rintro ⟨h, h'⟩
      exact ⟨h, h', fun hodd => by omega, fun hodd => by omega⟩
    · exact fun h => ⟨h.low_le, h.le_high⟩
  · rw [if_neg heven, Bool.and_eq_true, decide_eq_true_iff, decide_eq_true_iff, hlow', hhigh']
    constructor
    · rintro ⟨h, h'⟩
      exact ⟨h.le, h'.le, fun _ => h, fun _ => h'⟩
    · exact fun h => ⟨h.low_lt (by omega), h.lt_high (by omega)⟩

/-! ## The grid of a power of ten -/

variable {m : Magnitude} {tie : Tie} {e : Int}

/-- The point of the grid that is nearer to a magnitude, or that a tie goes to. -/
def nearer (m : Magnitude) (tie : Tie) (e : Int) : Nat :=
  tie.round (m.scaled * (tenTo e).2) ((tenTo e).1 * unitsPerOne)

/-- The nearer point is tried first, and another one after it. -/
theorem exists_onGrid?_eq (m : Magnitude) (tie : Tie) (e : Int) : ∃ farther, m.onGrid? tie e =
    if m.readsBack (m.nearer tie e) e then some ⟨m.nearer tie e, e⟩
    else if m.readsBack farther e then some ⟨farther, e⟩
    else none :=
  ⟨_, rfl⟩

/-- What is found on the grid reads back. -/
theorem roundsTo_of_onGrid? {d : Decimal} (h : m.onGrid? tie e = some d) :
    d.exponent = e ∧ RoundsTo (d.value * unitsPerOne) m.rank := by
  obtain ⟨farther, heq⟩ := exists_onGrid?_eq m tie e
  rw [heq] at h
  split at h
  · rename_i hback
    cases h
    exact ⟨rfl, (readsBack_iff _ _ _).1 hback⟩
  split at h
  · rename_i hback
    cases h
    exact ⟨rfl, (readsBack_iff _ _ _).1 hback⟩
  · cases h

/-- The nearer point is found if it reads back. -/
theorem onGrid?_of_nearer (h : m.readsBack (m.nearer tie e) e = true) :
    m.onGrid? tie e = some ⟨m.nearer tie e, e⟩ :=
  if_pos h

/-- The nearer point is at most half a step of the grid away. -/
theorem nearer_spec (m : Magnitude) (tie : Tie) (e : Int) :
    (2 * m.scaled : ℚ) ≤ 2 * (m.nearer tie e * 10 ^ e * unitsPerOne) + 10 ^ e * unitsPerOne ∧
      2 * (m.nearer tie e * 10 ^ e * unitsPerOne) ≤ (2 * m.scaled + 10 ^ e * unitsPerOne : ℚ) := by
  obtain ⟨hden, hnum⟩ := tenTo_spec e
  have hden' : (0 : ℚ) < (tenTo e).2 := by exact_mod_cast hden
  have hnum' : 0 < (tenTo e).1 := by
    have hpos : (0 : ℚ) < (tenTo e).1 := by
      rw [hnum]
      exact mul_pos (zpow_pos (by norm_num) e) hden'
    exact_mod_cast hpos
  obtain ⟨hhigh, hlow⟩ := tie.round_spec (m.scaled * (tenTo e).2)
    (Nat.mul_pos hnum' unitsPerOne_pos)
  have hhigh' : (2 * (m.scaled * (tenTo e).2) : ℚ) ≤
      (2 * m.nearer tie e + 1) * ((tenTo e).1 * unitsPerOne) := by
    exact_mod_cast hhigh
  have hlow' : (2 * m.nearer tie e * ((tenTo e).1 * unitsPerOne) : ℚ) ≤
      2 * (m.scaled * (tenTo e).2) + (tenTo e).1 * unitsPerOne := by
    exact_mod_cast hlow
  rw [hnum] at hhigh' hlow'
  constructor
  · refine le_of_mul_le_mul_right ?_ hden'
    linarith
  · refine le_of_mul_le_mul_right ?_ hden'
    linarith

/-- **A point is found on a grid that is fine enough**: if its step is no more than the sixteenth
decimal place of the magnitude, it is smaller than the steps between magnitudes there. -/
theorem exists_onGrid? (tie : Tie) (hm : m.rank ≠ 0)
    (he : (10 ^ 16 * (10 ^ e * unitsPerOne) : ℚ) ≤ m.scaled) :
    ∃ d, m.onGrid? tie e = some d := by
  obtain ⟨hhigh, hlow⟩ := nearer_spec m tie e
  have hunits : (0 : ℚ) < unitsPerOne := by exact_mod_cast unitsPerOne_pos
  have hpos : (0 : ℚ) < 10 ^ e * unitsPerOne := mul_pos (zpow_pos (by norm_num) e) hunits
  have hbelow : (scaledRank m.rank + 2 ^ 53 * scaledRank (m.rank - 1) : ℚ) ≤
      2 ^ 53 * scaledRank m.rank := by
    have h := scaledRank_succ_le (m.rank - 1)
    rw [Nat.sub_add_cancel (Nat.pos_of_ne_zero hm)] at h
    exact_mod_cast h
  have habove : (scaledRank (m.rank + 1) + 2 ^ 53 * scaledRank m.rank : ℚ) ≤
      2 ^ 53 * scaledRank (m.rank + 1) := by
    exact_mod_cast scaledRank_succ_le m.rank
  have hnext : (scaledRank m.rank : ℚ) < scaledRank (m.rank + 1) := by
    exact_mod_cast scaledRank_strictMono (Nat.lt_succ_self m.rank)
  rw [scaled] at hhigh hlow he
  refine ⟨_, onGrid?_of_nearer ((readsBack_iff _ _ _).2 ⟨?_, ?_, fun _ => ?_, fun _ => ?_⟩)⟩ <;>
    linarith

/-! ## The first digit -/

/-- Splitting digits off a number, with the power of ten that they make. -/
theorem digitCount_cons (step : Nat) (steps : List Nat) (n : Nat) :
    digitCount (step :: steps) n =
      if 10 ^ step ≤ n then step + digitCount steps (n / 10 ^ step) else digitCount steps n := rfl

/-- A number has at least as many digits as are counted. -/
theorem pow_digitCount_le (steps : List Nat) {n : Nat} (hn : 0 < n) :
    0 < digitCount steps n ∧ 10 ^ (digitCount steps n - 1) ≤ n := by
  induction steps generalizing n with
  | nil => exact ⟨Nat.one_pos, hn⟩
  | cons step steps ih =>
    rw [digitCount_cons]
    split
    · rename_i hstep
      obtain ⟨hpos, hle⟩ := ih (Nat.div_pos hstep (Nat.pow_pos (by decide)))
      refine ⟨by omega, ?_⟩
      rw [Nat.add_sub_assoc hpos, Nat.pow_add, Nat.mul_comm]
      exact (Nat.le_div_iff_mul_le (Nat.pow_pos (by decide))).1 hle
    · exact ih hn

/-- A number has no more digits than are counted, if the steps are powers of two and the last of them
bounds the number of digits. -/
theorem lt_pow_digitCount (k : Nat) {n : Nat} (hn : n < 10 ^ 2 ^ k) :
    n < 10 ^ digitCount ((List.range k).reverse.map (2 ^ ·)) n := by
  induction k generalizing n with
  | zero => exact hn
  | succ k ih =>
    rw [List.range_succ, List.reverse_concat, List.map_cons, digitCount_cons]
    split
    · have hrest : n / 10 ^ 2 ^ k < 10 ^ 2 ^ k := by
        refine Nat.div_lt_of_lt_mul ?_
        rwa [← Nat.pow_add, ← Nat.two_mul, ← Nat.pow_succ']
      rw [Nat.pow_add, Nat.mul_comm]
      exact (Nat.div_lt_iff_lt_mul (Nat.pow_pos (by decide))).1 (ih hrest)
    · rename_i hstep
      exact ih (Nat.lt_of_not_le hstep)

/-- The power of ten that a magnitude is multiplied with before its digits are counted. -/
def digitShift : Nat := 400

/-- The digits that are counted. -/
def shifted (m : Magnitude) : Nat := m.scaled * Nat.pow 10 400 / unitsPerOne

theorem shifted_eq (m : Magnitude) : m.shifted = m.scaled * 10 ^ digitShift / unitsPerOne := by
  have hshift : digitShift = 400 := rfl
  rw [shifted, ← hshift, Nat.pow_eq]

theorem leadingExponent_eq (m : Magnitude) :
    m.leadingExponent = digitCount digitSteps m.shifted - (digitShift + 1 : Nat) := by
  have hshift : ((digitShift + 1 : Nat) : Int) = 401 := rfl
  rw [leadingExponent, shifted, hshift]

/-- No positive magnitude is so small that no digit is counted. -/
theorem shifted_pos (hm : 0 < m.scaled) : 0 < m.shifted := by
  have hunits : unitsPerOne ≤ 10 ^ digitShift := by
    calc unitsPerOne = 2 ^ unitExponent := unitsPerOne_eq
      _ ≤ 2 ^ (3 * digitShift) := Nat.pow_le_pow_right (by decide) (by decide)
      _ = 8 ^ digitShift := by rw [Nat.pow_mul]
      _ ≤ 10 ^ digitShift := Nat.pow_le_pow_left (by decide) _
  rw [shifted_eq]
  exact Nat.div_pos (hunits.trans (Nat.le_mul_of_pos_left _ hm)) unitsPerOne_pos

/-- The first digit of a positive magnitude stands for no more than the magnitude. -/
theorem pow_leadingExponent_le (hm : 0 < m.scaled) :
    (10 ^ m.leadingExponent * unitsPerOne : ℚ) ≤ m.scaled := by
  obtain ⟨hpos, hle⟩ := pow_digitCount_le digitSteps (shifted_pos hm)
  rw [leadingExponent_eq]
  generalize digitCount digitSteps m.shifted = count at hpos hle
  rw [shifted_eq] at hle
  have hunits := (Nat.le_div_iff_mul_le unitsPerOne_pos).1 hle
  have hunits' : (10 ^ (count - 1) * unitsPerOne : ℚ) ≤ m.scaled * 10 ^ digitShift := by
    exact_mod_cast hunits
  have hexponent : (10 : ℚ) ^ (count - 1) =
      10 ^ ((count : Int) - (digitShift + 1 : Nat)) * 10 ^ digitShift := by
    rw [← zpow_natCast, ← zpow_natCast, ← zpow_add₀ (by norm_num)]
    congr 1
    omega
  rw [hexponent] at hunits'
  refine le_of_mul_le_mul_right ?_ (show (0 : ℚ) < 10 ^ digitShift by positivity)
  linarith

/-- The first digit of a whole number has no negative exponent. -/
theorem leadingExponent_nonneg {v : Nat} (hv : m.scaled = v * unitsPerOne) (hpos : 0 < v)
    (hbound : v < 10 ^ 100) : 0 ≤ m.leadingExponent := by
  have hdigits : m.shifted = v * 10 ^ digitShift := by
    rw [shifted_eq, hv, Nat.mul_right_comm, Nat.mul_div_cancel _ unitsPerOne_pos]
  have hmany : 10 ^ digitShift ≤ m.shifted := by
    rw [hdigits]
    exact Nat.le_mul_of_pos_left _ hpos
  have hfew : m.shifted < 10 ^ 2 ^ 10 := by
    calc m.shifted < 10 ^ 100 * 10 ^ digitShift := by
          rw [hdigits]
          exact Nat.mul_lt_mul_of_pos_right hbound (Nat.pow_pos (by decide))
      _ = 10 ^ (100 + digitShift) := by rw [Nat.pow_add]
      _ ≤ 10 ^ 2 ^ 10 := Nat.pow_le_pow_right (by decide) (by decide)
  have hcount := lt_pow_digitCount 10 hfew
  have hsteps : (List.range 10).reverse.map (2 ^ ·) = digitSteps := by decide
  rw [hsteps] at hcount
  have hless : digitShift < digitCount digitSteps m.shifted :=
    (Nat.pow_lt_pow_iff_right (by decide)).1 (hmany.trans_lt hcount)
  rw [leadingExponent_eq]
  omega

/-! ## The shortest decimal -/

/-- The first of some numbers for which there is an answer. -/
theorem exists_of_findSome?_range {α : Type} {f : Nat → Option α} {n : Nat} {a : α}
    (h : (List.range n).findSome? f = some a) : ∃ i, f i = some a ∧ ∀ j < i, f j = none := by
  induction n with
  | zero => cases h
  | succ n ih =>
    rw [List.range_succ, List.findSome?_append] at h
    cases hfound : (List.range n).findSome? f with
    | some b =>
      rw [hfound, Option.some_or] at h
      cases h
      exact ih hfound
    | none =>
      rw [hfound, Option.none_or, List.findSome?_singleton] at h
      exact ⟨n, h, fun j hj => List.findSome?_eq_none_iff.1 hfound j (List.mem_range.2 hj)⟩

theorem scaled_pos (hm : m.rank ≠ 0) : 0 < m.scaled := by
  have hlt : scaledRank 0 < scaledRank m.rank := scaledRank_strictMono (Nat.pos_of_ne_zero hm)
  exact Nat.lt_of_le_of_lt (Nat.zero_le _) hlt

/-- A point is found on the grid of the sixteenth place behind the first digit. -/
theorem exists_onGrid?_last (tie : Tie) (hm : m.rank ≠ 0) :
    ∃ d, m.onGrid? tie (m.leadingExponent - (16 : Nat)) = some d := by
  refine exists_onGrid? tie hm ?_
  have hexponent (top : Int) : (10 : ℚ) ^ 16 * 10 ^ (top - (16 : Nat)) = 10 ^ top := by
    rw [← zpow_natCast, ← zpow_add₀ (by norm_num)]
    congr 1
    omega
  rw [← mul_assoc, hexponent]
  exact pow_leadingExponent_le (scaled_pos hm)

/-- What is found on the first grid on which there is something is the shortest decimal. -/
theorem shortest_of_findSome? {d : Decimal} (h : ((List.range 17).findSome? fun (n : Nat) =>
    m.onGrid? tie (m.leadingExponent - n)) = some d) : m.shortest tie = d.dropZeros 17 := by
  -- unfolded as a function: applied to `m`, the search would be evaluated as far as it goes
  refine (congrFun (congrFun (by delta shortest; rfl) m) tie).trans ?_
  dsimp only
  rw [h]

/-- **Seventeen digits are enough**: the shortest decimal is found on the first grid on which there is
one. -/
theorem exists_shortest_eq (tie : Tie) (hm : m.rank ≠ 0) :
    ∃ d, ∃ i : Nat, m.onGrid? tie (m.leadingExponent - i) = some d ∧
      (∀ j : Nat, j < i → m.onGrid? tie (m.leadingExponent - j) = none) ∧
      m.shortest tie = d.dropZeros 17 := by
  obtain ⟨last, hlast⟩ := exists_onGrid?_last tie hm
  cases hfound : (List.range 17).findSome? fun (n : Nat) =>
      m.onGrid? tie (m.leadingExponent - n) with
  | none =>
    have hnone := List.findSome?_eq_none_iff.1 hfound 16 (List.mem_range.2 (by decide))
    rw [hlast] at hnone
    cases hnone
  | some d =>
    obtain ⟨i, hd, hbefore⟩ := exists_of_findSome?_range hfound
    exact ⟨d, i, hd, hbefore, shortest_of_findSome? hfound⟩

end Magnitude

/-! ## Trailing zeros -/

namespace Decimal

/-- Moving zeros into the exponent keeps the value and makes the exponent no smaller. -/
theorem dropZeros_spec (n : Nat) (d : Decimal) :
    (d.dropZeros n).value = d.value ∧ d.exponent ≤ (d.dropZeros n).exponent := by
  induction n generalizing d with
  | zero => exact ⟨rfl, le_rfl⟩
  | succ n ih =>
    unfold dropZeros
    split
    · rename_i hzero
      obtain ⟨hvalue, hexponent⟩ := ih ⟨d.digits / 10, d.exponent + 1⟩
      refine ⟨hvalue.trans ?_, (Int.le_add_one le_rfl).trans hexponent⟩
      have hdigits : (d.digits : ℚ) = (d.digits / 10 : Nat) * 10 := by
        exact_mod_cast (Nat.div_mul_cancel (Nat.dvd_of_mod_eq_zero hzero)).symm
      rw [value, value, hdigits, zpow_add_one₀ (by norm_num)]
      ring
    · exact ⟨rfl, le_rfl⟩

end Decimal

namespace Magnitude

variable {m : Magnitude}

/-- **The shortest decimal reads back**: its value is rounded to the place of the magnitude. -/
theorem roundsTo_shortest (tie : Tie) (hm : m.rank ≠ 0) :
    RoundsTo ((m.shortest tie).value * unitsPerOne) m.rank := by
  obtain ⟨d, i, hd, -, hshortest⟩ := exists_shortest_eq tie hm
  rw [hshortest, (d.dropZeros_spec 17).1]
  exact (roundsTo_of_onGrid? hd).2

/-- The magnitude `2 ^ (-25)` is halfway between two decimals of seventeen digits, which both read
back. -/
example : (nearest 1 (2 ^ 25)).shortest .up = ⟨29802322387695313, -24⟩ ∧
    (nearest 1 (2 ^ 25)).shortest .even = ⟨29802322387695312, -24⟩ := by
  decide +kernel

/-! ## Whole numbers -/

/-- On the grid of the whole numbers a whole number is found itself. -/
theorem onGrid?_zero (tie : Tie) {v : Nat} (hv : m.scaled = v * unitsPerOne) :
    m.onGrid? tie 0 = some ⟨v, 0⟩ := by
  have hnearer : m.nearer tie 0 = v := by
    have hten : tenTo 0 = (1, 1) := rfl
    rw [nearer, hten, hv, Nat.mul_one, Nat.one_mul, tie.round_mul v unitsPerOne_pos]
  have hback : m.readsBack (m.nearer tie 0) 0 = true := by
    rw [readsBack_iff, hnearer, zpow_zero, mul_one, ← Nat.cast_mul, ← hv]
    exact roundsTo_scaledRank m.rank
  rw [onGrid?_of_nearer hback, hnearer]

/-- The shortest decimal of a whole number has no places behind the point, and if it is not the number
itself, it ends in a zero.

**Proof sketch.** The grids become finer one by one, from that of the first digit on. The whole numbers
are one of them, unless a coarser one comes first. -/
theorem exists_value_shortest_eq (tie : Tie) (hm : m.rank ≠ 0) {v : Nat}
    (hv : m.scaled = v * unitsPerOne) (hbound : v < 10 ^ 100) :
    0 ≤ (m.shortest tie).exponent ∧
      ∃ w : Nat, (m.shortest tie).value = w ∧ (w = v ∨ 10 ∣ w) := by
  obtain ⟨d, i, hd, hbefore, hshortest⟩ := exists_shortest_eq tie hm
  obtain ⟨hvalue, hexponent⟩ := d.dropZeros_spec 17
  have hpos : 0 < v := by
    have hscaled := scaled_pos hm
    rw [hv] at hscaled
    exact Nat.pos_of_mul_pos_right hscaled
  have htop := leadingExponent_nonneg hv hpos hbound
  have hwhole := onGrid?_zero tie hv
  generalize m.leadingExponent = top at hd hbefore htop
  have hle : i ≤ top := by
    by_contra hlt
    have hnone := hbefore top.toNat (by omega)
    rw [Int.toNat_of_nonneg htop, sub_self, hwhole] at hnone
    cases hnone
  obtain ⟨e, he⟩ : ∃ e : Nat, top - i = e := ⟨(top - i).toNat, by omega⟩
  rw [he] at hd
  have hdexponent : d.exponent = e := (roundsTo_of_onGrid? hd).1
  rw [hshortest]
  refine ⟨by omega, ?_⟩
  rw [hvalue]
  cases e with
  | zero =>
    rw [Int.natCast_zero, hwhole] at hd
    cases hd
    exact ⟨v, by simp [Decimal.value], .inl rfl⟩
  | succ e =>
    refine ⟨10 * (d.digits * 10 ^ e), ?_, .inr (Nat.dvd_mul_right _ _)⟩
    rw [Decimal.value, hdexponent, zpow_natCast, pow_succ]
    push_cast
    ring

/-- **Up to `2 ^ 53` a whole number is its own shortest decimal.**

**Proof sketch.** Below `2 ^ 53` no other whole number is rounded in the same way, and `2 ^ 53` itself
shares its magnitude with `2 ^ 53 + 1` only, which does not end in a zero. -/
theorem eq_of_nearest_eq {n w : Nat} (hn : n ≤ 2 ^ 53) (h : nearest w 1 = nearest n 1)
    (hw : w = n ∨ 10 ∣ w) : w = n := by
  by_cases hsmall : w < 2 ^ 53 ∨ n < 2 ^ 53
  · exact (nearest_eq_nearest_iff hsmall).1 h
  rcases hw with hw | hw
  · exact hw
  by_contra hne
  have hrank : (nearest ((2 ^ 52 + 1) * 2 ^ 1) 1).rank ≤ (nearest w 1).rank :=
    rank_nearest_le Nat.one_pos Nat.one_pos (by omega)
  have hnext : (nearest ((2 ^ 52 + 1) * 2 ^ 1) 1).scaled = (2 ^ 52 + 1) * 2 ^ 1 * unitsPerOne :=
    scaled_nearest_mul (by decide) (by omega)
  have hle := scaledRank_strictMono.monotone hrank
  rw [h] at hle
  change (nearest ((2 ^ 52 + 1) * 2 ^ 1) 1).scaled ≤ (nearest n 1).scaled at hle
  rw [hnext, scaled_nearest_of_le hn] at hle
  have := Nat.le_of_mul_le_mul_right hle unitsPerOne_pos
  omega

end Magnitude

/-! ## Texts -/

/-- Zeros behind the digits of a positive number multiply it. -/
theorem repr_mul_pow {n : Nat} (hn : 0 < n) (e : Nat) :
    Nat.repr (n * 10 ^ e) = Nat.repr n ++ zeros e := by
  have hdigits : Nat.toDigits 10 (n * 10 ^ e) = Nat.toDigits 10 n ++ List.replicate e '0' := by
    induction e with
    | zero => simp
    | succ e ih =>
      have hpos : 0 < n * 10 ^ e := Nat.mul_pos hn (Nat.pow_pos (by decide))
      have happend := Nat.toDigits_append_toDigits (by decide : 1 < 10) hpos (by decide : 0 < 10)
      rw [List.replicate_succ', ← List.append_assoc, ← ih, Nat.pow_succ, ← Nat.mul_assoc,
        Nat.mul_comm _ 10]
      exact happend.symm
  rw [← String.toList_inj, String.toList_append, Nat.toList_repr, Nat.toList_repr, hdigits, zeros,
    String.toList_ofList]

/-- A decimal without places behind the point is written as the whole number that it is. -/
theorem Decimal.exists_inFull_eq {d : Decimal} (hd : 0 ≤ d.exponent) {w : Nat} (hpos : 0 < w)
    (hw : d.value = w) : d.inFull "" = Nat.repr w := by
  obtain ⟨digits, exponent⟩ := d
  obtain ⟨e, rfl⟩ := Int.eq_ofNat_of_zero_le hd
  have hvalue : w = digits * 10 ^ e := by
    have hcast : (digits * 10 ^ e : ℚ) = w := by
      rw [← hw, Decimal.value, zpow_natCast]
    exact_mod_cast hcast.symm
  have hdigits : 0 < digits := by
    rw [hvalue] at hpos
    exact Nat.pos_of_mul_pos_right hpos
  rw [hvalue, repr_mul_pow hdigits, Decimal.inFull]
  dsimp only
  rw [if_pos (Int.natCast_nonneg e), Int.toNat_natCast, String.append_empty]

/-- A finite number is written with all places of its shortest decimal. -/
theorem Number.text_real {m : Magnitude} (hm : m.isInfinite = false) :
    (Number.real false m).text =
      if m.rank = 0 then "0" else (m.shortest .up).inFull "" := by
  by_cases hzero : m.rank = 0
  · simp [Number.text, Number.toText, Magnitude.toText, NumberStyle.full, hm, hzero]
    rfl
  · simp [Number.text, Number.toText, Magnitude.toText, NumberStyle.full, hm, hzero]

open Magnitude

/-- **The text of a whole number is that of a whole number which is rounded in the same way**, and of
the number itself up to `2 ^ 53`. -/
theorem Number.exists_text_ofNat {n : Nat} (hn : n < 2 ^ 64) :
    ∃ w, (Number.ofNat n).text = Nat.repr w ∧ nearest w 1 = nearest n 1 ∧ (n ≤ 2 ^ 53 → w = n) := by
  obtain ⟨hscaled, hfinite⟩ := nearest_bounds hn
  obtain ⟨v, hv⟩ := exists_scaled_nearest_eq n
  rw [Number.ofNat, text_real hfinite]
  by_cases hzero : (nearest n 1).rank = 0
  · have hn0 : n = 0 := by
      by_contra hne
      have hlt := rank_nearest_lt (Nat.pos_of_ne_zero hne) (by omega)
      omega
    exact ⟨0, by rw [if_pos hzero]; rfl, by rw [hn0], fun _ => hn0.symm⟩
  have hbound : v < 10 ^ 100 := by
    rw [hv] at hscaled
    have := Nat.le_of_mul_le_mul_right hscaled unitsPerOne_pos
    omega
  obtain ⟨hexponent, w, hw, hvw⟩ := exists_value_shortest_eq .up hzero hv hbound
  have hrounds : RoundsTo (w * unitsPerOne / (1 : Nat)) (nearest n 1).rank := by
    rw [Nat.cast_one, div_one, ← hw]
    exact roundsTo_shortest .up hzero
  have hpos : 0 < w := by
    refine Nat.pos_of_ne_zero fun hw0 => hzero ?_
    rw [hw0, Nat.cast_zero, zero_mul, zero_div] at hrounds
    exact hrounds.unique (roundsTo_scaledRank 0)
  have hsame : nearest w 1 = nearest n 1 := by
    rw [nearest_eq_of_roundsTo Nat.one_pos hrounds, ofRank_rank]
  refine ⟨w, ?_, hsame, fun hle => eq_of_nearest_eq hle hsame ?_⟩
  · rw [if_neg hzero, Decimal.exists_inFull_eq hexponent hpos hw]
  · rw [scaled_nearest_of_le hle] at hv
    have hvn : n = v := Nat.eq_of_mul_eq_mul_right unitsPerOne_pos hv
    rwa [hvn]

end RecordQuery
