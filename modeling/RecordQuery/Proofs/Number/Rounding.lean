import Mathlib.Data.Nat.Cast.Order.Field
import Mathlib.Order.Monotone.Basic
import Mathlib.Tactic.Linarith
import Mathlib.Tactic.Ring
import Mathlib.Tactic.FieldSimp
import Mathlib.Tactic.Positivity
import RecordQuery.Number.Basic

set_option autoImplicit false

/-!
# Rounding to magnitudes

A value is rounded to the place whose magnitude is nearest: it lies between the points halfway to
the neighbouring places, and on such a point only if the place is even. Such a place is the only
one, greater values have no smaller places, and `Magnitude.nearest` finds it.

Values are measured in units of the smallest positive magnitude.

## Main definitions

* `RecordQuery.Magnitude.RoundsTo` — a value is rounded to a place.

## Main results

* `RecordQuery.Magnitude.scaledRank_strictMono` — magnitudes are ordered as their places are.
* `RecordQuery.Magnitude.RoundsTo.le` — rounding keeps the order.
* `RecordQuery.Magnitude.exists_roundsTo_nearest` — the nearest magnitude is what a value is rounded
  to.
* `RecordQuery.Magnitude.scaled_nearest_of_le` — whole numbers up to `2 ^ 53` are not changed.
* `RecordQuery.Magnitude.ofDecimal_zero` — digits are rounded like the whole number they stand for.
-/

namespace RecordQuery

/-! ## Rounding to whole numbers -/

/-- A fraction is rounded up or down. -/
theorem roundHalfEven_mem (num den : Nat) :
    num / den ≤ roundHalfEven num den ∧ roundHalfEven num den ≤ num / den + 1 := by
  unfold roundHalfEven
  dsimp only
  split
  · omega
  split
  · omega
  split <;> omega

/-- A fraction is rounded to a whole number that is at most a half away, and to an odd one only if
it is nearer. -/
theorem roundHalfEven_spec (num : Nat) {den : Nat} (hden : 0 < den) :
    2 * num ≤ (2 * roundHalfEven num den + 1) * den ∧
      2 * roundHalfEven num den * den ≤ 2 * num + den ∧
      (roundHalfEven num den % 2 = 1 →
        2 * num < (2 * roundHalfEven num den + 1) * den ∧
          2 * roundHalfEven num den * den < 2 * num + den) := by
  have hdiv := Nat.div_add_mod num den
  have hmod := Nat.mod_lt num hden
  unfold roundHalfEven
  dsimp only
  generalize num / den = q at *
  generalize num % den = r at *
  have hprod : q * den = den * q := Nat.mul_comm q den
  split
  · refine ⟨?_, ?_, fun _ => ⟨?_, ?_⟩⟩ <;> nlinarith
  split
  · refine ⟨?_, ?_, fun _ => ⟨?_, ?_⟩⟩ <;> nlinarith
  split
  · refine ⟨?_, ?_, fun hodd => by omega⟩ <;> nlinarith
  · refine ⟨?_, ?_, fun hodd => by omega⟩ <;> nlinarith

/-- A fraction that is a whole number is not changed. -/
theorem roundHalfEven_mul (q : Nat) {den : Nat} (hden : 0 < den) :
    roundHalfEven (q * den) den = q := by
  unfold roundHalfEven
  dsimp only
  rw [Nat.mul_mod_left, Nat.mul_div_cancel _ hden, if_pos hden]

namespace Magnitude

/-! ## Places and their magnitudes -/

/-- The magnitude at a place that is given by its exponent and how far it is among the places with
that exponent. The last place of one exponent is the first place of the next. -/
theorem scaledRank_add {shift k : Nat} (hk : k ≤ 2 * perExponent)
    (hshift : shift = 0 ∨ perExponent ≤ k) :
    scaledRank (shift * perExponent + k) = k * 2 ^ shift := by
  unfold scaledRank
  dsimp only
  by_cases hsmall : k < perExponent
  · obtain rfl : shift = 0 := by omega
    have hblock : (0 * perExponent + k) / perExponent = 0 := by
      rw [Nat.zero_mul, Nat.zero_add]
      exact Nat.div_eq_of_lt hsmall
    rw [if_pos hblock]
    omega
  by_cases hlast : k = 2 * perExponent
  · have hblock : (shift * perExponent + k) / perExponent = shift + 2 := by
      unfold perExponent at *
      omega
    have hplace : (shift * perExponent + k) % perExponent = 0 := by
      unfold perExponent at *
      omega
    rw [hblock, hplace, if_neg (by omega), Nat.shiftLeft_eq, hlast]
    change _ = 2 * perExponent * 2 ^ shift
    rw [show shift + 2 - 1 = shift + 1 from rfl, Nat.pow_succ]
    ring
  · have hblock : (shift * perExponent + k) / perExponent = shift + 1 := by
      unfold perExponent at *
      omega
    have hplace : perExponent + (shift * perExponent + k) % perExponent = k := by
      unfold perExponent at *
      omega
    rw [hblock, hplace, if_neg (by omega), Nat.shiftLeft_eq, Nat.add_sub_cancel]

/-- Every place has an exponent and is among the places with it. -/
theorem exists_scaledRank_eq (r : Nat) :
    ∃ shift k, k < 2 * perExponent ∧ (shift = 0 ∨ perExponent ≤ k) ∧
      r = shift * perExponent + k := by
  by_cases hr : r < perExponent
  · exact ⟨0, r, by omega, .inl rfl, by omega⟩
  · refine ⟨r / perExponent - 1, perExponent + r % perExponent, ?_, .inr (by omega), ?_⟩
    · unfold perExponent
      omega
    · unfold perExponent at *
      omega

/-- A place and the next one, as steps of their exponent. -/
theorem exists_scaledRank_succ (r : Nat) :
    ∃ shift k, k < 2 * perExponent ∧ scaledRank r = k * 2 ^ shift ∧
      scaledRank (r + 1) = (k + 1) * 2 ^ shift := by
  obtain ⟨shift, k, hk, hshift, rfl⟩ := exists_scaledRank_eq r
  refine ⟨shift, k, hk, scaledRank_add (by omega) hshift, ?_⟩
  rw [Nat.add_assoc]
  exact scaledRank_add (by omega) (by omega)

/-- **Magnitudes are ordered as their places are.** -/
theorem scaledRank_strictMono : StrictMono scaledRank := by
  refine strictMono_nat_of_lt_succ fun r => ?_
  obtain ⟨shift, k, -, hr, hsucc⟩ := exists_scaledRank_succ r
  rw [hr, hsucc]
  exact Nat.mul_lt_mul_of_pos_right (Nat.lt_succ_self k) (Nat.two_pow_pos shift)

/-- The step behind a place is no smaller than the magnitude there in `53` binary digits. -/
theorem scaledRank_succ_le (r : Nat) :
    scaledRank (r + 1) + 2 ^ 53 * scaledRank r ≤ 2 ^ 53 * scaledRank (r + 1) := by
  obtain ⟨shift, k, hk, hr, hsucc⟩ := exists_scaledRank_succ r
  have hbound : k + 1 ≤ 2 ^ 53 := by
    unfold perExponent at hk
    omega
  have hstep := Nat.mul_le_mul_right (2 ^ shift) hbound
  rw [hr, hsucc]
  calc (k + 1) * 2 ^ shift + 2 ^ 53 * (k * 2 ^ shift)
      ≤ 2 ^ 53 * 2 ^ shift + 2 ^ 53 * (k * 2 ^ shift) := Nat.add_le_add_right hstep _
    _ = 2 ^ 53 * ((k + 1) * 2 ^ shift) := by ring

/-! ## Values between places -/

/-- A value is rounded to a place: it lies between the points halfway to the neighbouring places,
and on one of them only if the place is even. -/
structure RoundsTo (x : ℚ) (r : Nat) : Prop where
  low_le : (scaledRank (r - 1) + scaledRank r : ℚ) ≤ 2 * x
  le_high : 2 * x ≤ scaledRank r + scaledRank (r + 1)
  low_lt : r % 2 = 1 → (scaledRank (r - 1) + scaledRank r : ℚ) < 2 * x
  lt_high : r % 2 = 1 → 2 * x < scaledRank r + scaledRank (r + 1)

/-- **Rounding keeps the order**: a greater value is not rounded to a smaller place.

**Proof sketch.** The points halfway to the next place ascend with the places, and two places next
to each other have one such point between them, but are not both even. -/
theorem RoundsTo.le {x y : ℚ} {r t : Nat} (hx : RoundsTo x r) (hy : RoundsTo y t) (hxy : x ≤ y) :
    r ≤ t := by
  by_contra hlt
  have hlt : t + 1 ≤ r := by omega
  have hmono : scaledRank (t + 1) ≤ scaledRank r := scaledRank_strictMono.monotone hlt
  have hprev : scaledRank t ≤ scaledRank (r - 1) :=
    scaledRank_strictMono.monotone (by omega)
  have hmono' : (scaledRank (t + 1) : ℚ) ≤ scaledRank r := by exact_mod_cast hmono
  have hprev' : (scaledRank t : ℚ) ≤ scaledRank (r - 1) := by exact_mod_cast hprev
  by_cases hodd : r % 2 = 1
  · have := hx.low_lt hodd
    have := hy.le_high
    linarith
  by_cases hodd' : t % 2 = 1
  · have := hx.low_le
    have := hy.lt_high hodd'
    linarith
  · have hnext : scaledRank (t + 1) < scaledRank r := scaledRank_strictMono (by omega)
    have hnext' : (scaledRank (t + 1) : ℚ) < scaledRank r := by exact_mod_cast hnext
    have := hx.low_le
    have := hy.le_high
    linarith

/-- A value is rounded to one place only. -/
theorem RoundsTo.unique {x : ℚ} {r t : Nat} (hr : RoundsTo x r) (ht : RoundsTo x t) : r = t :=
  Nat.le_antisymm (hr.le ht le_rfl) (ht.le hr le_rfl)

/-- The magnitude at a place is rounded to that place. -/
theorem roundsTo_scaledRank (r : Nat) : RoundsTo (scaledRank r) r := by
  have hprev : (scaledRank (r - 1) : ℚ) ≤ scaledRank r := by
    exact_mod_cast scaledRank_strictMono.monotone (by omega : r - 1 ≤ r)
  have hnext : (scaledRank r : ℚ) < scaledRank (r + 1) := by
    exact_mod_cast scaledRank_strictMono (Nat.lt_succ_self r)
  refine ⟨by linarith, by linarith, fun hodd => ?_, fun _ => by linarith⟩
  have hlt : (scaledRank (r - 1) : ℚ) < scaledRank r := by
    exact_mod_cast scaledRank_strictMono (by omega : r - 1 < r)
  linarith

/-- The next place is a step away at least. -/
theorem le_scaledRank_succ {shift k : Nat} (hk : k ≤ 2 * perExponent)
    (hshift : shift = 0 ∨ perExponent ≤ k) :
    (k + 1) * 2 ^ shift ≤ scaledRank (shift * perExponent + k + 1) := by
  by_cases hlast : k = 2 * perExponent
  -- the next place has the next exponent, and the step there is twice as wide
  · have hplace : shift * perExponent + k + 1 = (shift + 1) * perExponent + (perExponent + 1) := by
      rw [hlast]
      ring
    rw [hplace, scaledRank_add (by unfold perExponent; omega) (.inr (by omega)), Nat.pow_succ, hlast]
    nlinarith [Nat.two_pow_pos shift]
  · rw [Nat.add_assoc, scaledRank_add (by omega) (by omega)]

/-- The place before is a step away, unless it has another exponent. -/
theorem scaledRank_pred {shift k : Nat} (hk : k < 2 * perExponent)
    (hshift : shift = 0 ∨ perExponent ≤ k) :
    scaledRank (shift * perExponent + (k + 1) - 1) = k * 2 ^ shift := by
  rw [Nat.add_sub_assoc (by omega), Nat.add_sub_cancel]
  exact scaledRank_add (by omega) hshift

/-- A value at most half a step away from a place, and less if the place is odd, is rounded to it, if
it is not below the first place with the same exponent. -/
theorem roundsTo_of_near {x : ℚ} {shift k : Nat} (hx : 0 ≤ x) (hk : k ≤ 2 * perExponent)
    (hshift : shift = 0 ∨ perExponent ≤ k ∧ (perExponent * 2 ^ shift : ℚ) ≤ x)
    (hlow : 2 * k * 2 ^ shift ≤ 2 * x + 2 ^ shift) (hhigh : 2 * x ≤ (2 * k + 1) * 2 ^ shift)
    (hodd : k % 2 = 1 →
      2 * k * 2 ^ shift < 2 * x + 2 ^ shift ∧ 2 * x < (2 * k + 1) * 2 ^ shift) :
    RoundsTo x (shift * perExponent + k) := by
  have hwithin : shift = 0 ∨ perExponent ≤ k := hshift.imp_right And.left
  have hparity : (shift * perExponent + k) % 2 = k % 2 := by
    unfold perExponent
    omega
  have hhere : (scaledRank (shift * perExponent + k) : ℚ) = k * 2 ^ shift := by
    exact_mod_cast scaledRank_add hk hwithin
  have hnext : ((k : ℚ) + 1) * 2 ^ shift ≤ scaledRank (shift * perExponent + k + 1) := by
    exact_mod_cast le_scaledRank_succ hk hwithin
  have hbelow : (scaledRank (shift * perExponent + k - 1) : ℚ) ≤ k * 2 ^ shift := by
    rw [← hhere]
    exact_mod_cast scaledRank_strictMono.monotone (Nat.sub_le _ 1)
  have hbefore : (scaledRank (shift * perExponent + k - 1) + k * 2 ^ shift : ℚ) ≤ 2 * x ∧
      (k % 2 = 1 → (scaledRank (shift * perExponent + k - 1) + k * 2 ^ shift : ℚ) < 2 * x) := by
    by_cases hfirst : k = 0 ∨ shift ≠ 0 ∧ k = perExponent
    -- the first place with its exponent is even, and the value is not below it
    · have heven : k % 2 = 0 := by
        unfold perExponent at hfirst
        omega
      refine ⟨?_, fun h => absurd h (by omega)⟩
      rcases hfirst with rfl | ⟨hne, rfl⟩
      · push_cast at hbelow ⊢
        linarith
      · have := (hshift.resolve_left hne).2
        linarith
    · obtain ⟨j, rfl⟩ : ∃ j, k = j + 1 := ⟨k - 1, by omega⟩
      have hpred : (scaledRank (shift * perExponent + (j + 1) - 1) : ℚ) = j * 2 ^ shift := by
        exact_mod_cast scaledRank_pred (by omega) (by omega)
      rw [hpred]
      push_cast at hlow hodd ⊢
      refine ⟨by linarith, fun h => ?_⟩
      have := (hodd h).1
      linarith
  refine ⟨?_, ?_, fun h => ?_, fun h => ?_⟩
  · rw [hhere]
    exact hbefore.1
  · rw [hhere]
    linarith
  · rw [hhere]
    exact hbefore.2 (hparity ▸ h)
  · have := (hodd (hparity ▸ h)).2
    rw [hhere]
    linarith

/-! ## The nearest magnitude -/

/-- A whole number that loses all but its first `53` binary digits keeps at least the first place
with its exponent. -/
theorem log2_sub_bounds (n : Nat) :
    n / 2 ^ (n.log2 - 52) < 2 * perExponent ∧
      (n.log2 - 52 = 0 ∨ perExponent * 2 ^ (n.log2 - 52) ≤ n) := by
  constructor
  · refine Nat.div_lt_of_lt_mul ?_
    have hlog : n < 2 ^ (n.log2 + 1) := Nat.lt_log2_self
    have hexponent : 2 ^ (n.log2 + 1) ≤ 2 ^ (n.log2 - 52) * 2 ^ 53 := by
      rw [← Nat.pow_add]
      exact Nat.pow_le_pow_right (by omega) (by omega)
    exact Nat.lt_of_lt_of_le hlog hexponent
  · by_cases hzero : n.log2 - 52 = 0
    · exact .inl hzero
    · refine .inr ?_
      have hne : n ≠ 0 := by
        rintro rfl
        exact hzero rfl
      have hexponent : 2 ^ 52 * 2 ^ (n.log2 - 52) = 2 ^ n.log2 := by
        rw [← Nat.pow_add]
        congr 1
        omega
      exact Nat.le_trans (Nat.le_of_eq hexponent) (Nat.log2_self_le hne)

/-- **The nearest magnitude is what a value is rounded to**, unless that is beyond infinity.

**Proof sketch.** The exponent leaves a whole number of at most `53` binary digits, which is rounded
to the nearest one. It is not below the first place with that exponent (`roundsTo_of_near`). -/
theorem exists_roundsTo_nearest (num : Nat) {den : Nat} (hden : 0 < den) :
    ∃ r, RoundsTo (num * unitsPerOne / den : ℚ) r ∧ nearest num den = ofRank r := by
  refine ⟨_, ?_, rfl⟩
  rw [← Nat.cast_mul]
  generalize num * unitsPerOne = units
  obtain ⟨hshort, hfirst⟩ := log2_sub_bounds (units / den)
  generalize (units / den).log2 - 52 = shift at hshort hfirst ⊢
  rw [Nat.shiftLeft_eq]
  have hscale : 0 < den * 2 ^ shift := Nat.mul_pos hden (Nat.two_pow_pos shift)
  obtain ⟨hhigh, hlow, hodd⟩ := roundHalfEven_spec units hscale
  obtain ⟨hleast, hmost⟩ := roundHalfEven_mem units (den * 2 ^ shift)
  rw [← Nat.div_div_eq_div_mul] at hleast hmost
  generalize roundHalfEven units (den * 2 ^ shift) = k at *
  have hden' : (0 : ℚ) < den := by exact_mod_cast hden
  have hfirst' : shift = 0 ∨ perExponent ≤ k ∧ (perExponent * 2 ^ shift : ℚ) ≤ units / den := by
    refine hfirst.imp_right fun hfirst => ⟨?_, ?_⟩
    · have := (Nat.le_div_iff_mul_le (Nat.two_pow_pos shift)).2 hfirst
      omega
    · have hcast : (perExponent * 2 ^ shift : ℚ) ≤ (units / den : Nat) := by exact_mod_cast hfirst
      exact hcast.trans Nat.cast_div_le
  -- the bounds of the rounded number are those of the value, times `den`
  have hvalue : (units / den : ℚ) * den = units := div_mul_cancel₀ _ (ne_of_gt hden')
  have hlow' : (2 * k * (den * 2 ^ shift) : ℚ) ≤ 2 * units + den * 2 ^ shift := by
    exact_mod_cast hlow
  have hhigh' : (2 * units : ℚ) ≤ (2 * k + 1) * (den * 2 ^ shift) := by exact_mod_cast hhigh
  refine roundsTo_of_near (by positivity) (by omega) hfirst' ?_ ?_ fun h => ⟨?_, ?_⟩
  · refine le_of_mul_le_mul_right ?_ hden'
    linarith
  · refine le_of_mul_le_mul_right ?_ hden'
    linarith
  · have hlt : (2 * k * (den * 2 ^ shift) : ℚ) < 2 * units + den * 2 ^ shift := by
      exact_mod_cast (hodd h).2
    refine lt_of_mul_lt_mul_right ?_ hden'.le
    linarith
  · have hlt : (2 * units : ℚ) < (2 * k + 1) * (den * 2 ^ shift) := by
      exact_mod_cast (hodd h).1
    refine lt_of_mul_lt_mul_right ?_ hden'.le
    linarith

theorem ofRank_rank (m : Magnitude) : ofRank m.rank = m := by
  obtain ⟨rank, hrank⟩ := m
  simp only [ofRank, Nat.min_eq_left hrank]

/-- The nearest magnitude is at the place that a value is rounded to, unless that is beyond
infinity. -/
theorem nearest_eq_of_roundsTo {num den r : Nat} (hden : 0 < den)
    (h : RoundsTo (num * unitsPerOne / den : ℚ) r) : nearest num den = ofRank r := by
  obtain ⟨t, ht, hnearest⟩ := exists_roundsTo_nearest num hden
  rw [hnearest, ht.unique h]

/-- **Greater fractions have no smaller magnitudes nearest to them.** -/
theorem rank_nearest_le {a b c d : Nat} (hb : 0 < b) (hd : 0 < d) (h : a * d ≤ c * b) :
    (nearest a b).rank ≤ (nearest c d).rank := by
  obtain ⟨r, hr, har⟩ := exists_roundsTo_nearest a hb
  obtain ⟨t, ht, hct⟩ := exists_roundsTo_nearest c hd
  have hb' : (0 : ℚ) < b := by exact_mod_cast hb
  have hd' : (0 : ℚ) < d := by exact_mod_cast hd
  have hle : (a * unitsPerOne / b : ℚ) ≤ c * unitsPerOne / d := by
    rw [div_le_div_iff₀ hb' hd']
    have hscaled := Nat.mul_le_mul_right unitsPerOne h
    have hcast : (a * d * unitsPerOne : ℚ) ≤ c * b * unitsPerOne := by exact_mod_cast hscaled
    linarith
  have hrank := hr.le ht hle
  rw [har, hct, ofRank, ofRank]
  exact min_le_min_right infinityRank hrank

/-- Zero is not changed. -/
theorem nearest_zero (den : Nat) : nearest 0 den = zero := by
  simp [nearest, zero, roundHalfEven, Nat.log2_zero]

/-! ## Whole numbers -/

/-- The power of two that is one, in units of the smallest positive magnitude. -/
def unitExponent : Nat := 1074

theorem perExponent_eq : perExponent = 2 ^ 52 := rfl

theorem unitsPerOne_eq : unitsPerOne = 2 ^ unitExponent := by
  have hunits : unitsPerOne = 1 <<< unitExponent := rfl
  rw [hunits, Nat.one_shiftLeft]

theorem unitsPerOne_pos : 0 < unitsPerOne := by
  rw [unitsPerOne_eq]
  exact Nat.two_pow_pos unitExponent

/-- A magnitude bounds its place. -/
theorem rank_le_of_scaledRank_le {r shift : Nat} (h : scaledRank r ≤ perExponent * 2 ^ shift) :
    r ≤ (shift + 1) * perExponent := by
  have hfirst : scaledRank (shift * perExponent + perExponent) = perExponent * 2 ^ shift :=
    scaledRank_add (by omega) (.inr le_rfl)
  rw [← scaledRank_strictMono.le_iff_le, Nat.succ_mul, hfirst]
  exact h

/-- A whole number of at most `53` binary digits, times a power of two, is a magnitude. -/
theorem exists_scaledRank_eq_mul {k : Nat} (hk : k ≤ 2 * perExponent) (shift : Nat) :
    ∃ r, scaledRank r = k * 2 ^ shift := by
  induction shift generalizing k with
  | zero => exact ⟨0 * perExponent + k, scaledRank_add hk (.inl rfl)⟩
  | succ shift ih =>
    by_cases hfirst : perExponent ≤ k
    · exact ⟨_, scaledRank_add hk (.inr hfirst)⟩
    · obtain ⟨r, hr⟩ := ih (k := 2 * k) (by omega)
      exact ⟨r, by rw [hr, Nat.pow_succ]; ring⟩

/-- **Whole numbers with at most `53` binary digits in front of zeros are not changed.** -/
theorem scaled_nearest_mul {k shift : Nat} (hk : k ≤ 2 * perExponent) (hshift : shift ≤ 900) :
    (nearest (k * 2 ^ shift) 1).scaled = k * 2 ^ shift * unitsPerOne := by
  obtain ⟨r, hr⟩ := exists_scaledRank_eq_mul hk (shift + unitExponent)
  have hvalue : scaledRank r = k * 2 ^ shift * unitsPerOne := by
    rw [hr, unitsPerOne_eq, Nat.pow_add, Nat.mul_assoc]
  have hrank : r ≤ infinityRank := by
    have hbound : scaledRank r ≤ perExponent * 2 ^ (shift + unitExponent + 1) := by
      rw [hr, Nat.pow_succ', ← Nat.mul_assoc, Nat.mul_comm perExponent 2]
      exact Nat.mul_le_mul_right _ hk
    have hplaces : (shift + unitExponent + 1 + 1) * perExponent ≤ 2047 * perExponent := by
      unfold unitExponent
      exact Nat.mul_le_mul_right _ (by omega)
    exact (rank_le_of_scaledRank_le hbound).trans hplaces
  have hrounds : RoundsTo ((k * 2 ^ shift : Nat) * unitsPerOne / (1 : Nat)) r := by
    rw [Nat.cast_one, div_one, ← Nat.cast_mul, ← hvalue]
    exact roundsTo_scaledRank r
  have hplace : (ofRank r).rank = r := Nat.min_eq_left hrank
  rw [nearest_eq_of_roundsTo Nat.one_pos hrounds, scaled, hplace, hvalue]

/-- **Whole numbers up to `2 ^ 53` are not changed.** -/
theorem scaled_nearest_of_le {n : Nat} (hn : n ≤ 2 ^ 53) :
    (nearest n 1).scaled = n * unitsPerOne := by
  have h : (nearest (n * 2 ^ 0) 1).scaled = n * 2 ^ 0 * unitsPerOne :=
    scaled_nearest_mul hn (by omega)
  rwa [Nat.pow_zero, Nat.mul_one] at h

theorem rank_lt_iff {a b : Magnitude} : a.rank < b.rank ↔ a.scaled < b.scaled :=
  scaledRank_strictMono.lt_iff_lt.symm

/-- Whole numbers of which the smaller one is not changed stay different. -/
theorem rank_nearest_lt {m n : Nat} (hmn : m < n) (hm : m < 2 ^ 53) :
    (nearest m 1).rank < (nearest n 1).rank := by
  have hnext : (nearest m 1).rank < (nearest (m + 1) 1).rank := by
    rw [rank_lt_iff, scaled_nearest_of_le (by omega), scaled_nearest_of_le (by omega)]
    exact Nat.mul_lt_mul_of_pos_right (Nat.lt_succ_self m) unitsPerOne_pos
  exact hnext.trans_le (rank_nearest_le Nat.one_pos Nat.one_pos (by omega))

/-- **Whole numbers below `2 ^ 53` share their magnitude with no other whole number.** -/
theorem nearest_eq_nearest_iff {m n : Nat} (h : m < 2 ^ 53 ∨ n < 2 ^ 53) :
    nearest m 1 = nearest n 1 ↔ m = n := by
  refine ⟨fun heq => ?_, fun heq => by rw [heq]⟩
  rcases Nat.lt_trichotomy m n with hlt | hmn | hlt
  · have := rank_nearest_lt hlt (by omega)
    rw [heq] at this
    omega
  · exact hmn
  · have := rank_nearest_lt hlt (by omega)
    rw [heq] at this
    omega

/-- **Whole numbers are rounded to whole numbers.** -/
theorem exists_scaled_nearest_eq (n : Nat) : ∃ v, (nearest n 1).scaled = v * unitsPerOne := by
  by_cases hn : n ≤ 2 ^ 53
  · exact ⟨n, scaled_nearest_of_le hn⟩
  obtain ⟨shift, k, hk, hvalue, -⟩ := exists_scaledRank_succ (nearest n 1).rank
  have hrank : (nearest (2 ^ 53) 1).rank ≤ (nearest n 1).rank :=
    rank_nearest_le Nat.one_pos Nat.one_pos (by omega)
  have hle := scaledRank_strictMono.monotone hrank
  have hexact : scaledRank (nearest (2 ^ 53) 1).rank = 2 ^ 53 * unitsPerOne :=
    scaled_nearest_of_le le_rfl
  rw [hexact, hvalue] at hle
  have hshift : unitExponent ≤ shift := by
    by_contra hlt
    have hpower : 2 ^ shift ≤ unitsPerOne := by
      rw [unitsPerOne_eq]
      exact Nat.pow_le_pow_right (by omega) (by omega)
    have hless : k * 2 ^ shift < 2 ^ 53 * unitsPerOne :=
      Nat.mul_lt_mul_of_lt_of_le hk hpower (unitsPerOne_pos)
    omega
  refine ⟨k * 2 ^ (shift - unitExponent), ?_⟩
  rw [unitsPerOne_eq, Nat.mul_assoc, ← Nat.pow_add, Nat.sub_add_cancel hshift]
  exact hvalue

/-- Whole numbers of `64` bits are far from infinity. -/
theorem nearest_bounds {n : Nat} (hn : n < 2 ^ 64) :
    (nearest n 1).scaled ≤ 2 ^ 64 * unitsPerOne ∧ (nearest n 1).isInfinite = false := by
  have hrank : (nearest n 1).rank ≤ (nearest (1 * 2 ^ 64) 1).rank :=
    rank_nearest_le Nat.one_pos Nat.one_pos (by omega)
  have htop : (nearest (1 * 2 ^ 64) 1).scaled = 1 * 2 ^ 64 * unitsPerOne :=
    scaled_nearest_mul (by decide) (by omega)
  have hscaled : (nearest n 1).scaled ≤ 2 ^ 64 * unitsPerOne := by
    rw [Nat.one_mul] at htop
    rw [← htop, ← Nat.one_mul (2 ^ 64)]
    exact scaledRank_strictMono.monotone hrank
  refine ⟨hscaled, ?_⟩
  have hbound : scaledRank (nearest n 1).rank ≤ perExponent * 2 ^ (12 + unitExponent) := by
    rw [Nat.pow_add, ← unitsPerOne_eq, ← Nat.mul_assoc]
    exact hscaled
  have hle := rank_le_of_scaledRank_le hbound
  have hless : (12 + unitExponent + 1) * perExponent < 2047 * perExponent :=
    Nat.mul_lt_mul_of_pos_right (by decide) (by decide)
  have hne : (nearest n 1).rank ≠ infinityRank := Nat.ne_of_lt (Nat.lt_of_le_of_lt hle hless)
  rw [isInfinite, beq_eq_false_iff_ne]
  exact hne

/-! ## Whole numbers written in digits -/

/-- **From `2 ^ 1024` on whole numbers are rounded to infinity.**

**Proof sketch.** The place of infinity would hold `2 ^ 1024` (`scaledRank_add`), so that this number is
rounded to it, and greater numbers have no smaller places (`rank_nearest_le`). -/
theorem nearest_eq_infinity {n : Nat} (hn : 2 ^ 1024 ≤ n) : nearest n 1 = infinity := by
  have hplace : scaledRank infinityRank = 2 ^ 1024 * unitsPerOne := by
    have h : scaledRank (2046 * perExponent + perExponent) = perExponent * 2 ^ 2046 :=
      scaledRank_add (by omega) (.inr le_rfl)
    have hexponent : 52 + 2046 = 1024 + unitExponent := rfl
    have hpower : perExponent * 2 ^ 2046 = 2 ^ 1024 * unitsPerOne := by
      rw [perExponent_eq, unitsPerOne_eq, ← Nat.pow_add, ← Nat.pow_add, hexponent]
    rw [← hpower, ← h, infinityRank, ← Nat.succ_mul]
  have hrounds : RoundsTo ((2 ^ 1024 : Nat) * unitsPerOne / (1 : Nat)) infinityRank := by
    rw [Nat.cast_one, div_one, ← Nat.cast_mul, ← hplace]
    exact roundsTo_scaledRank infinityRank
  have htop : (nearest (2 ^ 1024) 1).rank = infinityRank := by
    rw [nearest_eq_of_roundsTo Nat.one_pos hrounds]
    exact Nat.min_self infinityRank
  have hle : (nearest (2 ^ 1024) 1).rank ≤ (nearest n 1).rank :=
    rank_nearest_le Nat.one_pos Nat.one_pos (by omega)
  rw [← ofRank_rank (nearest n 1), infinity, Nat.le_antisymm (nearest n 1).rank_le (htop ▸ hle)]

/-- A whole number of at most `310` digits is rounded like the decimal that its digits are. -/
theorem ofDecimal_zero_of_length_le {n : Nat} (h : (Nat.repr n).length ≤ 310) :
    ofDecimal n 0 = nearest n 1 := by
  unfold ofDecimal
  dsimp only
  split
  · rename_i hzero
    rw [hzero, nearest_zero]
  · rw [if_neg (by omega), if_neg (by omega), if_pos le_rfl, Int.toNat_zero, Nat.pow_eq, Nat.pow_zero,
      Nat.mul_one]

/-- **A whole number is rounded like the decimal that its digits are**, also where it has so many digits
that it is infinity. -/
theorem ofDecimal_zero (n : Nat) : ofDecimal n 0 = nearest n 1 := by
  by_cases hlength : (Nat.repr n).length ≤ 310
  · exact ofDecimal_zero_of_length_le hlength
  have hlarge : 10 ^ 310 ≤ n := by
    rwa [Nat.length_repr_le_iff (by decide), not_lt] at hlength
  have hpositive : n ≠ 0 := (lt_of_lt_of_le (Nat.pow_pos (by decide)) hlarge).ne'
  have hpowers : 2 ^ 1024 ≤ 10 ^ 310 := by decide +kernel
  rw [ofDecimal, if_neg hpositive, if_pos (by omega), nearest_eq_infinity (hpowers.trans hlarge)]

end Magnitude

end RecordQuery
