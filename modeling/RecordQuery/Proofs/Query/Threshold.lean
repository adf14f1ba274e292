import RecordQuery.Proofs.Number.Rounding
import RecordQuery.Proofs.Query.Interpretation
import RecordQuery.Proofs.Query.Writing
import RecordQuery.Proofs.Text.Digits
import RecordQuery.Query.Compiled

set_option autoImplicit false

/-!
# Queries with thresholds

The four comparisons of a field with digits. If the field can be viewed as a number, it stands in
exactly one of two opposite comparisons, and it is equal to the digits if it is neither below nor above
them. A field without such a view, or one that is not a number, stands in none. Digits with a greater
value are met from below by more records and from above by fewer: rounding keeps the order, whatever the
number of digits.

## Main definitions

* `RecordQuery.IsDigits`, `RecordQuery.threshold` — one or more digits, and the number they are rounded
  to.
* `RecordQuery.Record.number?` — a field viewed as a number.
* `RecordQuery.CoherentThresholds` — how answers to comparisons with digits go together.

## Main results

* `RecordQuery.Comparison.holds_opposite` — of two opposite comparisons exactly one holds.
* `RecordQuery.Comparison.holds_threshold_of_le` — greater thresholds are met from below by more
  numbers.
* `RecordQuery.Query.thresholds_coherent` — how the comparisons of a field go together.
-/

namespace RecordQuery

open Grammar Lexeme Magnitude

/-! ## Digits as thresholds -/

/-- A text of one or more digits. -/
structure IsDigits (d : String) : Prop where
  ne_nil : d.toList ≠ []
  digits : ∀ c ∈ d.toList, isDigit c = true

/-- The number nearest to the value of some digits. -/
def threshold (d : String) : Number := .ofNat (digitsValue d.toList)

/-- Digits are read as the number nearest to their value. -/
theorem IsDigits.isNumeral {d : String} (h : IsDigits d) : IsNumeral d (threshold d) where
  ne_nil := h.ne_nil
  digits := h.digits
  read := by
    rw [Number.read?_digits h.ne_nil h.digits, Magnitude.ofDecimal_zero, threshold, Number.ofNat]

/-- The place of a threshold in the order of numbers. -/
def thresholdPlace (d : String) : Int := (nearest (digitsValue d.toList) 1).rank

theorem order?_threshold (d : String) : (threshold d).order? = some (thresholdPlace d) := rfl

/-- **Greater values have no smaller places**, also where they are infinite. -/
theorem thresholdPlace_mono {d e : String} (h : digitsValue d.toList ≤ digitsValue e.toList) :
    thresholdPlace d ≤ thresholdPlace e :=
  Int.ofNat_le.2 (rank_nearest_le Nat.one_pos Nat.one_pos (by omega))

/-- A one and zeros behind it. -/
theorem isDigits_one_zeros (n : Nat) :
    IsDigits ("1" ++ zeros n) ∧ digitsValue ("1" ++ zeros n).toList = 10 ^ n := by
  have hchars : ("1" ++ zeros n).toList = '1' :: List.replicate n '0' := by simp [zeros]
  refine ⟨⟨by simp [hchars], fun c hc => ?_⟩, ?_⟩
  · rw [hchars, List.mem_cons, List.mem_replicate] at hc
    rcases hc with rfl | ⟨-, rfl⟩ <;> decide
  · rw [hchars, digitsValue_cons, digitsValue_replicate_zero, List.length_replicate]
    exact Nat.mul_one _

/-! ## Numbers and thresholds -/

/-- Only what is not a number has no place. -/
theorem Number.exists_order? {x : Number} (h : x ≠ .nan) : ∃ a, x.order? = some a := by
  cases x with
  | nan => exact absurd rfl h
  | real negative m => cases negative <;> exact ⟨_, rfl⟩

namespace Comparison

/-- What is not a number stands in no comparison. -/
theorem holds_nan (c : Comparison) (y : Number) : c.holds .nan y = false := by
  rw [Bool.eq_false_iff]
  intro h
  obtain ⟨a, b, ha, -⟩ := (c.holds_iff_relates _ _).1 h
  cases ha

/-- The comparison that holds if another does not. -/
def opposite : Comparison → Comparison
  | less => atLeast
  | greater => atMost
  | atMost => greater
  | atLeast => less

/-- **Of two opposite comparisons exactly one holds** for numbers that have a place. -/
theorem holds_opposite (c : Comparison) {x : Number} (hx : x ≠ .nan) (d : String) :
    c.opposite.holds x (threshold d) = !c.holds x (threshold d) := by
  obtain ⟨a, ha⟩ := Number.exists_order? hx
  rw [Bool.eq_iff_iff, Bool.not_eq_true', Bool.eq_false_iff, ne_eq, holds_iff_relates,
    holds_iff_relates]
  cases c <;> simp [opposite, Relates, ha, order?_threshold]

/-- A number that is neither below nor above a threshold is equal to it. -/
theorem holds_both_iff {x : Number} (hx : x ≠ .nan) (d : String) :
    atLeast.holds x (threshold d) = true ∧ atMost.holds x (threshold d) = true ↔
      x.eq (threshold d) = true := by
  obtain ⟨a, ha⟩ := Number.exists_order? hx
  have heq : x.eq (threshold d) = true ↔ a = thresholdPlace d := by
    simp [Number.eq, ha, order?_threshold]
  rw [holds_iff_relates, holds_iff_relates, heq]
  simp only [Relates, ha, order?_threshold, Option.some.injEq, exists_and_left, exists_eq_left']
  omega

/-- **Greater thresholds are met from below by more numbers.** -/
theorem holds_threshold_of_le {c : Comparison} (hc : c = less ∨ c = atMost) {d e : String}
    (h : digitsValue d.toList ≤ digitsValue e.toList) {x : Number}
    (hd : c.holds x (threshold d) = true) : c.holds x (threshold e) = true := by
  have hplace := thresholdPlace_mono h
  obtain ⟨a, b, ha, hb, hab⟩ := (c.holds_iff_relates _ _).1 hd
  rw [order?_threshold, Option.some.injEq] at hb
  refine (c.holds_iff_relates _ _).2 ⟨a, thresholdPlace e, ha, order?_threshold e, ?_⟩
  rcases hc with rfl | rfl <;> dsimp only at hab ⊢ <;> omega

/-- **Smaller thresholds are met from above by more numbers.** -/
theorem holds_threshold_of_ge {c : Comparison} (hc : c = greater ∨ c = atLeast) {d e : String}
    (h : digitsValue d.toList ≤ digitsValue e.toList) {x : Number}
    (he : c.holds x (threshold e) = true) : c.holds x (threshold d) = true := by
  have hplace := thresholdPlace_mono h
  obtain ⟨a, b, ha, hb, hab⟩ := (c.holds_iff_relates _ _).1 he
  rw [order?_threshold, Option.some.injEq] at hb
  refine (c.holds_iff_relates _ _).2 ⟨a, thresholdPlace d, ha, order?_threshold d, ?_⟩
  rcases hc with rfl | rfl <;> dsimp only at hab ⊢ <;> omega

end Comparison

/-! ## Queries -/

/-- A field viewed as a number. -/
def Record.number? (record : Record) (key : String) : Option Number :=
  (record.get? key).bind Value.number?

/-- How the comparisons of a field with digits go together, where `view` is the field as a number, if
it is one, and `hit` says which comparisons are met, negated or not. -/
structure CoherentThresholds (view : Option Number) (hit : Bool → Comparison → String → Bool) :
    Prop where
  /-- A number is on one side of a threshold or on the other, and on both if it is equal to it. -/
  number : ∀ d, IsDigits d → ∀ x, view = some x → x ≠ .nan →
    hit false .less d = !hit false .atLeast d ∧ hit false .atMost d = !hit false .greater d ∧
      (hit false .atLeast d = true ∧ hit false .atMost d = true ↔ x.eq (threshold d) = true)
  /-- What is not a number is on no side of a threshold. -/
  noNumber : ∀ d, IsDigits d → (∀ x, view = some x → x = .nan) →
    ∀ c, hit false c d = false ∧ hit true c d = true
  /-- What is below a threshold is below greater ones. -/
  below : ∀ d e, IsDigits d → IsDigits e → digitsValue d.toList ≤ digitsValue e.toList →
    ∀ c, c = .less ∨ c = .atMost → hit false c d = true → hit false c e = true
  /-- What is above a threshold is above smaller ones. -/
  above : ∀ d e, IsDigits d → IsDigits e → digitsValue d.toList ≤ digitsValue e.toList →
    ∀ c, c = .greater ∨ c = .atLeast → hit false c e = true → hit false c d = true

/-- Comparisons with thresholds go together, and negation takes the opposite answer. -/
theorem coherentThresholds_any (view : Option Number) :
    CoherentThresholds view fun negated c d =>
      view.any (c.holds · (threshold d)) != negated where
  number d _ x hx hnan := by
    simp only [hx, Option.any_some, Bool.bne_false]
    exact ⟨Comparison.holds_opposite .atLeast hnan d, Comparison.holds_opposite .greater hnan d,
      Comparison.holds_both_iff hnan d⟩
  noNumber d _ hview c := by
    have hany : view.any (c.holds · (threshold d)) = false := by
      cases view with
      | none => rfl
      | some x => rw [Option.any_some, hview x rfl, Comparison.holds_nan]
    simp only [hany]
    decide
  below d e _ _ h c hc hd := by
    simp only [Bool.bne_false, Option.any_eq_true] at hd ⊢
    obtain ⟨x, hx, hd⟩ := hd
    exact ⟨x, hx, Comparison.holds_threshold_of_le hc h hd⟩
  above d e _ _ h c hc he := by
    simp only [Bool.bne_false, Option.any_eq_true] at he ⊢
    obtain ⟨x, hx, he⟩ := he
    exact ⟨x, hx, Comparison.holds_threshold_of_ge hc h he⟩

namespace Query

/-- **The comparisons of a field with digits go together.** For every key and all settings, each
comparison with one or more digits, negated or not, is compiled, and at every moment the answers about
a record are coherent: they depend on the field as a number alone, which is on one side of the digits or
on the other, and greater digits have more numbers below them.

**Proof sketch.** The digits are read as the number nearest to their value (`IsDigits.isNumeral`), and
places in the order of numbers are compared (`coherentThresholds_any`). -/
theorem thresholds_coherent {key : String} (hkey : IsWord key) (s : Settings) :
    ∃ q : Bool → Comparison → String → Query,
      (∀ negated c d, IsDigits d →
        compile s (Tree.numberText negated key c d) = .ok (q negated c d)) ∧
      ∀ now record, CoherentThresholds (record.number? key) fun negated c d =>
        (q negated c d).selects now record := by
  refine ⟨fun negated c d => ⟨Tree.numberText negated key c d,
    (Tree.number key c negated (threshold d)).predicate s, []⟩, fun negated c d hd => ?_,
    fun now record => coherentThresholds_any (record.number? key)⟩
  rw [compile, Tree.ofText_numberText hkey hd.isNumeral c negated]
  rfl

/-- A text with blanks around a number is neither below nor above the number, and below digits that are
rounded to infinity. -/
theorem thresholds_coherent_text :
    let record : Record := [("k", .text " 42 ")]
    IsWord "k" ∧ IsDigits "042" ∧ IsDigits ("1" ++ zeros 400) ∧
      record.number? "k" = some (threshold "42") ∧
      threshold ("1" ++ zeros 400) = .real false infinity ∧
      ∃ least most q, compile {} "k>=042" = .ok least ∧ compile {} "k<=042" = .ok most ∧
        compile {} (Tree.numberText false "k" .atMost ("1" ++ zeros 400)) = .ok q ∧
        ∀ now, least.selects now record = true ∧ most.selects now record = true ∧
          q.selects now record = true := by
  intro record
  have hkey : IsWord "k" := ⟨by simp, by simp; decide, by simp, by simp; decide⟩
  have hshort : IsDigits "042" := ⟨by simp, by simp; decide⟩
  obtain ⟨hlong, hvalue⟩ := isDigits_one_zeros 400
  generalize "1" ++ zeros 400 = long at *
  have hinfinite : 2 ^ 1024 ≤ 10 ^ 400 := by decide +kernel
  have hview : record.number? "k" = some (threshold "42") := by decide +kernel
  have hle : digitsValue "042".toList ≤ digitsValue long.toList := by
    rw [hvalue]
    decide +kernel
  obtain ⟨q, hcompile, hcoherent⟩ := thresholds_coherent hkey {}
  have hleast := hcompile false .atLeast "042" hshort
  have hmost := hcompile false .atMost "042" hshort
  rw [show Tree.numberText false "k" .atLeast "042" = "k>=042" by decide +kernel] at hleast
  rw [show Tree.numberText false "k" .atMost "042" = "k<=042" by decide +kernel] at hmost
  refine ⟨hkey, hshort, hlong, hview, ?_, _, _, _, hleast, hmost, hcompile _ _ _ hlong, fun now => ?_⟩
  · rw [threshold, Number.ofNat, hvalue, nearest_eq_infinity hinfinite]
  · obtain ⟨-, -, hequal⟩ := (hcoherent now record).number "042" hshort _ hview nofun
    obtain ⟨hleast, hmost⟩ := hequal.2 (by decide +kernel)
    exact ⟨hleast, hmost, (hcoherent now record).below _ _ hshort hlong hle _ (.inr rfl) hmost⟩

end Query

end RecordQuery
