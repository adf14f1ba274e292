import Mathlib.Data.Nat.Digits.Defs
import Mathlib.Tactic.Ring
import RecordQuery.Text.Ascii

set_option autoImplicit false

/-!
# Runs of digits

The value of a run of decimal digits, and how it comes from the values of its parts.

## Main results

* `RecordQuery.digitsValue_append` — the value of two runs one after the other.
* `RecordQuery.digitsValue_lt` — a run of `n` digits stands for less than `10 ^ n`.
* `RecordQuery.digitsValue_toDigits` — the digits of a number stand for it.
-/

namespace RecordQuery

theorem isDigit_eq (c : Char) : isDigit c = c.isDigit := by
  simp [isDigit, Char.isDigit, Char.le_def, UInt32.le_iff_toNat_le]

theorem isDigit_of_mem_toDigits {n : Nat} {c : Char} (h : c ∈ Nat.toDigits 10 n) :
    isDigit c = true := by
  rw [isDigit_eq]
  exact Nat.isDigit_of_mem_toDigits (by decide) (by decide) h

/-- The codes of the digits follow each other. -/
theorem isDigit_iff (c : Char) : isDigit c = true ↔ 0x30 ≤ c.toNat ∧ c.toNat ≤ 0x39 := by
  rw [isDigit, Bool.and_eq_true, decide_eq_true_iff, decide_eq_true_iff]
  exact Iff.rfl

theorem digitsValue_eq (ds : List Char) : digitsValue ds = Nat.ofDigitChars 10 ds 0 :=
  Nat.ofDigitChars_eq_foldl.symm

@[simp]
theorem digitsValue_nil : digitsValue [] = 0 := rfl

/-- **The value of two runs one after the other.** -/
theorem digitsValue_append (ds es : List Char) :
    digitsValue (ds ++ es) = 10 ^ es.length * digitsValue ds + digitsValue es := by
  rw [digitsValue_eq, digitsValue_eq, digitsValue_eq, Nat.ofDigitChars_append,
    Nat.ofDigitChars_eq_ofDigitChars_zero]

theorem digitsValue_cons (c : Char) (ds : List Char) :
    digitsValue (c :: ds) = 10 ^ ds.length * (c.toNat - 0x30) + digitsValue ds := by
  rw [← List.singleton_append, digitsValue_append]
  simp [digitsValue]

/-- Zeros stand for nothing. -/
theorem digitsValue_replicate_zero (n : Nat) : digitsValue (List.replicate n '0') = 0 := by
  rw [digitsValue_eq, Nat.ofDigitChars_replicate_zero, Nat.mul_zero]

/-- **The digits of a number stand for it.** -/
theorem digitsValue_toDigits (n : Nat) : digitsValue (Nat.toDigits 10 n) = n := by
  rw [digitsValue_eq, Nat.ofDigitChars_ten_toDigits]

/-- **A run of `n` digits stands for less than `10 ^ n`.** -/
theorem digitsValue_lt {ds : List Char} (h : ∀ c ∈ ds, isDigit c = true) :
    digitsValue ds < 10 ^ ds.length := by
  induction ds with
  | nil => simp
  | cons c ds ih =>
    have hrest := ih fun d hd => h d (List.mem_cons_of_mem _ hd)
    have hc := (isDigit_iff c).1 (h c List.mem_cons_self)
    have hdigit : 10 ^ ds.length * (c.toNat - 0x30) ≤ 10 ^ ds.length * 9 :=
      Nat.mul_le_mul_left _ (by omega)
    rw [digitsValue_cons, List.length_cons, Nat.pow_succ]
    omega

end RecordQuery
