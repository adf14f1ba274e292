import Mathlib.Data.Nat.Digits.Defs
import RecordQuery.Json.Text
import RecordQuery.Proofs.Json.Reading
import RecordQuery.Proofs.Text.Digits

set_option autoImplicit false

/-!
# Whole numbers in JSON texts

The digits of a whole number of 64 bits are read one after the other as what they stand for, so the
number is read back from its text.

## Main definitions

* `RecordQuery.Json.taken` — how many of the digits in front of a text are taken.
* `RecordQuery.Json.readBehind` — what follows the digits in front of the point.

## Main results

* `RecordQuery.Json.readNumber_eq` — a number is digits and what follows them.
* `RecordQuery.Json.reads_integer` — whole numbers of 64 bits are read back.
-/

namespace RecordQuery.Json

/-! ## Digits -/

/-- Characters behind the blank are no white space. -/
theorem isSpace_of_lt {c : Char} (h : 0x20 < c.toNat) : Cursor.isSpace c = false := by
  by_contra hspace
  simp only [Cursor.isSpace, Bool.not_eq_false, Bool.or_eq_true, decide_eq_true_eq] at hspace
  rcases hspace with ((rfl | rfl) | rfl) | rfl <;> exact absurd h (by decide)

/-- Digits stand behind the blank. -/
theorem lt_of_isDigit {c : Char} (h : isDigit c = true) : 0x20 < c.toNat :=
  lt_of_lt_of_le (by decide) ((isDigit_iff c).1 h).1

/-- Digits are taken as the number they stand for while it does not exceed the limit. -/
theorem takeDigits_of_le {limit n : Nat} {ds : List Char} (hds : ∀ c ∈ ds, isDigit c = true)
    (hle : Nat.ofDigitChars 10 ds n ≤ limit) :
    takeDigits limit n ds = (Nat.ofDigitChars 10 ds n, []) := by
  induction ds generalizing n with
  | nil => rfl
  | cons c ds ih =>
    rw [Nat.ofDigitChars_cons] at hle ⊢
    have hm : 10 * n + (c.toNat - '0'.toNat) ≤ limit := by
      refine le_trans ?_ hle
      rw [Nat.ofDigitChars_eq_ofDigitChars_zero]
      exact le_add_right (Nat.le_mul_of_pos_left _ (by positivity))
    rw [takeDigits, if_pos ⟨hds c List.mem_cons_self, hm⟩]
    exact ih (fun d hd => hds d (List.mem_cons_of_mem _ hd)) hle

/-- The same digits are taken if something else than a digit follows. -/
theorem takeDigits_append {b : List Char} (hb : ∀ c ∈ b.head?, isDigit c = false) (limit n : Nat)
    (cs : List Char) :
    takeDigits limit n (cs ++ b) =
      ((takeDigits limit n cs).1, (takeDigits limit n cs).2 ++ b) := by
  induction cs generalizing n with
  | nil =>
    cases b with
    | nil => rfl
    | cons c b => simp [takeDigits, hb c rfl]
  | cons c cs ih =>
    simp only [List.cons_append, takeDigits]
    split
    · exact ih _
    · rfl

/-- What is not taken is the end of the text. -/
theorem takeDigits_suffix (limit n : Nat) (cs : List Char) : (takeDigits limit n cs).2 <:+ cs := by
  induction cs generalizing n with
  | nil => exact List.suffix_rfl
  | cons c cs ih =>
    rw [takeDigits]
    split
    · exact (ih _).trans (List.suffix_cons c cs)
    · exact List.suffix_rfl

/-- The number that is taken does not exceed the limit. -/
theorem takeDigits_le {limit n : Nat} (h : n ≤ limit) (cs : List Char) :
    (takeDigits limit n cs).1 ≤ limit := by
  induction cs generalizing n with
  | nil => exact h
  | cons c cs ih =>
    rw [takeDigits]
    split
    · rename_i hm
      exact ih hm.2
    · exact h

/-- A number has a first digit, which is a zero for zero only. -/
theorem exists_toDigits_eq_cons (n : Nat) :
    ∃ c cs, Nat.toDigits 10 n = c :: cs ∧ isDigit c = true ∧ (c = '0' → cs = []) := by
  induction n using Nat.strong_induction_on with
  | _ n ih =>
    rcases Nat.lt_or_ge n 10 with hlt | hge
    · have hdigits := Nat.toDigits_of_lt_base hlt
      have hmem : n.digitChar ∈ Nat.toDigits 10 n := by rw [hdigits]; exact List.mem_cons_self
      exact ⟨n.digitChar, [], hdigits, isDigit_of_mem_toDigits hmem, fun _ => rfl⟩
    · obtain ⟨c, cs, hdigits, hc, hzero⟩ := ih (n / 10) (Nat.div_lt_self (by omega) (by decide))
      refine ⟨c, cs ++ [(n % 10).digitChar], ?_, hc, fun hc0 => ?_⟩
      · rw [Nat.toDigits_of_base_le (by decide) hge, hdigits, List.cons_append]
      -- the digits before the last one would stand for zero
      · rw [hc0, hzero hc0] at hdigits
        have hvalue := @Nat.ofDigitChars_ten_toDigits (n / 10)
        rw [hdigits] at hvalue
        have hten : n / 10 = 0 := hvalue.symm
        omega

/-! ## What may follow a number -/

section EndsNumber

variable {b : List Char} (hb : EndsNumber b)
include hb

theorem EndsNumber.isDigit_eq_false : ∀ c ∈ b.head?, isDigit c = false := fun c hc => (hb c hc).1

theorem EndsNumber.takeWhile_isDigit : b.takeWhile isDigit = [] := by
  cases b with
  | nil => rfl
  | cons c b => simp [hb.isDigit_eq_false c rfl]

/-- No point and no exponent begins behind a number. -/
theorem EndsNumber.head?_ne {c : Char} (hc : c = '.' ∨ c = 'e' ∨ c = 'E') : b.head? ≠ some c := by
  intro hhead
  obtain ⟨-, hpoint, he, hE⟩ := hb c hhead
  rcases hc with rfl | rfl | rfl <;> contradiction

end EndsNumber

/-! ## The parts of a number -/

/-- How many of the digits in front of a text are taken. -/
def taken (limit start : Nat) (cs : List Char) : Nat :=
  cs.length - (takeDigits limit start cs).2.length

/-- Reads what follows the digits in front of the point; `extra` of them did not fit. -/
def readBehind (negative : Bool) (digits extra : Nat) (k : Cursor) :
    Except Fault (Json × Cursor) :=
  match k.rest with
  | '.' :: _ => readFraction negative digits extra k
  | 'e' :: _ => readExponent negative digits extra k
  | 'E' :: _ => readExponent negative digits extra k
  | _ =>
    if extra = 0 then .ok (wholeNumber negative digits, k)
    else finishNumber negative digits extra k

/-- A number without its sign is digits and what follows them. -/
theorem readNumber_eq (negative : Bool) {k : Cursor} {c : Char} {cs : List Char}
    (hk : k.rest = c :: cs) (hc : isDigit c = true)
    (hzero : ¬(c = '0' ∧ (cs.head?.map isDigit).getD false = true)) :
    readNumber negative k =
      readBehind negative (takeDigits maxWhole 0 k.rest).1
        ((takeDigits maxWhole 0 k.rest).2.takeWhile isDigit).length
        (k.skip (taken maxWhole 0 k.rest +
          ((takeDigits maxWhole 0 k.rest).2.takeWhile isDigit).length)) := by
  unfold readNumber
  split
  · rename_i hnil
    rw [hnil] at hk
    cases hk
  · rename_i d ds hsplit
    obtain ⟨rfl, rfl⟩ := List.cons.inj (hk.symm.trans hsplit)
    rw [if_neg hzero, if_pos hc]
    rfl

/-- A number without its sign begins with a digit, which is no zero in front of another one. -/
theorem isDigit_of_readNumber {negative : Bool} {k : Cursor} {c : Char} {cs : List Char}
    (hk : k.rest = c :: cs) {r : Json × Cursor} (h : readNumber negative k = .ok r) :
    isDigit c = true ∧ ¬(c = '0' ∧ (cs.head?.map isDigit).getD false = true) := by
  have hzero : ¬(c = '0' ∧ (cs.head?.map isDigit).getD false = true) := by
    intro hzero
    simp [readNumber, hk, hzero] at h
  refine ⟨?_, hzero⟩
  by_contra hc
  simp only [readNumber, hk, hzero, hc, if_false] at h
  cases h

/-- What follows the digits depends on the next character. -/
theorem readBehind_eq (negative : Bool) (digits extra : Nat) (k : Cursor) :
    readBehind negative digits extra k =
      if k.rest.head? = some '.' then readFraction negative digits extra k
      else if k.rest.head? = some 'e' ∨ k.rest.head? = some 'E' then
        readExponent negative digits extra k
      else if extra = 0 then .ok (wholeNumber negative digits, k)
      else finishNumber negative digits extra k := by
  unfold readBehind
  split <;> simp_all [List.head?_eq_some_iff]

/-! ## Whole numbers -/

/-- The digits of a number of 64 bits are read as that number. -/
theorem exists_readNumber {n : Nat} (hn : n ≤ maxWhole) {rest : List Char} (hrest : EndsNumber rest)
    {k : Cursor} (hk : k.rest = Nat.toDigits 10 n ++ rest) (negative : Bool) :
    ∃ behind, readNumber negative k = .ok (wholeNumber negative n, behind) ∧
      behind.rest = rest := by
  have htake : takeDigits maxWhole 0 k.rest = (n, rest) := by
    rw [hk, takeDigits_append hrest.isDigit_eq_false,
      takeDigits_of_le fun c hc => isDigit_of_mem_toDigits hc] <;> simp [hn]
  obtain ⟨c, cs, hdigits, hc, hzero⟩ := exists_toDigits_eq_cons n
  have hlead : ¬(c = '0' ∧ ((cs ++ rest).head?.map isDigit).getD false = true) := by
    rintro ⟨rfl, hhead⟩
    rw [hzero rfl, List.nil_append] at hhead
    cases rest with
    | nil => cases hhead
    | cons d rest =>
      rw [List.head?_cons, Option.map_some, Option.getD_some, hrest.isDigit_eq_false d rfl] at hhead
      cases hhead
  have hskip : (k.skip (taken maxWhole 0 k.rest)).rest = rest := by
    rw [Cursor.rest_skip, taken, htake, hk]
    simp
  refine ⟨k.skip (taken maxWhole 0 k.rest), ?_, hskip⟩
  rw [readNumber_eq negative (by rw [hk, hdigits, List.cons_append]) hc hlead, htake,
    hrest.takeWhile_isDigit, readBehind_eq, List.length_nil, Nat.add_zero]
  simp only [hskip, hrest.head?_ne (.inl rfl), hrest.head?_ne (.inr (.inl rfl)),
    hrest.head?_ne (.inr (.inr rfl)), or_self, if_false, if_true]

/-- A value that begins with a digit is a number. -/
theorem readValue_digit {depth : Nat} {k : Cursor} {c : Char} {cs : List Char}
    (h : k.skipSpace.rest = c :: cs) (hc : isDigit c = true) :
    readValue depth k = readNumber false k.skipSpace := by
  have hne : ∀ d, isDigit d = false → c ≠ d := by
    rintro d hd rfl
    rw [hc] at hd
    cases hd
  simp [readValue_cons h, hc, hne 'n' (by decide), hne 't' (by decide), hne 'f' (by decide),
    hne '-' (by decide)]

/-- A value that begins with a minus sign is a number. -/
theorem readValue_minus {depth : Nat} {k : Cursor} {cs : List Char}
    (h : k.skipSpace.rest = '-' :: cs) : readValue depth k = readNumber true k.skipSpace.next := by
  simp [readValue_cons h]

/-- **A whole number of 64 bits is read back** where no longer number begins. -/
theorem reads_integer {n : Int} (hlow : -0x8000000000000000 ≤ n) (hhigh : n ≤ maxWhole)
    {rest : List Char} (hrest : EndsNumber rest) (depth : Nat) :
    Reads (readValue depth) (write (.integer n)) rest (.integer n) := by
  intro k hk
  rw [write, Int.toString_eq_repr, Int.repr_eq_if] at hk
  split at hk
  · rename_i hn
    rw [Nat.toList_repr] at hk
    obtain ⟨c, cs, hdigits, hc, -⟩ := exists_toDigits_eq_cons n.toNat
    have hskip : k.skipSpace.rest = Nat.toDigits 10 n.toNat ++ rest := by
      rw [hdigits, List.cons_append] at hk ⊢
      exact Cursor.rest_skipSpace_of_cons hk (isSpace_of_lt (lt_of_isDigit hc))
    obtain ⟨behind, hread, hbehind⟩ := exists_readNumber (by omega) hrest hskip false
    refine ⟨behind, ?_, hbehind⟩
    rw [hdigits, List.cons_append] at hskip
    rw [readValue_digit hskip hc, hread, wholeNumber]
    simp [hn]
  · rename_i hn
    rw [String.toList_append, Nat.toList_repr] at hk
    have hskip : k.skipSpace.rest = '-' :: (Nat.toDigits 10 (-n).toNat ++ rest) :=
      Cursor.rest_skipSpace_of_cons hk (by decide)
    obtain ⟨behind, hread, hbehind⟩ := exists_readNumber (n := (-n).toNat) (k := k.skipSpace.next)
      (by simp only [maxWhole]; omega) hrest (by simp [hskip]) true
    refine ⟨behind, ?_, hbehind⟩
    have hwhole : wholeNumber true (-n).toNat = .integer n := by
      rw [wholeNumber, if_neg (by simp), if_neg (by omega)]
      congr 1
      omega
    rw [readValue_minus hskip, hread, hwhole]

end RecordQuery.Json
