import Mathlib.Data.List.Induction
import RecordQuery.Number.Whole
import RecordQuery.Proofs.Text.Digits

set_option autoImplicit false

/-!
# Texts that are numbers

Which texts are whole numbers of 64 bits, and what texts that are numbers of any kind start with. A name
starts with neither a digit nor a sign nor a point, and so it is a number only if it is one of the words
for numbers that no digits stand for.

## Main definitions

* `RecordQuery.IsWhole` — the texts that are whole numbers of 64 bits.
* `RecordQuery.IsNumberHead` — the characters that numbers start with, words apart.

## Main results

* `RecordQuery.readInteger?_ten_eq_some_iff` — these are the texts that are read as whole numbers.
* `RecordQuery.Number.isNumberWord_or_head_of_read?` — a text that is read as a number is a word for one or
  starts as one.
-/

namespace RecordQuery

/-! ## Whole numbers -/

/-- The texts that are whole numbers of 64 bits: digits, perhaps behind a sign. -/
inductive IsWhole : List Char → Int → Prop
  | plain {ds : List Char} (hne : ds ≠ []) (hds : ∀ c ∈ ds, isDigit c = true)
      (hlt : digitsValue ds < 2 ^ 63) : IsWhole ds (digitsValue ds)
  | plus {ds : List Char} (hne : ds ≠ []) (hds : ∀ c ∈ ds, isDigit c = true)
      (hlt : digitsValue ds < 2 ^ 63) : IsWhole ('+' :: ds) (digitsValue ds)
  | minus {ds : List Char} (hne : ds ≠ []) (hds : ∀ c ∈ ds, isDigit c = true)
      (hle : digitsValue ds ≤ 2 ^ 63) : IsWhole ('-' :: ds) (-(digitsValue ds : Int))

/-- Digits have no sign. -/
theorem splitSign_of_isDigit {c : Char} (hc : isDigit c = true) (cs : List Char) :
    splitSign (c :: cs) = (false, c :: cs) := by
  have hne (d : Char) (hd : isDigit d = false) : c ≠ d := by
    rintro rfl
    rw [hc] at hd
    cases hd
  simp [splitSign, hne '-' (by decide), hne '+' (by decide)]

/-- A decimal digit is a hexadecimal digit with the same value. -/
theorem hexDigit?_of_isDigit {c : Char} (hc : isDigit c = true) :
    hexDigit? c = some (c.toNat - '0'.toNat) := by
  have hrange : '0' ≤ c ∧ c ≤ '9' := by simpa [isDigit] using hc
  rw [hexDigit?, if_pos hrange]

/-- The other hexadecimal digits stand for ten and more. -/
theorem ten_le_of_hexDigit? {c : Char} (hc : isDigit c = false) {d : Nat}
    (hd : hexDigit? c = some d) : 10 ≤ d := by
  have hrange : ¬('0' ≤ c ∧ c ≤ '9') := by simpa [isDigit] using hc
  rw [hexDigit?, if_neg hrange] at hd
  split at hd
  · obtain rfl := Option.some.inj hd
    exact Nat.le_add_left _ _
  split at hd
  · obtain rfl := Option.some.inj hd
    exact Nat.le_add_left _ _
  · cases hd

/-- One more digit behind others. -/
theorem digitsValueIn?_append_singleton (base : Nat) (ds : List Char) (c : Char) :
    digitsValueIn? base (ds ++ [c]) =
      match digitsValueIn? base ds, hexDigit? c with
      | some n, some d => if d < base then some (base * n + d) else none
      | _, _ => none := by
  unfold digitsValueIn?
  exact List.foldl_append

/-- **In base ten, decimal digits stand for their value and other characters for nothing.** -/
theorem digitsValueIn?_ten (ds : List Char) :
    digitsValueIn? 10 ds = if ds.all isDigit then some (digitsValue ds) else none := by
  induction ds using List.reverseRecOn with
  | nil => rfl
  | append_singleton ds c ih =>
    have hvalue : digitsValue (ds ++ [c]) = 10 * digitsValue ds + (c.toNat - '0'.toNat) := by
      simp [digitsValue]
    rw [digitsValueIn?_append_singleton, ih, hvalue, List.all_append]
    cases hc : isDigit c with
    | true =>
      have hlt : c.toNat - 48 < 10 := by
        have hbounds := (isDigit_iff c).1 hc
        omega
      cases hds : ds.all isDigit with
      | false => simp
      | true => simp [hexDigit?_of_isDigit hc, hc, hlt]
    | false =>
      -- the character is no digit, or one that stands for ten or more
      have hlarge (d : Nat) (hd : hexDigit? c = some d) : ¬d < 10 :=
        Nat.not_lt.2 (ten_le_of_hexDigit? hc hd)
      cases hd : hexDigit? c with
      | none => cases ds.all isDigit <;> simp [hc]
      | some d => cases ds.all isDigit <;> simp [hc, hlarge d hd]

/-- A magnitude with a sign is a number of 64 bits, or none. -/
theorem ofSigned?_eq_some_iff {negative : Bool} {m : Nat} {n : Int} :
    ofSigned? negative m = some n ↔
      if negative then m ≤ 2 ^ 63 ∧ -(m : Int) = n else m < 2 ^ 63 ∧ (m : Int) = n := by
  cases negative <;> simp [ofSigned?]

/-- What is behind the sign of a whole number is digits. -/
theorem readInteger?_of_splitSign {cs ds : List Char} {negative : Bool} {n : Int}
    (hsign : splitSign cs = (negative, ds)) :
    readInteger? 10 cs = some n ↔ ds ≠ [] ∧ (∀ c ∈ ds, isDigit c = true) ∧
      ofSigned? negative (digitsValue ds) = some n := by
  have hread : readInteger? 10 cs =
      if ds.isEmpty then none else (digitsValueIn? 10 ds).bind (ofSigned? negative) := by
    unfold readInteger?
    rw [hsign]
  rw [hread, digitsValueIn?_ten]
  by_cases hds : ds.all isDigit = true
  · have hall : ∀ c ∈ ds, isDigit c = true := List.all_eq_true.1 hds
    rw [if_pos hds]
    simp [iff_true_intro hall]
  · have hother : ¬∀ c ∈ ds, isDigit c = true := fun hall => hds (List.all_eq_true.2 hall)
    rw [if_neg hds]
    simp [hother]

/-- **The texts that are read as whole numbers** are digits, perhaps behind a sign, for numbers of 64
bits. -/
theorem readInteger?_ten_eq_some_iff {cs : List Char} {n : Int} :
    readInteger? 10 cs = some n ↔ IsWhole cs n := by
  constructor
  · intro h
    obtain ⟨negative, ds, hsign⟩ : ∃ negative ds, splitSign cs = (negative, ds) := ⟨_, _, rfl⟩
    obtain ⟨hne, hds, hn⟩ := (readInteger?_of_splitSign hsign).1 h
    rw [ofSigned?_eq_some_iff] at hn
    unfold splitSign at hsign
    split at hsign
    · cases hsign
      obtain ⟨hle, rfl⟩ := hn
      exact .minus hne hds hle
    · cases hsign
      obtain ⟨hlt, rfl⟩ := hn
      exact .plus hne hds hlt
    · cases hsign
      obtain ⟨hlt, rfl⟩ := hn
      exact .plain hne hds hlt
  · intro h
    cases h with
    | @plain ds hne hds hlt =>
      obtain ⟨d, ds, rfl⟩ := List.exists_cons_of_ne_nil hne
      have hsign := splitSign_of_isDigit (hds d List.mem_cons_self) ds
      exact (readInteger?_of_splitSign hsign).2 ⟨hne, hds, ofSigned?_eq_some_iff.2 ⟨hlt, rfl⟩⟩
    | plus hne hds hlt =>
      exact (readInteger?_of_splitSign rfl).2 ⟨hne, hds, ofSigned?_eq_some_iff.2 ⟨hlt, rfl⟩⟩
    | minus hne hds hle =>
      exact (readInteger?_of_splitSign rfl).2 ⟨hne, hds, ofSigned?_eq_some_iff.2 ⟨hle, rfl⟩⟩

/-- A text that is no whole number is not read as one. -/
theorem readInteger?_ten_eq_none {cs : List Char} (h : ∀ n, ¬IsWhole cs n) :
    readInteger? 10 cs = none :=
  Option.eq_none_iff_forall_not_mem.2 fun n hn => h n (readInteger?_ten_eq_some_iff.1 hn)

/-! ## What numbers start with -/

/-- The characters that numbers start with, words apart. -/
def IsNumberHead (c : Char) : Prop := isDigit c = true ∨ c = '+' ∨ c = '-' ∨ c = '.'

instance (c : Char) : Decidable (IsNumberHead c) :=
  inferInstanceAs (Decidable (isDigit c = true ∨ c = '+' ∨ c = '-' ∨ c = '.'))

/-- The words for numbers that no digits stand for, in lower case. -/
def numberWords : List (List Char) := ["nan".toList, "inf".toList, "infinity".toList]

/-- A whole number starts as numbers do. -/
theorem IsWhole.exists_head {cs : List Char} {n : Int} (h : IsWhole cs n) :
    ∃ c ∈ cs.head?, IsNumberHead c := by
  cases h with
  | plain hne hds hlt =>
    obtain ⟨d, ds, rfl⟩ := List.exists_cons_of_ne_nil hne
    exact ⟨d, rfl, .inl (hds d List.mem_cons_self)⟩
  | plus => exact ⟨'+', rfl, .inr (.inl rfl)⟩
  | minus => exact ⟨'-', rfl, .inr (.inr (.inl rfl))⟩

namespace Number

/-- A text that is read as a number without a sign starts with a digit or a point. -/
theorem exists_head_of_readMagnitude? {cs : List Char} {m : Magnitude}
    (h : readMagnitude? cs = some m) : ∃ c ∈ cs.head?, IsNumberHead c := by
  obtain ⟨d, hd, -⟩ := Option.map_eq_some_iff.1 h
  cases cs with
  | nil => cases hd
  | cons c cs =>
    refine ⟨c, rfl, ?_⟩
    by_contra hhead
    obtain ⟨hdigit, -, -, hpoint⟩ : isDigit c = false ∧ c ≠ '+' ∧ c ≠ '-' ∧ c ≠ '.' := by
      simpa [IsNumberHead] using hhead
    -- there are digits neither here nor behind a point
    have hnone : readDecimal? (c :: cs) = none := by
      simp [readDecimal?, hdigit, hpoint]
    rw [hnone] at hd
    cases hd

/-- **A text that is read as a number is a word for one or starts as one.** -/
theorem isNumberWord_or_head_of_read? {cs : List Char} {x : Number} (h : read? cs = some x) :
    cs.map lowerAscii ∈ numberWords ∨ ∃ c ∈ cs.head?, IsNumberHead c := by
  obtain ⟨negative, rest, hsplit⟩ : ∃ negative rest, splitSign cs = (negative, rest) :=
    ⟨_, _, rfl⟩
  have hsign := hsplit
  unfold splitSign at hsign
  split at hsign
  · exact .inr ⟨'-', rfl, .inr (.inr (.inl rfl))⟩
  · exact .inr ⟨'+', rfl, .inr (.inl rfl)⟩
  · cases hsign
    unfold read? at h
    rw [hsplit] at h
    dsimp only at h
    split at h
    · rename_i hword
      exact .inl (by simp [numberWords, hword])
    split at h
    · rename_i hword
      exact .inl (by rcases hword with hword | hword <;> simp [numberWords, hword])
    · obtain ⟨m, hm, -⟩ := Option.map_eq_some_iff.1 h
      exact .inr (exists_head_of_readMagnitude? hm)

end Number

end RecordQuery
