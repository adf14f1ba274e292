import RecordQuery.Text.Ascii
import RecordQuery.Text.Lower

set_option autoImplicit false

/-!
# Lower case and the letters of ASCII

A text in lower case does not tell in which case its ASCII letters were written. Letters are not lowered
one by one: whether a capital sigma ends a word depends on the characters around it, on which of them have
case and which are passed over. An ASCII letter has case, in both of its forms, and is not passed over.

## Main definitions

* `RecordQuery.Text.SameLetters` — the same text but for the case of ASCII letters.

## Main results

* `RecordQuery.Text.lowerFrom_map_lowerAscii` — ASCII letters can be lowered first.
* `RecordQuery.Text.SameLetters.lower_eq` — the same letters are the same text in lower case.
-/

namespace RecordQuery

/-! ## ASCII letters -/

/-- Only the 26 capital letters are changed. -/
theorem lowerAscii_of_not_capital {c : Char} (h : ¬('A' ≤ c ∧ c ≤ 'Z')) : lowerAscii c = c :=
  if_neg h

/-- A capital letter is `32` code points before the letter in lower case. -/
theorem toNat_lowerAscii {c : Char} (h : 'A' ≤ c ∧ c ≤ 'Z') :
    0x41 ≤ c.toNat ∧ c.toNat ≤ 0x5A ∧ (lowerAscii c).toNat = c.toNat + 32 := by
  have hlow : 0x41 ≤ c.toNat := h.1
  have hhigh : c.toNat ≤ 0x5A := h.2
  have hvalid : (c.toNat + 32).isValidChar := Or.inl (by omega)
  refine ⟨hlow, hhigh, ?_⟩
  rw [lowerAscii, if_pos h, Char.ofNat, dif_pos hvalid]
  rfl

namespace Unicode

/-- Whether a range holds no ASCII letter. -/
def avoidsLetters (r : Nat × Nat) : Bool :=
  (r.2 < 0x41 || 0x5A < r.1) && (r.2 < 0x61 || 0x7A < r.1)

/-- Ranges on several lines hold no ASCII letter if those of each line do not. -/
theorem all_avoidsLetters_ofLines_cons {cs : List Char} {lines : List String}
    (hline : (CodeSet.readRanges cs none 0).all avoidsLetters = true)
    (hlines : (CodeSet.ofLines lines).ranges.all avoidsLetters = true) :
    (CodeSet.ofLines (String.ofList cs :: lines)).ranges.all avoidsLetters = true := by
  simp only [CodeSet.ofLines, List.flatMap_cons, String.toList_ofList, List.all_append, hline,
    Bool.true_and] at hlines ⊢
  exact hlines

/-- The characters that are passed over include no ASCII letter. -/
theorem all_avoidsLetters_caseIgnorable : caseIgnorable.ranges.all avoidsLetters = true := by
  have hnamed : ∃ s, Table.binaryProperties.find? (·.name == "Case_Ignorable") = some s ∧
      s.codes.ranges.all avoidsLetters = true := by
    refine ⟨_, rfl, ?_⟩
    unfold NamedSet.codes
    -- line by line, since the ranges of the whole table are too many to be read at once
    repeat (apply all_avoidsLetters_ofLines_cons; · decide +kernel)
    rfl
  obtain ⟨s, hs, hall⟩ := hnamed
  simp only [caseIgnorable, binaryCodes, codesNamed, hs]
  exact hall

/-- An ASCII letter is in no range that avoids them. -/
theorem contains_eq_false_of_avoidsLetters {s : CodeSet} (h : s.ranges.all avoidsLetters = true)
    {c : Nat} (hc : (0x41 ≤ c ∧ c ≤ 0x5A) ∨ (0x61 ≤ c ∧ c ≤ 0x7A)) : s.contains c = false := by
  rw [CodeSet.contains, List.any_eq_false]
  intro r hr hmem
  have hr' := List.all_eq_true.1 h r hr
  simp only [avoidsLetters, Bool.and_eq_true, Bool.or_eq_true, decide_eq_true_eq] at hr' hmem
  omega

end Unicode

namespace Text

open Unicode

/-! ## Neighbours of a sigma -/

/-- Whether a character is passed over does not depend on the case of ASCII letters. -/
theorem isCaseIgnorable_lowerAscii (c : Char) : isCaseIgnorable (lowerAscii c) = isCaseIgnorable c := by
  by_cases hc : 'A' ≤ c ∧ c ≤ 'Z'
  · obtain ⟨hlow, hhigh, hlower⟩ := toNat_lowerAscii hc
    rw [isCaseIgnorable, isCaseIgnorable,
      contains_eq_false_of_avoidsLetters all_avoidsLetters_caseIgnorable (by omega),
      contains_eq_false_of_avoidsLetters all_avoidsLetters_caseIgnorable (by omega)]
  · rw [lowerAscii_of_not_capital hc]

/-- Whether a character has case does not depend on the case of ASCII letters. -/
theorem isCased_lowerAscii (c : Char) : isCased (lowerAscii c) = isCased c := by
  by_cases hc : 'A' ≤ c ∧ c ≤ 'Z'
  · obtain ⟨hlow, hhigh, hlower⟩ := toNat_lowerAscii hc
    have hupper : c.isAlpha = true := Bool.or_eq_true_iff.2 (.inl (decide_eq_true hc))
    have hfirst : 0x61 ≤ (lowerAscii c).toNat := by omega
    have hlast : (lowerAscii c).toNat ≤ 0x7A := by omega
    have hsmall : (lowerAscii c).isLower = true :=
      Bool.and_eq_true_iff.2 ⟨decide_eq_true hfirst, decide_eq_true hlast⟩
    have hletter : (lowerAscii c).isAlpha = true := Bool.or_eq_true_iff.2 (.inr hsmall)
    rw [isCased, isCased, if_pos (by omega), if_pos (by omega), hupper, hletter]
  · rw [lowerAscii_of_not_capital hc]

/-- Whether the first character that is not passed over has case does not depend on the case of ASCII
letters. -/
theorem startsCased_map_lowerAscii (cs : List Char) :
    startsCased (cs.map lowerAscii) = startsCased cs := by
  have hpassed : isCaseIgnorable ∘ lowerAscii = isCaseIgnorable :=
    funext isCaseIgnorable_lowerAscii
  rw [startsCased, startsCased, List.dropWhile_map, hpassed]
  cases cs.dropWhile isCaseIgnorable with
  | nil => rfl
  | cons c cs => exact isCased_lowerAscii c

/-- Whether a capital sigma ends a word does not depend on the case of ASCII letters. -/
theorem isFinalSigma_map_lowerAscii (before after : List Char) :
    isFinalSigma (before.map lowerAscii) (after.map lowerAscii) = isFinalSigma before after := by
  rw [isFinalSigma, isFinalSigma, startsCased_map_lowerAscii, startsCased_map_lowerAscii]

/-! ## Texts -/

/-- An ASCII character is lowered by itself. -/
theorem lowerAt_of_lt {c : Char} (hc : c.toNat < 0x80) (before after : List Char) :
    lowerAt before c after = [Char.ofNat (lowerCode c.toNat)] := by
  have hne (d : Char) (hd : 0x80 ≤ d.toNat) : c ≠ d := by
    rintro rfl
    omega
  rw [lowerAt, if_neg (hne _ (by decide)), if_neg (hne _ (by decide))]

/-- A character in front of the letters is its own lower case. -/
theorem lowerAt_of_lt_letters {c : Char} (hc : c.toNat < 0x41) (before after : List Char) :
    lowerAt before c after = [c] := by
  rw [lowerAt_of_lt (by omega), lowerCode, if_pos (by omega), if_neg (by omega), Char.ofNat_toNat]

/-- A letter of ASCII has the same lower case as its lower case. -/
theorem lowerCode_lowerAscii {c : Char} (hc : 'A' ≤ c ∧ c ≤ 'Z') :
    lowerCode (lowerAscii c).toNat = lowerCode c.toNat := by
  obtain ⟨hlow, hhigh, hlower⟩ := toNat_lowerAscii hc
  have hcapital : lowerCode c.toNat = c.toNat + 32 := by
    rw [lowerCode, if_pos (by omega), if_pos ⟨hlow, hhigh⟩]
  have hsmall : lowerCode (lowerAscii c).toNat = (lowerAscii c).toNat := by
    rw [lowerCode, if_pos (by omega), if_neg (by omega)]
  rw [hcapital, hsmall, hlower]

/-- A character can have its ASCII letters lowered first, together with the characters around it. -/
theorem lowerAt_lowerAscii (before : List Char) (c : Char) (after : List Char) :
    lowerAt (before.map lowerAscii) (lowerAscii c) (after.map lowerAscii) =
      lowerAt before c after := by
  by_cases hc : 'A' ≤ c ∧ c ≤ 'Z'
  · -- the characters around a letter of ASCII do not matter
    obtain ⟨hlow, hhigh, hlower⟩ := toNat_lowerAscii hc
    rw [lowerAt_of_lt (by omega), lowerAt_of_lt (by omega), lowerCode_lowerAscii hc]
  · rw [lowerAscii_of_not_capital hc, lowerAt, lowerAt, isFinalSigma_map_lowerAscii]

/-- **ASCII letters can be lowered first**, in the text and in what precedes it.

**Proof sketch.** Induction on the text. What precedes a character and what follows it matter to a
capital sigma only, and only by which characters have case and which are passed over. -/
theorem lowerFrom_map_lowerAscii (before cs : List Char) :
    lowerFrom (before.map lowerAscii) (cs.map lowerAscii) = lowerFrom before cs := by
  induction cs generalizing before with
  | nil => rfl
  | cons c after ih =>
    have hrest := ih (c :: before)
    rw [List.map_cons] at hrest
    rw [List.map_cons, lowerFrom, lowerFrom, lowerAt_lowerAscii, hrest]

/-- The same text but for the case of ASCII letters. -/
def SameLetters (s t : String) : Prop := s.toList.map lowerAscii = t.toList.map lowerAscii

instance (s t : String) : Decidable (SameLetters s t) :=
  inferInstanceAs (Decidable (s.toList.map lowerAscii = t.toList.map lowerAscii))

/-- **Texts with the same letters are the same in lower case.** -/
theorem SameLetters.lower_eq {s t : String} (h : SameLetters s t) : lower s = lower t := by
  have hs := lowerFrom_map_lowerAscii [] s.toList
  have ht := lowerFrom_map_lowerAscii [] t.toList
  rw [lower, lower, ← hs, ← ht, h]

end Text

end RecordQuery
