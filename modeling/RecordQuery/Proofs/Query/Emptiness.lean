import RecordQuery.Proofs.Query.Selections
import RecordQuery.Proofs.Query.Unmatched
import RecordQuery.Proofs.Text.Blank

set_option autoImplicit false

/-!
# Queries without selections

A query selects everything if it has no lexemes but blanks. Blanks are made of spaces, and characters
that start no lexeme are passed over, so such a query may consist of any characters of these two kinds:
of white space, but also of letters and signs that the language does not know. Every other query that
is parsed has a selection.

## Main results

* `RecordQuery.Lexeme.isFiller_of_isBlank` — white space starts no lexeme, but for the space.
* `RecordQuery.Lexeme.forall_isFiller_of_blanks` — a text that is cut into blanks is filler.
* `RecordQuery.Tree.IsPart.selections_ne_nil` — a part of a query has a selection.
* `RecordQuery.Tree.everything_iff_filler` — the queries that select everything.
-/

namespace RecordQuery

open Grammar Lexeme

/-! ## Filler -/

namespace Lexeme

variable {c : Char} {cs : List Char}

/-- The characters of words are no white space. -/
theorem isBlank_of_isWordChar (h : isWordChar c = true) : Text.isBlank c = false := by
  simp only [isWordChar, Bool.or_eq_true, decide_eq_true_eq, or_assoc] at h
  rcases h with h | rfl | rfl | rfl | rfl | rfl | rfl | rfl | rfl | rfl
  · have hbounds : 0x30 ≤ c.toNat ∧ c.toNat ≤ 0x7A := by
      simp only [Char.isAlphanum, Char.isAlpha, Char.isUpper, Char.isLower, Char.isDigit,
        Bool.or_eq_true, Bool.and_eq_true, decide_eq_true_eq, ge_iff_le,
        UInt32.le_iff_toNat_le, Char.toNat_val, Char.reduceToNat] at h
      omega
    simp only [Text.isBlank, Text.blankRanges, List.any_cons, List.any_nil, Bool.or_false,
      Bool.or_eq_false_iff, Bool.and_eq_false_iff, decide_eq_false_iff_not]
    omega
  all_goals decide

/-- **White space is filler**: no lexeme starts with it, but for the space. -/
theorem isFiller_of_isBlank (h : Text.isBlank c = true) : IsFiller c := by
  have hword : isWordChar c = false := by
    by_contra hword
    rw [isBlank_of_isWordChar (Bool.not_eq_false _ ▸ hword)] at h
    cases h
  by_cases hspace : c = ' '
  · exact .inl hspace
  · have hmarks : ∀ d ∈ ['-', '<', '>', ':', '(', ')', '/', '"'], Text.isBlank d = false := by
      simp [Text.isBlank, Text.blankRanges]
    refine .inr ⟨?_, hword⟩
    rw [List.mem_cons, not_or]
    refine ⟨hspace, fun hmem => ?_⟩
    rw [hmarks c hmem] at h
    cases h

/-- A blank is spelled by spaces. -/
theorem Spells.eq_space_of_blank (h : Spells cs .blank) : ∀ c ∈ cs, c = ' ' := by
  obtain ⟨c, cs', p, hcut, ht, rfl⟩ := h.exists_cut
  cases hcut with
  | blank =>
    refine List.forall_mem_cons.2 ⟨rfl, fun x hx => ?_⟩
    simpa using List.mem_takeWhile_imp hx
  | mark _ hmark =>
    cases ht
    simp at hmark
  | comparison =>
    unfold Piece.comparison at ht
    split at ht <;> cases ht
  | word =>
    have hword := Option.some.inj ht
    unfold wordToken at hword
    split at hword <;> cases hword
  | pattern | quoted | ignored => cases ht

/-- **A text that is cut into blanks is filler.** -/
theorem forall_isFiller_of_blanks {w : List Lexeme} {column : Nat}
    (h : ofTextFrom column cs = .ok w) (hw : Blanks w) : ∀ c ∈ cs, IsFiller c := by
  obtain ⟨tiles, hlaid, rfl, rfl⟩ := Tile.exists_laid h
  intro c hc
  obtain ⟨tile, hmem, hctile⟩ := List.mem_flatMap.1 hc
  cases tile with
  | ignored d =>
    obtain rfl := List.mem_singleton.1 hctile
    exact .inr (hlaid.ignored_of_mem hmem)
  | lexeme l =>
    obtain ⟨before, after, rfl⟩ := List.append_of_mem hmem
    have hblank : l.token = .blank := hw l (List.mem_filterMap.2 ⟨_, hmem, rfl⟩)
    have hspells : Spells l.text.toList l.token := hlaid.right.2.1
    rw [hblank] at hspells
    exact .inl (hspells.eq_space_of_blank c hctile)

end Lexeme

/-! ## Selections -/

namespace Tree

variable {s : Settings} {t : Tree}

/-- A part of a query has a selection. -/
theorem IsPart.selections_ne_nil (h : t.IsPart s) : t.selections ≠ [] := by
  induction t with
  | everything => exact h.elim
  | field | number | date | anyField => simp [selections]
  | joined j left right ihl _ =>
    intro hnil
    exact ihl h.1 (List.append_eq_nil_iff.1 hnil).1

/-- **The queries that select everything** by being empty are those of spaces and of characters that
start no lexeme. White space is made of such characters. A query with any other character has a
selection, if it is parsed.

**Proof sketch.** The empty query is parsed from blanks (`ofText_eq_everything_iff`). Filler is cut into
blanks (`ofTextFrom_filler`), and only filler is (`forall_isFiller_of_blanks`). -/
theorem everything_iff_filler (s : Settings) (query : String) :
    (ofText s query = .ok .everything ↔ ∀ c ∈ query.toList, IsFiller c) ∧
      ((∀ c ∈ query.toList, Text.isBlank c = true) → ofText s query = .ok .everything) ∧
      ∀ c ∈ query.toList, ¬IsFiller c → ∀ t, ofText s query = .ok t → t.selections ≠ [] := by
  have hiff : ofText s query = .ok .everything ↔ ∀ c ∈ query.toList, IsFiller c := by
    constructor
    · intro h
      obtain ⟨w, hw, -⟩ := Parser.ofText_eq_ok_iff.1 h
      exact forall_isFiller_of_blanks hw ((ofText_eq_everything_iff hw).1 h)
    · intro h
      obtain ⟨w, hw, hblanks⟩ := ofTextFrom_filler h 0
      exact (ofText_eq_everything_iff hw).2 hblanks
  refine ⟨hiff, fun hblank => ?_, fun c hc hfiller t ht => ?_⟩
  · exact hiff.2 fun c hc => isFiller_of_isBlank (hblank c hc)
  · rcases wellFormed_of_ofText ht with rfl | hpart
    · exact absurd (hiff.1 ht c hc) hfiller
    · exact hpart.selections_ne_nil

/-- A tab between spaces is the empty query, and so is a letter that the language does not know, but not
one that it knows. -/
theorem everything_iff_filler_letters :
    ofText {} " \t " = .ok .everything ∧ ofText {} "é " = .ok .everything ∧
      ofText {} "é e" = .ok (.anyField (.text "e")) ∧
        (anyField (.text "e")).selections ≠ [] := by
  have hparses : ofText {} "é e" = .ok (.anyField (.text "e")) := by cbv
  have htab : ∀ c ∈ " \t ".toList, Text.isBlank c = true := by
    simp [Text.isBlank, Text.blankRanges]
  have hletter : ∀ c ∈ "é ".toList, IsFiller c := by
    have hignored : Piece.Ignored 'é' := ⟨by decide, by decide⟩
    simp [IsFiller, hignored]
  have hknown : ¬IsFiller 'e' := by
    rintro (hspace | ⟨-, hword⟩)
    · exact absurd hspace (by decide)
    · exact absurd hword (by decide)
  obtain ⟨-, hblank, -⟩ := everything_iff_filler {} " \t "
  obtain ⟨hfiller, -, -⟩ := everything_iff_filler {} "é "
  obtain ⟨-, -, hselects⟩ := everything_iff_filler {} "é e"
  exact ⟨hblank htab, hfiller.2 hletter, hparses, hselects 'e' (by simp) hknown _ hparses⟩

/-- Letters that the language does not know are the empty query, though they are no white space. -/
theorem everything_of_unknown_letters :
    ofText {} "日本" = .ok .everything ∧ ∀ c ∈ "日本".toList, Text.isBlank c = false := by
  refine ⟨by cbv, ?_⟩
  simp [Text.isBlank, Text.blankRanges]

end Tree

end RecordQuery
