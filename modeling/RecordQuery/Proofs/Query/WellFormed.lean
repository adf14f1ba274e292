import RecordQuery.Proofs.Number.Whole
import RecordQuery.Proofs.Query.Parsing
import RecordQuery.Proofs.Query.Spelling

set_option autoImplicit false

/-!
# Well-formed trees

What every tree that is parsed from a text has in common. The lexemes of a text are restricted by
how they are cut: a quoted text cannot end in a backslash, which would escape the closing quote, and
the source of a pattern holds no slash. Trees keep what their lexemes have.

## Main definitions

* `RecordQuery.Tree.WellFormed` — the trees that can be parsed.
* `RecordQuery.Lexeme.Formed` — what lexemes of a text have in common.

## Main results

* `RecordQuery.Lexeme.formed_of_mem` — the lexemes of a text are formed.
* `RecordQuery.Tree.wellFormed_of_ofText` — the tree of a text is well formed.
-/

namespace RecordQuery

open Grammar Lexeme

variable {s : Settings}

/-- Whether a text ends in a backslash. -/
def EndsInBackslash (t : String) : Prop := t.toList.getLast? = some '\\'

/-- A number is read from a text of one or more digits. -/
structure IsNumeral (text : String) (x : Number) : Prop where
  ne_nil : text.toList ≠ []
  digits : ∀ c ∈ text.toList, isDigit c = true
  read : Number.read? text.toList = some x

/-- Literals that can be written: texts that do not end in a backslash, and patterns without a
slash. -/
def Literal.WellFormed (s : Settings) : Literal → Prop
  | .text t => ¬EndsInBackslash t
  | .pattern p => '/' ∉ p.source.toList ∧ IsPattern s p.source p

/-- Trees that can be written as parts of a query. -/
def Tree.IsPart (s : Settings) : Tree → Prop
  | .everything => False
  | .joined _ left right => left.IsPart s ∧ right.IsPart s
  | .field key _ v => IsWord key ∧ key ≠ "before" ∧ key ≠ "after" ∧ v.WellFormed s
  | .number key _ _ x => IsWord key ∧ ∃ text, IsNumeral text x
  | .date _ _ bound => ¬EndsInBackslash bound ∨ '/' ∉ bound.toList
  | .anyField v => v.WellFormed s

/-- Trees that can be written as a query: the empty query stands alone. -/
def Tree.WellFormed (s : Settings) (t : Tree) : Prop := t = .everything ∨ t.IsPart s

/-! ## Numbers written in digits -/

/-- Digits read as the number nearest to their value. -/
theorem Number.read?_digits {ds : List Char} (hne : ds ≠ []) (hds : ∀ c ∈ ds, isDigit c = true) :
    Number.read? ds = some (.real false (Magnitude.ofDecimal (digitsValue ds) 0)) := by
  have htake : ds.takeWhile isDigit = ds := List.takeWhile_eq_self_iff.2 hds
  have hdrop : ds.dropWhile isDigit = [] := List.dropWhile_eq_nil_iff.2 hds
  have hdecimal : readDecimal? ds = some (digitsValue ds, 0) := by
    simp [readDecimal?, htake, hdrop, hne, readExponent?]
  cases ds with
  | nil => exact absurd rfl hne
  | cons d ds =>
    have hd : isDigit d = true := hds d List.mem_cons_self
    have hne' : ∀ x, isDigit x = false → d ≠ x := by
      rintro x hx rfl
      rw [hd] at hx
      cases hx
    have hsign : splitSign (d :: ds) = (false, d :: ds) := splitSign_of_isDigit hd ds
    have hlower : lowerAscii d = d := by
      simp only [isDigit, Bool.and_eq_true, decide_eq_true_eq] at hd
      have hle : ¬('A' ≤ d) := fun h => absurd (Char.le_trans h hd.2) (by decide)
      simp [lowerAscii, hle]
    simp [Number.read?, hsign, readMagnitude?, hdecimal, hlower, hne' 'n' (by decide),
      hne' 'i' (by decide)]

/-- Digits are read as a number without a sign. -/
theorem IsNumeral.exists_real {text : String} {x : Number} (h : IsNumeral text x) :
    ∃ m, x = .real false m := by
  have hread := Number.read?_digits h.ne_nil h.digits
  rw [h.read] at hread
  exact ⟨_, Option.some.inj hread⟩

/-! ## Lexemes of a text -/

/-- What lexemes of a text have in common. -/
def Lexeme.Formed (l : Lexeme) : Prop :=
  match l.token with
  | .word w => IsWord w
  | .number x => IsNumeral l.text x
  | .quoted t => ¬EndsInBackslash t
  | .pattern source => '/' ∉ source.toList
  | _ => ¬EndsInBackslash l.text

/-- A text without backslashes does not end in one. -/
theorem not_endsInBackslash {cs : List Char} (h : ∀ c ∈ cs, c ≠ '\\') :
    ¬EndsInBackslash (String.ofList cs) := by
  intro hends
  rw [EndsInBackslash, String.toList_ofList] at hends
  exact h _ (List.mem_of_getLast? hends) rfl

/-- What is inside quotes does not end in a backslash, which would escape the closing quote. -/
theorem Piece.Inside.getLast?_ne {s text : List Char} (h : Inside s text) :
    s.getLast? ≠ some '\\' := by
  induction h with
  | close => simp
  | @escape s text _ ih =>
    cases s with
    | nil => simp
    | cons d s => simpa [List.getLast?_cons_cons] using ih
  | @other c s text hc hescape h ih =>
    cases h with
    | close =>
      -- the closing quote comes next
      have hslash : c ≠ '\\' := fun hslash => hescape hslash rfl
      simpa using hslash
    | escape => simpa [List.getLast?_cons_cons] using ih
    | other => simpa [List.getLast?_cons_cons] using ih

/-- The characters of words are no backslashes and no slashes. -/
theorem ne_of_isWordChar {c : Char} (h : isWordChar c = true) : c ≠ '\\' ∧ c ≠ '/' := by
  constructor
  · rintro rfl
    revert h
    decide
  · rintro rfl
    revert h
    decide

/-- Digits are characters of words. -/
theorem isWordChar_of_isDigit {c : Char} (h : isDigit c = true) : isWordChar c = true := by
  have hc : c.isDigit = true := by simpa [isDigit, Char.isDigit, Char.le_def] using h
  simp [isWordChar, Char.isAlphanum, hc]

/-- The characters of words make a word or a number. -/
theorem formed_wordToken {cs : List Char} (hne : cs ≠ []) (hword : ∀ c ∈ cs, isWordChar c = true)
    (hhead : cs.head? ≠ some '-') (column : Nat) :
    Lexeme.Formed ⟨wordToken cs, column, String.ofList cs⟩ := by
  unfold wordToken
  split
  · rename_i hdigits
    rw [List.all_eq_true] at hdigits
    exact ⟨by simpa using hne, by simpa using hdigits,
      by simpa using Number.read?_digits hne hdigits⟩
  · rename_i hdigits
    exact ⟨by simpa using hne, by simpa using hword, by simpa using hhead, by simpa using hdigits⟩

/-- The lexeme that is cut off is formed. -/
theorem formed_of_cut {c : Char} {cs : List Char} {p : Piece} (h : Piece.Cut c cs p)
    (column : Nat) : ∀ l ∈ p.lexemes column, l.Formed := by
  intro l hl
  cases h with
  | blank =>
    obtain rfl := List.mem_singleton.1 hl
    refine not_endsInBackslash (List.forall_mem_cons.2 ⟨by decide, fun c hc => ?_⟩)
    have hspace : c = ' ' := by simpa using List.mem_takeWhile_imp hc
    simp [hspace]
  | mark _ hmark =>
    obtain rfl := List.mem_singleton.1 hl
    simp only [List.mem_cons, Prod.mk.injEq, List.not_mem_nil, or_false] at hmark
    rcases hmark with ⟨rfl, rfl⟩ | ⟨rfl, rfl⟩ | ⟨rfl, rfl⟩ | ⟨rfl, rfl⟩ <;>
      exact not_endsInBackslash (by simp [Piece.one])
  | @comparison _ bare extended _ hsign =>
    have hc : c ≠ '\\' := by
      simp only [List.mem_cons, Prod.mk.injEq, List.not_mem_nil, or_false] at hsign
      rcases hsign with ⟨rfl, -⟩ | ⟨rfl, -⟩ <;> decide
    unfold Piece.comparison at hl
    split at hl
    · obtain rfl := List.mem_singleton.1 hl
      exact not_endsInBackslash (by simp [hc])
    · obtain rfl := List.mem_singleton.1 hl
      exact not_endsInBackslash (by simp [hc])
  | pattern rest hsource =>
    obtain rfl := List.mem_singleton.1 hl
    simpa [Lexeme.Formed] using hsource
  | quoted hquoted =>
    obtain rfl := List.mem_singleton.1 hl
    simpa [Lexeme.Formed, EndsInBackslash] using
      (Piece.unquote?_eq_some_iff.1 hquoted).1.getLast?_ne
  | word _ hc hdash =>
    obtain rfl := List.mem_singleton.1 hl
    refine formed_wordToken (by simp) (List.forall_mem_cons.2 ⟨hc, fun x hx => ?_⟩)
      (by simpa using hdash) column
    exact List.mem_takeWhile_imp hx
  | ignored => cases hl

/-- **The lexemes of a text are formed.** -/
theorem Lexeme.formed_of_mem {column : Nat} {cs : List Char} {lexemes : List Lexeme}
    (h : ofTextFrom column cs = .ok lexemes) : ∀ l ∈ lexemes, l.Formed := by
  induction cs using Piece.induction_on generalizing column lexemes with
  | nil =>
    rw [ofTextFrom_nil] at h
    cases h
    simp
  | unclosed c cs literal hc => rw [ofTextFrom_error hc] at h; cases h
  | piece c cs p hp ih =>
    obtain ⟨behind, hrest, rfl⟩ := (ofTextFrom_cons_eq_ok_iff hp).1 h
    exact List.forall_mem_append.2 ⟨formed_of_cut (Piece.cut_of_first hp) column, ih hrest⟩

/-! ## Trees of a text -/

/-- A word is no text that ends in a backslash. -/
theorem Lexeme.IsWord.not_endsInBackslash {w : String} (h : IsWord w) : ¬EndsInBackslash w := by
  intro hends
  exact (ne_of_isWordChar (h.chars _ (List.mem_of_getLast? hends))).1 rfl

/-- Digits hold no backslash and no slash. -/
theorem IsNumeral.ne {text : String} {x : Number} (h : IsNumeral text x) :
    ¬EndsInBackslash text ∧ '/' ∉ text.toList := by
  constructor
  · intro hends
    exact absurd (h.digits _ (List.mem_of_getLast? hends)) (by decide)
  · intro hmem
    exact absurd (h.digits _ hmem) (by decide)

namespace Grammar

/-- A pattern keeps its source and whether it ignores the case of letters. -/
theorem IsPattern.exists_eq {source : String} {p : Pattern} (h : IsPattern s source p) :
    ∃ a, p = ⟨source, !s.caseSensitive, a⟩ := by
  unfold IsPattern Pattern.compile at h
  split at h
  · cases h
  · split at h
    · cases h
      exact ⟨_, rfl⟩
    · cases h

/-- A pattern is well formed if its source has no slash. -/
theorem IsPattern.wellFormed {source : String} {p : Pattern} (h : IsPattern s source p)
    (hsource : '/' ∉ source.toList) : (Literal.pattern p).WellFormed s := by
  obtain ⟨a, rfl⟩ := h.exists_eq
  exact ⟨hsource, h⟩

/-- A bare literal is well formed if its text can be written both as a text and as a pattern. -/
theorem Bare.wellFormed {text : String} {v : Literal} (h : Bare s text v)
    (htext : ¬EndsInBackslash text) (hsource : '/' ∉ text.toList) : v.WellFormed s := by
  cases h with
  | text => exact htext
  | pattern _ hp => exact hp.wellFormed hsource

/-- A value of a formed lexeme is well formed. -/
theorem IsValue.wellFormed {after : List Lexeme} {l : Lexeme} {v : Literal}
    (h : IsValue s after l v) (hl : l.Formed) : v.WellFormed s := by
  unfold Lexeme.Formed at hl
  cases h with
  | word htoken _ hv =>
    rw [htoken] at hl
    have hslash : '/' ∉ _ := fun hmem => (ne_of_isWordChar (hl.chars _ hmem)).2 rfl
    exact hv.wellFormed hl.not_endsInBackslash hslash
  | number htoken hv =>
    rw [htoken] at hl
    exact hv.wellFormed hl.ne.1 hl.ne.2
  | quoted htoken =>
    rw [htoken] at hl
    exact hl
  | pattern htoken hp =>
    rw [htoken] at hl
    exact hp.wellFormed hl

/-- The date of a formed lexeme does not end in a backslash or holds no slash. -/
theorem DateText.wellFormed {l : Lexeme} {bound : String} (h : DateText l bound) (hl : l.Formed) :
    ¬EndsInBackslash bound ∨ '/' ∉ bound.toList := by
  unfold Lexeme.Formed at hl
  cases h with
  | word htoken =>
    rw [htoken] at hl
    exact .inl hl.not_endsInBackslash
  | quoted htoken =>
    rw [htoken] at hl
    exact .inl hl
  | pattern htoken =>
    rw [htoken] at hl
    exact .inr hl
  | written hne =>
    cases htoken : l.token with
    | word w => exact absurd htoken (hne w).1
    | quoted t => exact absurd htoken (hne t).2.1
    | pattern source => exact absurd htoken (hne source).2.2
    | number x =>
      rw [htoken] at hl
      exact .inl hl.ne.1
    | blank | minus | comparison | colon | opening | closing =>
      rw [htoken] at hl
      exact .inl hl

/-- A key that is not reserved is neither of the two. -/
theorem ne_of_ofKey?_eq_none {key : String} (h : Side.ofKey? key = none) :
    key ≠ "before" ∧ key ≠ "after" := by
  unfold Side.ofKey? at h
  split at h
  · cases h
  · split at h
    · cases h
    · exact ⟨‹_›, ‹_›⟩

/-- **A phrase of formed lexemes is well formed.**

**Proof sketch.** Induction on the phrase: its lexemes are those of its parts, and what a selection
holds is a key, a value, a number or a date that one lexeme is. -/
theorem Phrase.isPart {part : Part} {after w : List Lexeme} {t : Tree}
    (h : Phrase s part after w t) (hw : ∀ l ∈ w, l.Formed) : t.IsPart s := by
  induction h with
  | group _ _ _ ih => exact ih fun l hl => hw l (by simp [hl])
  | @date _ m k d l _ _ _ _ _ _ _ _ hl => exact hl.wellFormed (hw l (by simp))
  | @field _ m k d l _ key _ _ hk _ hkey hl =>
    have hformed := hw k (by simp)
    rw [Lexeme.Formed, hk] at hformed
    obtain ⟨hbefore, hafter⟩ := ne_of_ofKey?_eq_none hkey
    exact ⟨hformed, hbefore, hafter, hl.wellFormed (hw l (by simp))⟩
  | @number _ m k d l _ _ _ _ _ hk _ hl =>
    have hformed := hw k (by simp)
    have hnumber := hw l (by simp)
    rw [Lexeme.Formed, hk] at hformed
    rw [Lexeme.Formed, hl] at hnumber
    exact ⟨hformed, l.text, hnumber⟩
  | @anyField _ l _ hl => exact hl.wellFormed (hw l (by simp))
  | single _ _ _ ih => exact ih fun l hl => hw l (by simp [hl])
  | joined _ _ _ _ _ _ ihw ihv =>
    exact ⟨ihw fun l hl => hw l (by simp [hl]), ihv fun l hl => hw l (by simp [hl])⟩
  | beside _ _ _ _ _ ihw ihv =>
    exact ⟨ihw fun l hl => hw l (by simp [hl]), ihv fun l hl => hw l (by simp [hl])⟩

end Grammar

/-- **The tree of a text is well formed.** -/
theorem Tree.wellFormed_of_ofText {query : String} {t : Tree} (h : Tree.ofText s query = .ok t) :
    t.WellFormed s := by
  obtain ⟨lexemes, hlexemes, hderives⟩ := Parser.ofText_eq_ok_iff.1 h
  cases hderives with
  | everything => exact .inl rfl
  | conjunction hw => exact .inr (hw.isPart (Lexeme.formed_of_mem hlexemes))

end RecordQuery
