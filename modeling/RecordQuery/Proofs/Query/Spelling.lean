import RecordQuery.Proofs.Query.Cutting

set_option autoImplicit false

/-!
# Spelling lexemes

A text for each kind of lexeme, and the lexemes of such a text in front of more text. With these a
query can be written lexeme by lexeme.

## Main definitions

* `RecordQuery.Lexeme.Spells` — characters that are one lexeme wherever they start.
* `RecordQuery.Lexeme.IsWord` — a text that can be a word.
* `RecordQuery.Lexeme.quote` — a text in quotes, with a backslash in front of each quote in it.
* `RecordQuery.Lexeme.IsFiller` — a character that may stand between lexemes.

## Main results

* `RecordQuery.Lexeme.Spells.append` — a spelled lexeme in front of more text.
* `RecordQuery.Lexeme.spells_quote` — a text in quotes says that text, unless it ends in a
  backslash.
* `RecordQuery.Lexeme.ofTextFrom_filler_append` — filler is cut into blanks.
-/

namespace RecordQuery

/-- A closing parenthesis extends no lexeme. -/
theorem Token.extendedBy_closing (t : Token) : t.extendedBy ')' = false := by
  cases t with
  | comparison c => cases c <;> rfl
  | blank | minus | number | word | pattern | quoted | colon | opening | closing => rfl

namespace Lexeme

/-- The characters are cut into one lexeme, wherever they start. -/
def Spells (cs : List Char) (t : Token) : Prop :=
  ∀ column, ofTextFrom column cs = .ok [⟨t, column, String.ofList cs⟩]

/-- A piece that leaves nothing spells its token. -/
theorem spells_of_cut {c : Char} {cs : List Char} {p : Piece} {t : Token} (h : Piece.Cut c cs p)
    (ht : p.token = some t) (hrest : p.rest = []) : Spells (c :: cs) t := by
  intro column
  have hfirst := Piece.first_of_cut h
  have htext : p.text = c :: cs := by
    rw [← Piece.text_append_rest hfirst, hrest, List.append_nil]
  rw [ofTextFrom_cons hfirst, hrest, ofTextFrom_nil]
  simp [Except.map, Piece.lexemes, ht, htext]

/-- **A spelled lexeme in front of more text** that does not extend it comes first, and the text is
cut as it is without it. -/
theorem Spells.append {cs b : List Char} {t : Token} (h : Spells cs t)
    (hb : ∀ x ∈ b.head?, t.extendedBy x = false) (column : Nat) :
    ofTextFrom column (cs ++ b) =
      (ofTextFrom (column + cs.length) b).map (⟨t, column, String.ofList cs⟩ :: ·) := by
  refine (ofTextFrom_append (h column) fun l hl _ => ?_).trans rfl
  obtain rfl := List.mem_singleton.1 hl
  exact hb

/-! ## Marks and signs -/

/-- A mark is the character itself. -/
theorem spells_mark {c : Char} {t : Token}
    (h : (c, t) ∈ [('-', Token.minus), (':', .colon), ('(', .opening), (')', .closing)]) :
    Spells [c] t :=
  spells_of_cut (.mark [] h) rfl rfl

/-- A comparison is spelled by its sign. -/
theorem spells_sign (c : Comparison) : Spells c.sign.toList (.comparison c) := by
  cases c with
  | less => simpa [Comparison.sign] using spells_of_cut (.comparison [] (.head _)) rfl rfl
  | greater =>
    simpa [Comparison.sign] using spells_of_cut (.comparison [] (.tail _ (.head _))) rfl rfl
  | atMost => simpa [Comparison.sign] using spells_of_cut (.comparison ['='] (.head _)) rfl rfl
  | atLeast =>
    simpa [Comparison.sign] using spells_of_cut (.comparison ['='] (.tail _ (.head _))) rfl rfl

/-! ## Words -/

/-- A text that can be a word: characters of words, no dash first and not digits alone. -/
structure IsWord (w : String) : Prop where
  ne_nil : w.toList ≠ []
  chars : ∀ c ∈ w.toList, isWordChar c = true
  head_ne : w.toList.head? ≠ some '-'
  not_digits : ¬∀ c ∈ w.toList, isDigit c = true

/-- The characters of words spell a word or a number, if no dash comes first. -/
theorem spells_word {cs : List Char} (hne : cs ≠ []) (hword : ∀ c ∈ cs, isWordChar c = true)
    (hhead : cs.head? ≠ some '-') : Spells cs (wordToken cs) := by
  cases cs with
  | nil => exact absurd rfl hne
  | cons c cs =>
    have hcs : ∀ x ∈ cs, isWordChar x = true := fun x hx => hword x (List.mem_cons_of_mem _ hx)
    have htake : cs.takeWhile isWordChar = cs := List.takeWhile_eq_self_iff.2 hcs
    have hdrop : cs.dropWhile isWordChar = [] := List.dropWhile_eq_nil_iff.2 hcs
    refine spells_of_cut (.word cs (hword c List.mem_cons_self) ?_) ?_ hdrop
    · rintro rfl
      exact hhead rfl
    · simp only [Piece.run, htake]

/-- A word spells itself. -/
theorem IsWord.spells {w : String} (h : IsWord w) : Spells w.toList (.word w) := by
  have htoken : wordToken w.toList = .word w := by
    rw [wordToken, if_neg (by simpa using h.not_digits), String.ofList_toList]
  exact htoken ▸ spells_word h.ne_nil h.chars h.head_ne

/-! ## Literals -/

/-- A source without slashes spells a pattern between two of them. -/
theorem spells_pattern {source : List Char} (h : '/' ∉ source) :
    Spells ('/' :: (source ++ ['/'])) (.pattern (String.ofList source)) :=
  spells_of_cut (.pattern [] h) rfl rfl

/-- A character inside quotes. -/
def escape (c : Char) : List Char := if c = '"' then ['\\', '"'] else [c]

/-- A text in quotes, with a backslash in front of each quote in it. -/
def quote (cs : List Char) : List Char := '"' :: (cs.flatMap escape ++ ['"'])

/-- What follows the opening quote reads as the text.

**Proof sketch.** Induction on the text. A backslash of the text stands in front of an escaped
quote, of a character that is no quote or, at the end, of the closing quote, which is the one place
where it would escape something. -/
theorem inside_flatMap_escape {cs : List Char} (h : cs.getLast? ≠ some '\\') :
    Piece.Inside cs (cs.flatMap escape ++ ['"']) := by
  induction cs with
  | nil => exact .close
  | cons c cs ih =>
    have hlast : cs.getLast? ≠ some '\\' := by
      cases cs with
      | nil => simp
      | cons d cs => simpa [List.getLast?_cons_cons] using h
    by_cases hc : c = '"'
    · subst hc
      exact .escape (ih hlast)
    · have hescape : c = '\\' → (cs.flatMap escape ++ ['"']).head? ≠ some '"' := by
        rintro rfl
        cases cs with
        | nil => exact absurd rfl h
        | cons d cs =>
          by_cases hd : d = '"' <;> simp [escape, hd]
      simpa [escape, hc] using Piece.Inside.other hc hescape (ih hlast)

/-- **A text in quotes says that text**, unless it ends in a backslash. -/
theorem spells_quote {cs : List Char} (h : cs.getLast? ≠ some '\\') :
    Spells (quote cs) (.quoted (String.ofList cs)) :=
  spells_of_cut (.quoted (Piece.unquote?_eq_some_iff.2
    ⟨inside_flatMap_escape h, (List.append_nil _).symm⟩)) rfl rfl

/-! ## Filler -/

/-- A character that may stand between lexemes: a space, or a character that starts no lexeme. -/
def IsFiller (c : Char) : Prop := c = ' ' ∨ Piece.Ignored c

/-- Filler ends a word. -/
theorem IsFiller.not_wordChar {c : Char} (h : IsFiller c) : isWordChar c = false := by
  rcases h with rfl | h
  · decide
  · exact h.2

/-- Filler is cut into blanks. -/
theorem ofTextFrom_filler {w : List Char} (hw : ∀ c ∈ w, IsFiller c) (column : Nat) :
    ∃ bs, ofTextFrom column w = .ok bs ∧ ∀ l ∈ bs, l.token = .blank := by
  induction w using Piece.induction_on generalizing column with
  | nil => exact ⟨[], ofTextFrom_nil column, by simp⟩
  | unclosed c cs literal h =>
    rcases hw c List.mem_cons_self with rfl | hc
    · rw [Piece.first_of_cut (.blank cs)] at h
      cases h
    · rw [Piece.first_of_cut (.ignored cs hc)] at h
      cases h
  | piece c cs p h ih =>
    have hrest : ∀ x ∈ p.rest, IsFiller x := fun x hx =>
      hw x (Piece.text_append_rest h ▸ List.mem_append_right _ hx)
    obtain ⟨bs, hbs, hblank⟩ := ih hrest (column + p.text.length)
    refine ⟨p.lexemes column ++ bs, by rw [ofTextFrom_cons h, hbs]; rfl, ?_⟩
    have hfirst : ∀ l ∈ p.lexemes column, l.token = .blank := by
      rcases hw c List.mem_cons_self with rfl | hc
      · rw [Piece.first_of_cut (.blank cs)] at h
        cases h
        simp [Piece.lexemes, Piece.run]
      · rw [Piece.first_of_cut (.ignored cs hc)] at h
        cases h
        simp [Piece.lexemes, Piece.one]
    exact List.forall_mem_append.2 ⟨hfirst, hblank⟩

/-- **Filler in front of more text** is cut into blanks, and the text is cut as it is without it. -/
theorem ofTextFrom_filler_append {w b : List Char} (hw : ∀ c ∈ w, IsFiller c)
    (hb : b.head? ≠ some ' ') (column : Nat) :
    ∃ bs, (∀ l ∈ bs, l.token = .blank) ∧
      ofTextFrom column (w ++ b) = (ofTextFrom (column + w.length) b).map (bs ++ ·) := by
  obtain ⟨bs, hbs, hblank⟩ := ofTextFrom_filler hw column
  refine ⟨bs, hblank, ofTextFrom_append hbs fun l hl _ x hx => ?_⟩
  rw [hblank l hl]
  have hne : x ≠ ' ' := by
    rintro rfl
    exact hb hx
  simpa [Token.extendedBy] using hne

end Lexeme

end RecordQuery
