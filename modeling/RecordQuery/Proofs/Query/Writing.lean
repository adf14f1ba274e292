import RecordQuery.Proofs.Query.Chain
import RecordQuery.Proofs.Query.WellFormed

set_option autoImplicit false

/-!
# Writing trees

A query text for each well-formed tree. Texts are written in quotes, patterns between slashes, keys
and numbers as they are, and the two sides of a conjunction in parentheses, so that no word of a
tree is taken for a joint.

## Main definitions

* `RecordQuery.Tree.Writable` — trees that are the tree of some text.

## Main results

* `RecordQuery.Lexeme.ofTextFrom_keyed` — the lexemes of a selection with a key.
* `RecordQuery.Tree.ofText_numberText` — a key, a comparison sign and digits are a selection.
* `RecordQuery.Tree.writable_of_isPart` — every well-formed part can be written.
* `RecordQuery.Tree.exists_ofText_iff_wellFormed` — the trees of texts are the well-formed ones.
-/

namespace RecordQuery

open Grammar Lexeme

variable {s : Settings}

/-- A tree is that of some text. -/
def Tree.Writable (s : Settings) (t : Tree) : Prop := ∃ query, Tree.ofText s query = .ok t

/-- A selection that all lexemes of a text are is the tree of that text. -/
theorem Tree.ofText_of_phrase {query : String} {w : List Lexeme} {t : Tree}
    (h : Lexeme.ofText query = .ok w) (hw : Phrase s .selection [] w t) :
    Tree.ofText s query = .ok t :=
  Parser.ofText_eq_ok_iff.2 ⟨w, h, .conjunction hw.conjunction⟩

/-- A selection that all lexemes of a text are can be written. -/
theorem Tree.writable_of_phrase {cs : List Char} {w : List Lexeme} {t : Tree}
    (h : ofTextFrom 0 cs = .ok w) (hw : Phrase s .selection [] w t) : t.Writable s :=
  ⟨String.ofList cs, ofText_of_phrase (by rwa [Lexeme.ofText, String.toList_ofList]) hw⟩

/-! ## Keys -/

/-- What stands in front of a key. -/
def signText (negated : Bool) : List Char := if negated then ['-'] else []

/-- A minus in front of a key is cut off alone. -/
theorem exists_sign (negated : Bool) (b : List Char) :
    ∃ m column, Sign m negated ∧
      ofTextFrom 0 (signText negated ++ b) = (ofTextFrom column b).map (m ++ ·) := by
  cases negated with
  | false =>
    refine ⟨[], 0, .plain, ?_⟩
    cases h : ofTextFrom 0 b <;> simp [signText, Except.map, h]
  | true =>
    have hminus : Spells ['-'] .minus := spells_mark (by simp)
    exact ⟨_, _, .minus rfl, hminus.append (fun _ _ => rfl) 0⟩

/-- A key, the sign behind it and one lexeme more are cut apart if the sign is no part of the key and
the last lexeme no part of the sign. -/
theorem Lexeme.ofTextFrom_keyed {key : String} {sign b : List Char} {d v : Token}
    (hkey : IsWord key) (hsign : Spells sign d)
    (hhead : ∀ x ∈ (sign ++ b).head?, isWordChar x = false) (hb : Spells b v)
    (hbhead : ∀ x ∈ b.head?, d.extendedBy x = false) (column : Nat) :
    ∃ k e l, ofTextFrom column (key.toList ++ (sign ++ b)) = .ok [k, e, l] ∧
      k.token = .word key ∧ e.token = d ∧ l.token = v ∧ l.text = String.ofList b := by
  have hkeyed := hkey.spells.append hhead column
  have hsigned := hsign.append hbhead (column + key.toList.length)
  have hlast := hb (column + key.toList.length + sign.length)
  rw [hkeyed, hsigned, hlast]
  exact ⟨_, _, _, rfl, rfl, rfl, rfl, rfl⟩

/-- A key with its sign and one lexeme more, perhaps behind a minus. -/
def keyedText (negated : Bool) (key : String) (sign b : List Char) : List Char :=
  signText negated ++ (key.toList ++ (sign ++ b))

/-- The same perhaps behind a minus. -/
theorem Lexeme.exists_keyed {key : String} {sign b : List Char} {d v : Token} (hkey : IsWord key)
    (hsign : Spells sign d) (hhead : ∀ x ∈ (sign ++ b).head?, isWordChar x = false)
    (hb : Spells b v) (hbhead : ∀ x ∈ b.head?, d.extendedBy x = false) (negated : Bool) :
    ∃ m k e l, ofTextFrom 0 (keyedText negated key sign b) = .ok (m ++ [k, e, l]) ∧
      Sign m negated ∧ k.token = .word key ∧ e.token = d ∧ l.token = v := by
  obtain ⟨m, column, hm, heq⟩ := exists_sign negated (key.toList ++ (sign ++ b))
  obtain ⟨k, e, l, hkeyed, hk, he, hl, -⟩ := ofTextFrom_keyed hkey hsign hhead hb hbhead column
  rw [hkeyed] at heq
  exact ⟨m, k, e, l, heq, hm, hk, he, hl⟩

/-! ## Literals, dates and numbers -/

/-- A well-formed literal can be written as one lexeme. -/
theorem exists_spells_literal {v : Literal} (h : v.WellFormed s) :
    ∃ b token, Spells b token ∧
      ∀ after l, l.token = token → IsValue s after l v := by
  cases v with
  | text t =>
    refine ⟨quote t.toList, .quoted t, ?_, fun after l hl => .quoted hl⟩
    simpa using spells_quote h
  | pattern p =>
    obtain ⟨hsource, hp⟩ := h
    refine ⟨'/' :: (p.source.toList ++ ['/']), .pattern p.source, ?_,
      fun after l hl => .pattern hl hp⟩
    simpa using spells_pattern hsource

/-- The text of a date can be written as one lexeme, in quotes or between slashes. -/
theorem exists_spells_date {bound : String}
    (h : ¬EndsInBackslash bound ∨ '/' ∉ bound.toList) :
    ∃ b token, Spells b token ∧ ∀ l, l.token = token → DateText l bound := by
  rcases h with h | h
  · refine ⟨quote bound.toList, .quoted bound, ?_, fun l hl => .quoted hl⟩
    simpa using spells_quote h
  · refine ⟨'/' :: (bound.toList ++ ['/']), .pattern bound, ?_, fun l hl => .pattern hl⟩
    simpa using spells_pattern h

/-- The digits of a number spell it. -/
theorem IsNumeral.spells {text : String} {x : Number} (h : IsNumeral text x) :
    Spells text.toList (.number x) := by
  have hword : ∀ c ∈ text.toList, isWordChar c = true := fun c hc =>
    isWordChar_of_isDigit (h.digits c hc)
  have hhead : text.toList.head? ≠ some '-' := fun hdash =>
    absurd (h.digits '-' (List.mem_of_mem_head? hdash)) (by decide)
  have htoken : wordToken text.toList = .number x := by
    have hread := Number.read?_digits h.ne_nil h.digits
    rw [h.read] at hread
    rw [wordToken, if_pos (List.all_eq_true.2 h.digits), Option.some.inj hread]
  exact htoken ▸ spells_word h.ne_nil hword hhead

/-- The sign of a comparison is no part of a word in front of it. -/
theorem Comparison.not_wordChar_sign (c : Comparison) (b : List Char) :
    ∀ x ∈ (c.sign.toList ++ b).head?, isWordChar x = false := by
  cases c <;> simp [Comparison.sign] <;> decide

/-- Digits are no part of a comparison sign in front of them, which would only take an equals
sign. -/
theorem IsNumeral.not_extendedBy {text : String} {x : Number} (h : IsNumeral text x)
    (c : Comparison) : ∀ y ∈ text.toList.head?, (Token.comparison c).extendedBy y = false := by
  intro y hy
  have hne : y ≠ '=' := by
    rintro rfl
    exact absurd (h.digits '=' (List.mem_of_mem_head? hy)) (by decide)
  cases c <;> simp [Token.extendedBy, hne]

/-- Each side has a key. -/
theorem Side.exists_key (side : Side) : ∃ key, IsWord key ∧ Side.ofKey? key = some side := by
  cases side with
  | before =>
    exact ⟨"before", ⟨by simp, by simp; decide, by simp, by simp; decide⟩, by simp [Side.ofKey?]⟩
  | after =>
    exact ⟨"after", ⟨by simp, by simp; decide, by simp, by simp; decide⟩, by simp [Side.ofKey?]⟩

/-! ## Trees -/

namespace Tree

/-- A selection by field can be written. -/
theorem writable_field {key : String} {v : Literal} (hkey : IsWord key)
    (hside : Side.ofKey? key = none) (hv : v.WellFormed s) (negated : Bool) :
    (Tree.field key negated v).Writable s := by
  obtain ⟨b, token, hb, hvalue⟩ := exists_spells_literal hv
  have hcolon : Spells [':'] .colon := spells_mark (by simp)
  obtain ⟨m, k, d, l, hcs, hm, hk, hd, hl⟩ :=
    exists_keyed hkey hcolon (by simp; decide) hb (fun _ _ => rfl) negated
  exact writable_of_phrase hcs (.field hm hk hd hside (hvalue [] l hl))

/-- A selection by date can be written. -/
theorem writable_date {bound : String} (h : ¬EndsInBackslash bound ∨ '/' ∉ bound.toList)
    (side : Side) (negated : Bool) : (Tree.date side negated bound).Writable s := by
  obtain ⟨key, hkey, hside⟩ := side.exists_key
  obtain ⟨b, token, hb, hdate⟩ := exists_spells_date h
  have hcolon : Spells [':'] .colon := spells_mark (by simp)
  obtain ⟨m, k, d, l, hcs, hm, hk, hd, hl⟩ :=
    exists_keyed hkey hcolon (by simp; decide) hb (fun _ _ => rfl) negated
  exact writable_of_phrase hcs (.date hm hk hd hside (hdate l hl))

/-- The text of a selection by number. -/
def numberText (negated : Bool) (key : String) (c : Comparison) (digits : String) : String :=
  (if negated then "-" else "") ++ key ++ c.sign ++ digits

/-- **A key, a comparison sign and digits**, perhaps behind a minus, are a selection by number. -/
theorem ofText_numberText {key text : String} {x : Number} (hkey : IsWord key)
    (hx : IsNumeral text x) (c : Comparison) (negated : Bool) :
    Tree.ofText s (numberText negated key c text) = .ok (.number key c negated x) := by
  obtain ⟨m, k, d, l, hcs, hm, hk, hd, hl⟩ := exists_keyed hkey (spells_sign c)
    (c.not_wordChar_sign text.toList) hx.spells (hx.not_extendedBy c) negated
  have htext : (numberText negated key c text).toList =
      keyedText negated key c.sign.toList text.toList := by
    cases negated <;> simp [numberText, keyedText, signText]
  exact ofText_of_phrase (by rw [Lexeme.ofText, htext, hcs]) (.number hm hk hd hl)

/-- Two trees in parentheses can be written with a joint between them. -/
theorem writable_joined {left right : Tree} (hleft : left.Writable s) (hright : right.Writable s)
    (hl : left ≠ .everything) (hr : right ≠ .everything) (j : Joint) :
    (Tree.joined j left right).Writable s := by
  obtain ⟨p, hp⟩ := hleft
  obtain ⟨q, hq⟩ := hright
  let bare : Separator := ⟨"", some j, "", by simp, by simp⟩
  let chain : Chain s := .link ⟨p, left, hp, hl⟩ bare (.last ⟨q, right, hq, hr⟩)
  exact ⟨chain.text, chain.ofText_text⟩

/-- The empty query is no part of others. -/
theorem IsPart.ne_everything {t : Tree} (h : t.IsPart s) : t ≠ .everything := by
  rintro rfl
  exact h

/-- **Every well-formed part can be written.**

**Proof sketch.** Induction on the tree. The sides of a conjunction stand in parentheses
(`Chain.ofText_text`), and a selection is a few lexemes that are cut apart (`exists_keyed`). -/
theorem writable_of_isPart {t : Tree} (h : t.IsPart s) : t.Writable s := by
  induction t with
  | everything => exact h.elim
  | joined j left right ihl ihr =>
    obtain ⟨hl, hr⟩ := h
    exact writable_joined (ihl hl) (ihr hr) (IsPart.ne_everything hl) (IsPart.ne_everything hr) j
  | field key negated v =>
    obtain ⟨hkey, hbefore, hafter, hv⟩ := h
    exact writable_field hkey (by simp [Side.ofKey?, hbefore, hafter]) hv negated
  | number key c negated x =>
    obtain ⟨hkey, text, hx⟩ := h
    exact ⟨_, ofText_numberText hkey hx c negated⟩
  | date side negated bound => exact writable_date h side negated
  | anyField v =>
    obtain ⟨b, token, hb, hvalue⟩ := exists_spells_literal h
    exact writable_of_phrase (hb 0) (.anyField (hvalue [] _ rfl))

/-- **The trees of texts are exactly the well-formed ones**, and the numbers in them are neither
negative nor missing.

**Proof sketch.** The lexemes of a text are formed and so is its tree (`wellFormed_of_ofText`).
Conversely the empty query is the tree of the empty text, and every other tree is a part
(`writable_of_isPart`). -/
theorem exists_ofText_iff_wellFormed (s : Settings) :
    (∀ t, (∃ query, Tree.ofText s query = .ok t) ↔ t.WellFormed s) ∧
      ∀ key c negated x, (Tree.number key c negated x).WellFormed s → ∃ m, x = .real false m := by
  refine ⟨fun t => ⟨fun ⟨query, h⟩ => wellFormed_of_ofText h, ?_⟩, ?_⟩
  · rintro (rfl | h)
    · refine ⟨"", Parser.ofText_eq_ok_iff.2 ⟨[], ?_, .everything blanks_nil⟩⟩
      exact ofTextFrom_nil 0
    · exact writable_of_isPart h
  · rintro key c negated x (h | ⟨-, text, hx⟩)
    · cases h
    · exact hx.exists_real

/-- A text that ends in a backslash can be written as a date, between slashes, but not as a
value. -/
theorem exists_ofText_backslash :
    (∃ query, Tree.ofText {} query = .ok (.date .before true "a\\")) ∧
      ¬∃ query, Tree.ofText {} query = .ok (.field "k" true (.text "a\\")) := by
  constructor
  · refine ((exists_ofText_iff_wellFormed {}).1 _).2 (.inr (.inr ?_))
    decide
  · intro h
    rcases ((exists_ofText_iff_wellFormed {}).1 _).1 h with h | ⟨-, -, -, hv⟩
    · cases h
    · exact hv (by unfold EndsInBackslash; decide)

end Tree

end RecordQuery
