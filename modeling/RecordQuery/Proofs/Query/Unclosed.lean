import RecordQuery.Proofs.Query.Tiling

set_option autoImplicit false

/-!
# Unclosed literals

A text that cannot be cut into lexemes has a literal in it that is opened where a lexeme begins and
never closed. Nothing else stands in the way of cutting a text.

## Main definitions

* `RecordQuery.Delimited.mark` — the character that opens and closes a literal.
* `RecordQuery.Delimited.Open` — texts that close no literal.
* `RecordQuery.Unclosed.LiesIn` — an unclosed literal of a text, told without cutting on from it.

## Main results

* `RecordQuery.Piece.unquote?_eq_none_iff` — a quoted text is not closed if its quotes are escaped.
* `RecordQuery.Piece.first_eq_error_iff` — only an unclosed literal is no piece.
* `RecordQuery.Lexeme.ofText_eq_error_iff` — a text is not cut at its unclosed literal.
-/

namespace RecordQuery

open Lexeme

/-- The character that opens and closes a literal. -/
def Delimited.mark : Delimited → Char
  | pattern => '/'
  | quoted => '"'

/-- No literal is closed by a text behind its opening: there is no slash in it, or in front of each
quote in it there is a backslash. -/
def Delimited.Open : Delimited → List Char → Prop
  | pattern, cs => '/' ∉ cs
  | quoted, cs => ∀ before after, cs = before ++ '"' :: after → before.getLast? = some '\\'

/-- An unclosed literal of a text: the characters in front of its opening can be cut into lexemes,
and those behind the opening do not close it. -/
def Unclosed.LiesIn (u : Unclosed) (query : String) : Prop :=
  ∃ a b : String, query = a ++ String.singleton u.literal.mark ++ b ∧ a.length = u.column ∧
    (∃ lexemes, ofText a = .ok lexemes) ∧ u.literal.Open b.toList

/-! ## Literals that are not closed -/

namespace Delimited

/-- A quote in front is not escaped. -/
theorem not_open_quote (cs : List Char) : ¬quoted.Open ('"' :: cs) := by
  intro h
  cases h [] cs rfl

/-- An escaped quote closes nothing. -/
theorem open_escape_iff (cs : List Char) : quoted.Open ('\\' :: '"' :: cs) ↔ quoted.Open cs := by
  constructor
  · intro h before after hcs
    have hlast := h ('\\' :: '"' :: before) after (by rw [hcs]; rfl)
    cases before with
    | nil => cases hlast
    | cons d before => exact hlast
  · intro h before after hcs
    match before, hcs with
    | [], hcs => cases hcs
    | ['\\'], _ => rfl
    | _ :: _ :: before, hcs =>
      simp only [List.cons_append, List.cons.injEq] at hcs
      obtain ⟨rfl, rfl, hcs⟩ := hcs
      have hlast := h before after hcs
      cases before with
      | nil => cases hlast
      | cons d before => exact hlast

/-- A character that is no quote and escapes none closes nothing. -/
theorem open_cons_iff {c : Char} {cs : List Char} (hc : c ≠ '"')
    (hescape : ∀ cs', c = '\\' → cs = '"' :: cs' → False) :
    quoted.Open (c :: cs) ↔ quoted.Open cs := by
  constructor
  · intro h before after hcs
    have hlast := h (c :: before) after (by rw [hcs]; rfl)
    cases before with
    | nil =>
      have hslash : c = '\\' := by simpa using hlast
      exact (hescape after hslash hcs).elim
    | cons d before => exact hlast
  · intro h before after hcs
    cases before with
    | nil => exact absurd (List.cons.inj hcs).1 hc
    | cons d before =>
      have hlast := h before after (List.cons.inj hcs).2
      cases before with
      | nil => cases hlast
      | cons e before => exact hlast

end Delimited

namespace Piece

/-- **A quoted text is never closed** exactly if all quotes in it are escaped. -/
theorem unquote?_eq_none_iff (cs : List Char) : unquote? cs = none ↔ Delimited.quoted.Open cs := by
  fun_induction unquote? cs with
  | case1 => exact iff_of_true rfl fun before after hcs => by simp at hcs
  | case2 cs ih => rw [Option.map_eq_none_iff, ih, Delimited.open_escape_iff]
  | case3 cs => exact iff_of_false (by simp) (Delimited.not_open_quote cs)
  | case4 c cs hescape hc ih => rw [Option.map_eq_none_iff, ih, Delimited.open_cons_iff hc hescape]

/-- A pattern is never closed exactly if there is no slash in it. -/
theorem dropWhile_eq_nil_iff_open (cs : List Char) :
    cs.dropWhile (· ≠ '/') = [] ↔ Delimited.pattern.Open cs := by
  rw [List.dropWhile_eq_nil_iff]
  constructor
  · intro h hmem
    simpa using h '/' hmem
  · intro h c hc
    have hne : c ≠ '/' := by
      rintro rfl
      exact h hc
    simpa using hne

/-- **Only an unclosed literal is no piece.** -/
theorem first_eq_error_iff {c : Char} {cs : List Char} {literal : Delimited} :
    first c cs = .error literal ↔ c = literal.mark ∧ literal.Open cs := by
  constructor
  · intro h
    unfold first at h
    repeat' split at h
    all_goals cases h
    · rename_i hdrop
      exact ⟨‹c = '/'›, (dropWhile_eq_nil_iff_open cs).1 hdrop⟩
    · rename_i hquoted
      exact ⟨‹c = '"'›, (unquote?_eq_none_iff cs).1 hquoted⟩
  · rintro ⟨rfl, h⟩
    cases literal with
    | pattern =>
      have hdrop := (dropWhile_eq_nil_iff_open cs).2 h
      simp only [first, Delimited.mark, Char.reduceEq, if_false, if_true, hdrop]
    | quoted =>
      have hquoted := (unquote?_eq_none_iff cs).2 h
      simp only [first, Delimited.mark, Char.reduceEq, if_false, if_true, hquoted]

/-- A piece is cut off in the same way where the text is cut short behind it. -/
theorem first_of_prefix {c : Char} {cs : List Char} {p : Piece} (h : first c cs = .ok p)
    {a b : List Char} (hrest : p.rest = a ++ b) :
    ∃ text, p.text = c :: text ∧ first c (text ++ a) = .ok { p with rest := a } := by
  have hcut := cut_of_first h
  obtain ⟨text, htext, halone⟩ := hcut.alone
  refine ⟨text, htext, ?_⟩
  have hfront := first_append (b := a) (first_of_cut halone) (.inr fun x hx => ?_)
  · simpa [followedBy] using hfront
  · refine hcut.extendedBy_eq_false x ?_
    rw [hrest, List.head?_append, hx]
    rfl

end Piece

/-! ## Texts that cannot be cut -/

/-- What opens a literal extends no lexeme. -/
theorem Token.extendedBy_mark (t : Token) (literal : Delimited) :
    t.extendedBy literal.mark = false := by
  cases literal <;> cases t with
    | comparison d => cases d <;> rfl
    | blank | minus | number | word | pattern | quoted | colon | opening | closing => rfl

namespace Lexeme

/-- What opens a literal stands behind no lexeme that it could extend. -/
theorem closed_mark (lexemes : List Lexeme) (stop : Nat) (literal : Delimited) (b : List Char) :
    Closed lexemes stop (literal.mark :: b) := by
  intro l _ _ x hx
  obtain rfl : literal.mark = x := by simpa using hx
  exact l.token.extendedBy_mark literal

/-- A literal that is not closed behind a text ends the cutting there. -/
theorem ofTextFrom_open {column : Nat} {a b : List Char} {lexemes : List Lexeme}
    (ha : ofTextFrom column a = .ok lexemes) {literal : Delimited} (hb : literal.Open b) :
    ofTextFrom column (a ++ literal.mark :: b) = .error ⟨literal, column + a.length⟩ := by
  have hfirst := Piece.first_eq_error_iff.2 ⟨rfl, hb⟩
  rw [ofTextFrom_append ha (closed_mark _ _ _ _), ofTextFrom_error hfirst]
  rfl

/-- Where the cutting of a text ends, a literal is opened that is not closed.

**Proof sketch.** Induction on the text, one piece at a time. A piece is cut off in the same way if
the text is cut short in front of the literal, since what follows the piece stays the same there. -/
theorem exists_open_of_ofTextFrom {column : Nat} {cs : List Char} {u : Unclosed}
    (h : ofTextFrom column cs = .error u) :
    ∃ a b, cs = a ++ u.literal.mark :: b ∧ u.column = column + a.length ∧
      (∃ lexemes, ofTextFrom column a = .ok lexemes) ∧ u.literal.Open b := by
  induction cs using Piece.induction_on generalizing column with
  | nil => rw [ofTextFrom_nil] at h; cases h
  | unclosed c cs literal hc =>
    rw [ofTextFrom_error hc] at h
    cases h
    obtain ⟨rfl, hopen⟩ := Piece.first_eq_error_iff.1 hc
    exact ⟨[], cs, rfl, rfl, ⟨[], ofTextFrom_nil column⟩, hopen⟩
  | piece c cs p hp ih =>
    have hrest : ofTextFrom (column + p.text.length) p.rest = .error u := by
      rw [ofTextFrom_cons hp] at h
      cases hbehind : ofTextFrom (column + p.text.length) p.rest with
      | error v => rw [hbehind] at h; exact h
      | ok lexemes => rw [hbehind] at h; cases h
    obtain ⟨a, b, hab, hcolumn, ⟨lexemes, ha⟩, hopen⟩ := ih hrest
    obtain ⟨text, htext, hfirst⟩ := Piece.first_of_prefix hp hab
    refine ⟨p.text ++ a, b, ?_, ?_, ?_, hopen⟩
    · rw [← Piece.text_append_rest hp, hab, List.append_assoc]
    · rw [hcolumn, List.length_append, Nat.add_assoc]
    · rw [htext, List.cons_append, ofTextFrom_cons hfirst]
      exact ⟨_, by rw [ha]; rfl⟩

/-- **Unclosed literals are all that can be wrong with a text**: it is not cut at a literal if and
only if the characters in front of that can be cut and those behind its opening do not close it, and
it can be cut if and only if no such literal lies in it.

**Proof sketch.** A literal that is not closed behind a text that can be cut ends the cutting
(`ofTextFrom_open`), and the cutting ends nowhere else (`exists_open_of_ofTextFrom`). -/
theorem ofText_eq_error_iff (query : String) :
    (∀ u, ofText query = .error u ↔ u.LiesIn query) ∧
      ((∃ lexemes, ofText query = .ok lexemes) ↔ ∀ u : Unclosed, ¬u.LiesIn query) := by
  have hiff : ∀ u, ofText query = .error u ↔ u.LiesIn query := by
    intro u
    constructor
    · intro h
      obtain ⟨a, b, hab, hcolumn, ⟨lexemes, ha⟩, hopen⟩ := exists_open_of_ofTextFrom h
      refine ⟨String.ofList a, String.ofList b, ?_, ?_, ⟨lexemes, ?_⟩, ?_⟩
      · apply String.toList_injective
        simpa using hab
      · simp [hcolumn]
      · simpa [ofText] using ha
      · simpa using hopen
    · rintro ⟨a, b, rfl, hcolumn, ⟨lexemes, ha⟩, hopen⟩
      have herror := ofTextFrom_open ha hopen
      rw [String.length_toList, Nat.zero_add, hcolumn] at herror
      simpa [ofText] using herror
  refine ⟨hiff, ?_⟩
  constructor
  · rintro ⟨lexemes, h⟩ u hu
    rw [(hiff u).2 hu] at h
    cases h
  · intro h
    cases hquery : ofText query with
    | ok lexemes => exact ⟨lexemes, rfl⟩
    | error u => exact (h u ((hiff u).1 hquery)).elim

end Lexeme

end RecordQuery
