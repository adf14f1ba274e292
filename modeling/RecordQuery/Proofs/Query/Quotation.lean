import RecordQuery.Proofs.Query.Tiling
import RecordQuery.Proofs.Query.WellFormed

set_option autoImplicit false

/-!
# Quoted texts

A backslash in quotes escapes a quote and nothing else, and it cannot be escaped itself. So a text is
written in one way only: each quote in it has a backslash in front, whatever stands there already. A
text that ends in a backslash is not written at all, since that backslash would escape the closing
quote.

## Main definitions

* `RecordQuery.Lexeme.Fills` — a lexeme that starts and ends where its text does.

## Main results

* `RecordQuery.Piece.inside_iff` — what stands inside quotes is written in one way.
* `RecordQuery.Lexeme.spells_quoted_iff` — one run of characters spells a quoted text.
* `RecordQuery.Lexeme.quoted_written_once` — a query holds a quoted text in that way only.
-/

namespace RecordQuery

/-! ## Inside quotes -/

namespace Piece

open Lexeme

/-- Inside quotes each quote has a backslash in front, and all else stands for itself. -/
theorem Inside.text_eq {s text : List Char} (h : Inside s text) :
    text = s.flatMap Lexeme.escape ++ ['"'] := by
  induction h with
  | close => rfl
  | @escape s text _ ih =>
    have hquote : Lexeme.escape '"' = ['\\', '"'] := rfl
    rw [List.flatMap_cons, hquote, ih]
    rfl
  | @other c s text hc _ _ ih =>
    have hself : Lexeme.escape c = [c] := if_neg hc
    rw [List.flatMap_cons, hself, ih]
    rfl

/-- **What stands inside quotes is written in one way**, and it can be anything that does not end in a
backslash. -/
theorem inside_iff {s text : List Char} :
    Inside s text ↔ s.getLast? ≠ some '\\' ∧ text = s.flatMap escape ++ ['"'] := by
  constructor
  · intro h
    exact ⟨h.getLast?_ne, h.text_eq⟩
  · rintro ⟨hlast, rfl⟩
    exact inside_flatMap_escape hlast

end Piece

/-! ## Quoted lexemes -/

namespace Lexeme

variable {cs : List Char} {t : String}

/-- A quoted text is spelled in quotes, with a backslash in front of each quote in it. -/
theorem Spells.eq_of_quoted (h : Spells cs (.quoted t)) :
    ¬EndsInBackslash t ∧ cs = quote t.toList := by
  obtain ⟨c, cs', p, hcut, ht, rfl⟩ := h.exists_cut
  cases hcut with
  | @quoted _ s text rest hquoted =>
    obtain ⟨hinside, -⟩ := Piece.unquote?_eq_some_iff.1 hquoted
    obtain ⟨hlast, htext⟩ := Piece.inside_iff.1 hinside
    cases ht
    rw [EndsInBackslash, String.toList_ofList, quote, ← htext]
    exact ⟨hlast, rfl⟩
  | mark _ hmark =>
    cases ht
    simp at hmark
  | comparison =>
    unfold Piece.comparison at ht
    split at ht <;> cases ht
  | word =>
    have hword := Option.some.inj ht
    unfold wordToken at hword
    split at hword <;> cases hword
  | blank | pattern | ignored => cases ht

/-- **One run of characters spells a quoted text**, unless the text ends in a backslash. -/
theorem spells_quoted_iff :
    Spells cs (.quoted t) ↔ ¬EndsInBackslash t ∧ cs = quote t.toList := by
  constructor
  · exact Spells.eq_of_quoted
  · rintro ⟨hlast, rfl⟩
    have hspells := spells_quote hlast
    rwa [String.ofList_toList] at hspells

/-! ## Quoted texts of queries -/

/-- A lexeme starts where a text starts and ends where it ends. -/
def Fills (l : Lexeme) (source : String) : Prop :=
  l.column = 0 ∧ l.column + l.text.length = source.length

/-- A lexeme that fills its text is all of it. -/
theorem Fills.text_eq {l : Lexeme} {source : String} (hl : l.Fills source)
    (h : ofText source = .ok [l]) : l.text = source := by
  obtain ⟨a, b, hsource, ha, -, -⟩ := exists_split (w := []) h
  have hlength := congrArg String.length hsource
  obtain ⟨hcolumn, hend⟩ := hl
  simp only [String.length_append] at hlength
  have hfront : a = "" := String.length_eq_zero_iff.1 (by omega)
  have hback : b = "" := String.length_eq_zero_iff.1 (by omega)
  rw [hsource, hfront, hback, String.empty_append, String.append_empty]

/-- **A quoted text is written in one way.** The only source that is a single lexeme from start to end
and says the text is the text in quotes, with a backslash in front of each quote in it, and there is
none for a text that ends in a backslash. In every query the quoted texts are written in this way, and
none of them ends in a backslash.

**Proof sketch.** A lexeme is spelled by its characters (`spells_of_mem`), and one run of characters
spells a quoted text (`spells_quoted_iff`). The lexeme that fills a source is all of it. -/
theorem quoted_written_once :
    (∀ t source, (∃ l, ofText source = .ok [l] ∧ l.token = .quoted t ∧ l.Fills source) ↔
      ¬EndsInBackslash t ∧ source = String.ofList (quote t.toList)) ∧
    ∀ query lexemes, ofText query = .ok lexemes → ∀ l ∈ lexemes, ∀ t, l.token = .quoted t →
      ¬EndsInBackslash t ∧ l.text = String.ofList (quote t.toList) := by
  have hwritten : ∀ query lexemes, ofText query = .ok lexemes → ∀ l ∈ lexemes, ∀ t,
      l.token = .quoted t → ¬EndsInBackslash t ∧ l.text = String.ofList (quote t.toList) := by
    intro query lexemes h l hl t ht
    have hspells := spells_of_mem h hl
    rw [ht, spells_quoted_iff] at hspells
    obtain ⟨hlast, htext⟩ := hspells
    exact ⟨hlast, by rw [← htext, String.ofList_toList]⟩
  refine ⟨fun t source => ⟨?_, ?_⟩, hwritten⟩
  · rintro ⟨l, h, ht, hl⟩
    obtain ⟨hlast, htext⟩ := hwritten source [l] h l List.mem_cons_self t ht
    exact ⟨hlast, by rw [← hl.text_eq h, htext]⟩
  · rintro ⟨hlast, rfl⟩
    have hspells : Spells (quote t.toList) (.quoted t) := spells_quoted_iff.2 ⟨hlast, rfl⟩
    refine ⟨⟨.quoted t, 0, String.ofList (quote t.toList)⟩, ?_, rfl, rfl, Nat.zero_add _⟩
    rw [ofText, String.toList_ofList]
    exact hspells 0

/-- Backslashes in front of a quote stand for themselves, but for the last one. -/
theorem quoted_written_once_backslashes :
    let source := "\"\\\\\\\"é\""
    let query := "-k:\"\\\\\"\"é\"\\ \""
    let l : Lexeme := ⟨.quoted "\\\"", 3, "\"\\\\\"\""⟩
    let lexemes : List Lexeme := [⟨.minus, 0, "-"⟩, ⟨.word "k", 1, "k"⟩, ⟨.colon, 2, ":"⟩, l,
      ⟨.quoted "\\ ", 9, "\"\\ \""⟩]
    (∃ l, ofText source = .ok [l] ∧ l.token = .quoted "\\\\\"é" ∧ l.Fills source) ∧
      (∀ source, ¬∃ l, ofText source = .ok [l] ∧ l.token = .quoted "é\\" ∧ l.Fills source) ∧
      ofText query = .ok lexemes ∧ l ∈ lexemes ∧ ¬EndsInBackslash "\\\"" ∧
        l.text = String.ofList (quote "\\\"".toList) := by
  intro source query l lexemes
  have hquery : ofText query = .ok lexemes := by cbv
  have hl : l ∈ lexemes := by simp [lexemes]
  obtain ⟨hsource, hwritten⟩ := quoted_written_once
  refine ⟨?_, ?_, hquery, hl, hwritten query lexemes hquery l hl _ rfl⟩
  · exact (hsource _ _).2 ⟨by unfold EndsInBackslash; decide, by decide⟩
  · intro other h
    exact ((hsource _ _).1 h).1 (by unfold EndsInBackslash; decide)

end Lexeme

end RecordQuery
