import RecordQuery.Proofs.Query.Locality
import RecordQuery.Proofs.Query.ParserFaults

set_option autoImplicit false

/-!
# Unmatched parentheses

A conjunction ends at a closing parenthesis as it does at the end of the query. So a query in front
of a closing parenthesis is read as it is on its own, and the parenthesis has no opening one,
whatever stands behind it.

## Main results

* `RecordQuery.Grammar.Phrase.ne_everything` — a phrase is not the empty query.
* `RecordQuery.Tree.ofText_closing_append` — the fault of a parenthesis behind a query.
* `RecordQuery.Tree.ofText_eq_unmatched_iff` — an unmatched parenthesis is one behind a query, and
  no text that is put behind it mends that.
-/

namespace RecordQuery

open Grammar Lexeme

variable {s : Settings}

/-- A phrase is not the empty query. -/
theorem Grammar.Phrase.ne_everything {part : Part} {after w : List Lexeme} {t : Tree}
    (h : Phrase s part after w t) : t ≠ .everything := by
  induction h with
  | group _ _ _ ih => exact ih
  | single _ _ _ ih => exact ih
  | date | field | number | anyField | joined | beside => simp

/-- Blanks are the empty query, and nothing else is. -/
theorem Tree.ofText_eq_everything_iff {query : String} {w : List Lexeme}
    (h : Lexeme.ofText query = .ok w) : Tree.ofText s query = .ok .everything ↔ Blanks w := by
  constructor
  · intro hempty
    obtain ⟨w', hw', hderives⟩ := Parser.ofText_eq_ok_iff.1 hempty
    obtain rfl : w = w' := Except.ok.inj (h.symm.trans hw')
    cases hderives with
    | everything hw => exact hw
    | conjunction hw => exact absurd rfl hw.ne_everything
  · intro hw
    exact Parser.ofText_eq_ok_iff.2 ⟨w, h, .everything hw⟩

/-- A closing parenthesis behind a text comes right behind the lexemes of the text. -/
theorem Lexeme.ofText_append_closing {a : String} {w : List Lexeme} (ha : ofText a = .ok w)
    (b : String) :
    ofText (a ++ ")" ++ b) =
      (ofTextFrom (a.length + 1) b.toList).map (w ++ ⟨.closing, a.length, ")"⟩ :: ·) := by
  have hclosing : Spells [')'] .closing := spells_mark (by simp)
  have happend := ofTextFrom_append (b := ')' :: b.toList) ha fun l _ _ x hx => by
    obtain rfl : x = ')' := by simpa using hx.symm
    exact l.token.extendedBy_closing
  have hbehind := hclosing.append (b := b.toList) (fun _ _ => rfl) a.length
  simp only [Nat.zero_add, String.length_toList] at happend
  simp only [List.singleton_append, List.length_singleton] at hbehind
  rw [ofText, String.append_assoc, String.toList_append, String.toList_append]
  rw [show ")".toList ++ b.toList = ')' :: b.toList by simp, happend, hbehind]
  cases ofTextFrom (a.length + 1) b.toList <;> rfl

namespace Tree

/-- **A closing parenthesis behind a query has no opening one**, as long as the text that goes on
behind it can be cut into lexemes.

**Proof sketch.** The lexemes of the query are a conjunction at the end of the query, and so they
are in front of a closing parenthesis, since neither is a sign. The parser reads the conjunction and
finds the parenthesis behind it. -/
theorem ofText_closing_append {a : String} {t : Tree} (ha : ofText s a = .ok t)
    (hne : t ≠ .everything) {b : String} {lexemes : List Lexeme}
    (hb : Lexeme.ofText (a ++ ")" ++ b) = .ok lexemes) :
    ofText s (a ++ ")" ++ b) = .error (.unmatched a.length) := by
  obtain ⟨w, hw, hderives⟩ := Parser.ofText_eq_ok_iff.1 ha
  cases hderives with
  | everything => exact absurd rfl hne
  | conjunction hphrase =>
    have hcut := Lexeme.ofText_append_closing hw b
    rw [hb] at hcut
    obtain ⟨behind, -, rfl⟩ := Except.map_eq_ok_iff.1 hcut.symm
    have hfront : Phrase s .conjunction (⟨.closing, a.length, ")"⟩ :: behind) w t :=
      hphrase.in_front_of (by simp [not_signNext_nil, signNext_cons])
    have hread := Parser.reads_of_phrase hfront rfl
    have hblank := (Parser.conjunctionOf_ok_head hread).2
    unfold ofText
    rw [hb]
    simp only
    rw [Parser.ofLexemes_eq, if_neg, hread]
    · rfl
    · intro hnil
      rw [hnil] at hblank
      cases hblank

/-- No text that goes on behind a query and a closing parenthesis is a query. -/
theorem ofText_closing_append_ne {a : String} {t : Tree} (ha : ofText s a = .ok t)
    (hne : t ≠ .everything) (b : String) (u : Tree) : ofText s (a ++ ")" ++ b) ≠ .ok u := by
  intro hb
  obtain ⟨lexemes, hlexemes, -⟩ := Parser.ofText_eq_ok_iff.1 hb
  rw [ofText_closing_append ha hne hlexemes] at hb
  cases hb

/-- A text with an unmatched parenthesis can be cut, and in front of the parenthesis stands a
query. -/
theorem exists_ofText_of_unmatched {query : String} {column : Nat}
    (h : ofText s query = .error (.unmatched column)) :
    (∃ lexemes, Lexeme.ofText query = .ok lexemes) ∧
      ∃ a b t, query = a ++ ")" ++ b ∧ a.length = column ∧ ofText s a = .ok t ∧
        t ≠ .everything := by
  cases hquery : Lexeme.ofText query with
  | error u =>
    rw [ofText, hquery] at h
    cases h
  | ok lexemes =>
    rw [ofText, hquery] at h
    refine ⟨⟨lexemes, rfl⟩, ?_⟩
    rcases Parser.ofLexemes_error h with hread | ⟨t, c, rest, hread, hc, heq⟩
    · cases Parser.arises_of_conjunctionOf hread
    · cases heq
      obtain ⟨-, w, rfl, hphrase⟩ := Parser.conjunctionOf_sound hread
      obtain ⟨a, b, hab, hlength, hw, hspells⟩ := exists_split hquery
      have htext : c.text = ")" := by
        rw [hc] at hspells
        exact String.toList_injective hspells.eq_of_closing
      have hend : Phrase s .conjunction [] w t :=
        hphrase.in_front_of (by simp [not_signNext_nil, signNext_cons, hc])
      exact ⟨a, b, t, by rw [hab, htext], hlength,
        Parser.ofText_eq_ok_iff.2 ⟨w, hw, .conjunction hend⟩, hphrase.ne_everything⟩

/-- **An unmatched parenthesis is one behind a query**: the fault is in a column exactly if the text
can be cut into lexemes and has a closing parenthesis there behind a text that is a query on its
own, and not the empty one. Whatever is put behind a text with this fault, it stays no query.

**Proof sketch.** A parenthesis behind a query has no opening one (`ofText_closing_append`), and in
front of an unmatched one stands a query (`exists_ofText_of_unmatched`). More text behind leaves
both where they are. -/
theorem ofText_eq_unmatched_iff (s : Settings) (query : String) (column : Nat) :
    (ofText s query = .error (.unmatched column) ↔
      (∃ lexemes, Lexeme.ofText query = .ok lexemes) ∧
        ∃ a b t, query = a ++ ")" ++ b ∧ a.length = column ∧ ofText s a = .ok t ∧
          t ≠ .everything) ∧
    (ofText s query = .error (.unmatched column) →
      ∀ more t, ofText s (query ++ more) ≠ .ok t) := by
  refine ⟨⟨exists_ofText_of_unmatched, ?_⟩, fun h more u => ?_⟩
  · rintro ⟨⟨lexemes, hlexemes⟩, a, b, t, rfl, rfl, ha, hne⟩
    exact ofText_closing_append ha hne hlexemes
  · obtain ⟨-, a, b, t, rfl, -, ha, hne⟩ := exists_ofText_of_unmatched h
    rw [String.append_assoc]
    exact ofText_closing_append_ne ha hne (b ++ more) u

/-- The first parenthesis is a date, so that it is the second one that is unmatched. -/
theorem ofText_eq_unmatched_date :
    ofText {} "(a) before:)) (" = .error (.unmatched 12) ∧
      ∀ more t, ofText {} ("(a) before:)) (" ++ more) ≠ .ok t := by
  have hquery : ∃ lexemes, Lexeme.ofText "(a) before:)) (" = .ok lexemes := ⟨_, by cbv⟩
  have hfront : ofText {} "(a) before:)" =
      .ok (.joined .and (.anyField (.text "a")) (.date .before false ")")) := by cbv
  obtain ⟨hiff, hfinal⟩ := ofText_eq_unmatched_iff {} "(a) before:)) (" 12
  have herror := hiff.2 ⟨hquery, "(a) before:)", " (", _, by decide, by decide, hfront, by simp⟩
  exact ⟨herror, hfinal herror⟩

end Tree

end RecordQuery
