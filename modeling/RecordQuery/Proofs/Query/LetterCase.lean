import RecordQuery.Proofs.Query.Selections
import RecordQuery.Proofs.Text.Lower

set_option autoImplicit false

/-!
# Letter case in queries

Without regard to case, a text is held against values in lower case, and so the case in which a query has
its ASCII letters is all one. Values that are equal to a text are equal to it in lower case, too: a
selection that is met in exact case goes on being met when case does not matter, and a negated one goes
the other way.

Patterns are left out. Whether a pattern tells cases apart is settled when the query is parsed, while a
query of texts only is parsed to the same tree under both settings.

## Main definitions

* `RecordQuery.Tree.TextsOnly` — queries without patterns.
* `RecordQuery.Tree.Recased` — the same query but for the case of ASCII letters in its texts.

## Main results

* `RecordQuery.Tree.ofText_caseSensitive` — queries of texts only are parsed without regard to case.
* `RecordQuery.Tree.Recased.predicate_eq` — the case of ASCII letters does not matter.
* `RecordQuery.Tree.predicate_up_to_case` — the two, and how both settings compare.
-/

namespace RecordQuery

open Grammar

/-! ## Queries without patterns -/

/-- Whether a literal is a text. -/
def Literal.IsText : Literal → Prop
  | text _ => True
  | pattern _ => False

/-- Queries without patterns. -/
def Tree.TextsOnly : Tree → Prop
  | joined _ left right => left.TextsOnly ∧ right.TextsOnly
  | field _ _ v | anyField v => v.IsText
  | everything | number .. | date .. => True

section Parsing

variable {s s' : Settings} (hprefer : s.preferPatterns = s'.preferPatterns)

include hprefer

/-- The texts that a bare word can be depend on the preference for patterns. -/
theorem Grammar.Bare.of_isText {text : String} {v : Literal} (h : Bare s text v) (hv : v.IsText) :
    Bare s' text v := by
  cases h with
  | text h => exact .text (hprefer.symm.trans h)
  | pattern => exact hv.elim

/-- The texts that a lexeme can be depend on the preference for patterns. -/
theorem Grammar.IsValue.of_isText {after : List Lexeme} {l : Lexeme} {v : Literal}
    (h : IsValue s after l v) (hv : v.IsText) : IsValue s' after l v := by
  cases h with
  | word hl hnext hbare => exact .word hl hnext (hbare.of_isText hprefer hv)
  | number hl hbare => exact .number hl (hbare.of_isText hprefer hv)
  | quoted hl => exact .quoted hl
  | pattern => exact hv.elim

/-- A phrase without patterns is one under all settings with the same preference for patterns. -/
theorem Grammar.Phrase.of_textsOnly {part : Part} {after w : List Lexeme} {t : Tree}
    (h : Phrase s part after w t) (ht : t.TextsOnly) : Phrase s' part after w t := by
  induction h with
  | group ho hw hc ih => exact .group ho (ih ht) hc
  | date hm hk hd hkey hl => exact .date hm hk hd hkey hl
  | field hm hk hd hkey hl => exact .field hm hk hd hkey (hl.of_isText hprefer ht)
  | number hm hk hd hl => exact .number hm hk hd hl
  | anyField hl => exact .anyField (hl.of_isText hprefer ht)
  | single hb hw hb' ih => exact .single hb (ih ht) hb'
  | joined hb hw hb' hl hb'' hv ihw ihv => exact .joined hb (ihw ht.1) hb' hl hb'' (ihv ht.2)
  | beside hb hw hb' hnext hv ihw ihv => exact .beside hb (ihw ht.1) hb' hnext (ihv ht.2)

end Parsing

/-- A query of texts only is parsed without regard to case. -/
theorem Tree.ofText_caseSensitive {s : Settings} {query : String} {t : Tree}
    (h : ofText s query = .ok t) (ht : t.TextsOnly) (caseSensitive : Bool) :
    ofText { s with caseSensitive := caseSensitive } query = .ok t := by
  obtain ⟨w, hw, hderives⟩ := Parser.ofText_eq_ok_iff.1 h
  refine Parser.ofText_eq_ok_iff.2 ⟨w, hw, ?_⟩
  cases hderives with
  | everything hblank => exact .everything hblank
  | conjunction hphrase =>
    have hprefer : s.preferPatterns =
        ({ s with caseSensitive := caseSensitive } : Settings).preferPatterns := rfl
    exact .conjunction (hphrase.of_textsOnly hprefer ht)

/-! ## The case of ASCII letters -/

/-- The same literal but for the case of ASCII letters in a text. -/
inductive Literal.Recased : Literal → Literal → Prop
  | text {s t : String} (h : Text.SameLetters s t) : Recased (.text s) (.text t)
  | pattern (p : Pattern) : Recased (.pattern p) (.pattern p)

/-- The same query but for the case of ASCII letters in its texts. Keys and bounds are kept. -/
inductive Tree.Recased : Tree → Tree → Prop
  | everything : Recased .everything .everything
  | joined (j : Joint) {left left' right right' : Tree} (hleft : Recased left left')
      (hright : Recased right right') : Recased (.joined j left right) (.joined j left' right')
  | field (key : String) (negated : Bool) {v v' : Literal} (hv : v.Recased v') :
      Recased (.field key negated v) (.field key negated v')
  | number (key : String) (c : Comparison) (negated : Bool) (bound : Number) :
      Recased (.number key c negated bound) (.number key c negated bound)
  | date (side : Side) (negated : Bool) (bound : String) :
      Recased (.date side negated bound) (.date side negated bound)
  | anyField {v v' : Literal} (hv : v.Recased v') : Recased (.anyField v) (.anyField v')

variable {s : Settings}

/-- Without regard to case, literals with the same letters are made ready alike. -/
theorem Literal.Recased.ofLiteral_eq {v v' : Literal} (h : v.Recased v')
    (hs : s.caseSensitive = false) : Matcher.ofLiteral s v = Matcher.ofLiteral s v' := by
  cases h with
  | text h => simp [Matcher.ofLiteral, hs, h.lower_eq]
  | pattern => rfl

/-- **Without regard to case, the case of ASCII letters in the texts of a query does not matter.** -/
theorem Tree.Recased.predicate_eq {t u : Tree} (h : t.Recased u) (hs : s.caseSensitive = false) :
    t.predicate s = u.predicate s := by
  induction h with
  | everything | number | date => rfl
  | joined j _ _ ihleft ihright => cases j <;> simp only [predicate, ihleft, ihright]
  | field _ _ hv | anyField hv => simp only [predicate, hv.ofLiteral_eq hs]

/-! ## Exact case -/

/-- What matches a literal in exact case matches it without regard to case. -/
theorem Matcher.accepts_of_exact {v : Literal} {x : Value}
    (h : (ofLiteral { s with caseSensitive := true } v).accepts x = true) :
    (ofLiteral { s with caseSensitive := false } v).accepts x = true := by
  cases v with
  | text t =>
    have hx : x.toText = t := beq_iff_eq.1 h
    show (Text.lower x.toText == Text.lower t) = true
    rw [hx]
    exact beq_self_eq_true _
  | pattern p => exact h

namespace Tree

variable {now : Instant} {record : Record} {t l : Tree}

/-- What a selection asks before it is negated goes on being met when case ceases to matter. -/
theorem plain_predicate_of_exact (hl : l ∈ t.selections)
    (h : l.plain.predicate { s with caseSensitive := true } now record = true) :
    l.plain.predicate { s with caseSensitive := false } now record = true := by
  cases l with
  | joined => exact absurd hl joined_notMem_selections
  | everything | number | date => exact h
  | field key negated v =>
    simp only [plain, predicate, Bool.bne_false, Option.any_eq_true] at h ⊢
    obtain ⟨x, hx, haccepts⟩ := h
    exact ⟨x, hx, Matcher.accepts_of_exact haccepts⟩
  | anyField v =>
    simp only [plain, predicate, List.any_eq_true] at h ⊢
    obtain ⟨x, hx, haccepts⟩ := h
    exact ⟨x, hx, Matcher.accepts_of_exact haccepts⟩

/-- **Matching without regard to case is blind to the case of ASCII letters, and never finer than
matching in exact case.** A query of texts only is parsed to one tree under both settings. Under any
settings without regard to case, all trees that differ from it by the case of ASCII letters in their
texts select the same records. If no selection is negated, what is selected in exact case is also
selected without regard to case. If all are negated, as selections by any field cannot be, what is
selected without regard to case is also selected in exact case.

**Proof sketch.** The texts are the same in lower case, with their neighbours of a capital sigma
(`Text.SameLetters.lower_eq`), so that the trees have one predicate (`Recased.predicate_eq`). A text that
is equal to a value is equal to it in lower case, which each selection keeps before it is negated
(`plain_predicate_of_exact`) and the query keeps or turns round with its selections
(`predicate_mono_of_plain`, `predicate_anti_of_negated`). -/
theorem predicate_up_to_case {s : Settings} {query : String} (h : ofText s query = .ok t)
    (ht : t.TextsOnly) :
    (∀ caseSensitive, ofText { s with caseSensitive := caseSensitive } query = .ok t) ∧
      ∀ (s' : Settings) (now : Instant) (record : Record),
        let exactly := t.predicate { s' with caseSensitive := true } now record
        let loosely := t.predicate { s' with caseSensitive := false } now record
        (∀ u, t.Recased u → u.predicate { s' with caseSensitive := false } now record = loosely) ∧
          ((∀ l ∈ t.selections, l.isNegated = false) → exactly = true → loosely = true) ∧
          ((∀ l ∈ t.selections, l.isNegated = true) → loosely = true → exactly = true) := by
  refine ⟨ofText_caseSensitive h ht, ?_⟩
  intro s' now record exactly loosely
  refine ⟨?_, ?_, ?_⟩
  · intro u hu
    have hpredicate := hu.predicate_eq (s := { s' with caseSensitive := false }) rfl
    exact congrFun (congrFun hpredicate.symm now) record
  · intro hplain
    exact predicate_mono_of_plain hplain fun l hl => plain_predicate_of_exact hl
  · intro hnegated
    exact predicate_anti_of_negated hnegated fun l hl => plain_predicate_of_exact hl

/-- A word that ends in a capital sigma: the record that has it is selected by the query that writes it
in small letters, in exact case too, and by the one that writes it in capitals only if case does not
matter. A record without the field is selected by the negated query either way. -/
theorem predicate_up_to_case_sigma :
    let now : Instant := { seconds := 0, nanos := 0, offset := 0 }
    let record : Record := [("word", .text "odoΣ")]
    let small : Tree := .field "word" false (.text "odoΣ")
    let capital : Tree := .field "word" false (.text "ODOΣ")
    let other : Tree := .field "word" true (.text "odoΣ")
    let exactly : Settings := { caseSensitive := true }
    let loosely : Settings := { caseSensitive := false }
    (ofText loosely "word:\"odoΣ\"" = .ok small ∧ ofText exactly "word:\"odoΣ\"" = .ok small) ∧
      (small.predicate exactly now record = true ∧ small.predicate loosely now record = true) ∧
      (capital.predicate exactly now record = false ∧ capital.predicate loosely now record = true) ∧
      ofText loosely "-word:\"odoΣ\"" = .ok other ∧
      (other.predicate loosely now [] = true ∧ other.predicate exactly now [] = true) := by
  intro now record small capital other exactly loosely
  have hsmall : ofText loosely "word:\"odoΣ\"" = .ok small := by cbv
  have hother : ofText loosely "-word:\"odoΣ\"" = .ok other := by cbv
  obtain ⟨hparse, hall⟩ := predicate_up_to_case hsmall trivial
  obtain ⟨hrecased, hmono, -⟩ := hall {} now record
  obtain ⟨-, hnegated⟩ := predicate_up_to_case hother trivial
  obtain ⟨-, -, hanti⟩ := hnegated {} now []
  have hexact : small.predicate exactly now record = true := rfl
  have hloose : small.predicate loosely now record = true :=
    hmono (fun l hl => by rw [List.mem_singleton.1 hl]; rfl) hexact
  have hcapital : small.Recased capital := .field _ _ (.text (by decide))
  have hmissing : other.predicate loosely now [] = true := rfl
  refine ⟨⟨hsmall, hparse true⟩, ⟨hexact, hloose⟩, ⟨by decide, ?_⟩, hother, hmissing, ?_⟩
  · exact (hrecased capital hcapital).trans hloose
  · exact hanti (fun l hl => by rw [List.mem_singleton.1 hl]; rfl) hmissing

end Tree

end RecordQuery
