import Mathlib
import RecordQuery.Proofs.Query.ParserSteps

set_option autoImplicit false

/-!
# Parsing follows the grammar

The parser reads from a text exactly the trees that the lexemes of the text derive. Since the parser
is a function, this also says that lexemes derive one tree at most.

## Main definitions

* `RecordQuery.Parser.Reads` — what the parser makes of a phrase.

## Main results

* `RecordQuery.Parser.conjunctionOf_sound` — what is read is a phrase of the grammar.
* `RecordQuery.Parser.reads_of_phrase` — every phrase of the grammar is read.
* `RecordQuery.Parser.ofLexemes_eq_ok_iff` — the two together, for whole queries.
* `RecordQuery.Grammar.ofText_eq_ok_iff_derives` — texts parse as the grammar derives them, and to
  one tree.
-/

namespace RecordQuery

namespace Parser

open Grammar

variable {s : Settings} {lexemes rest after : List Lexeme} {t : Tree}

/-! ## What is read is a phrase -/

/-- A selection without parentheses that is read is one of the grammar, in front of anything but a
sign. -/
theorem selectionOf_sound (h : selectionOf s lexemes = .ok (t, rest)) (hnext : ¬SignNext after) :
    ∃ w, lexemes = w ++ rest ∧ Phrase s .selection after w t := by
  by_cases hk : Keyed lexemes
  · obtain ⟨m, negated, k, key, behind, rfl, hm, hkey, hsign⟩ := hk
    cases behind with
    | nil => exact absurd hsign not_signNext_nil
    | cons d behind =>
      rcases signNext_cons.1 hsign with hd | ⟨c, hd⟩
      · rw [selectionOf_colon hm hkey hd, keySelection_eq_ok_iff] at h
        obtain ⟨l, rfl, ⟨side, hside, rfl⟩ | ⟨hside, v, hv, rfl⟩⟩ := h
        · exact ⟨m ++ [k, d, l], by simp, .date hm hkey hd hside (dateText_iff.2 rfl)⟩
        · have hl := (literal_eq_ok_iff fun _ _ => hnext).1 hv
          exact ⟨m ++ [k, d, l], by simp, .field hm hkey hd hside hl⟩
      · rw [selectionOf_comparison hm hkey hd, numberSelection_eq_ok_iff] at h
        obtain ⟨l, x, rfl, hl, rfl⟩ := h
        exact ⟨m ++ [k, d, l], by simp, .number hm hkey hd hl⟩
  · cases lexemes with
    | nil => cases h
    | cons l behind =>
      rw [selectionOf_value hk, Except.map_eq_ok_iff] at h
      obtain ⟨v, hv, heq⟩ := h
      cases heq
      exact ⟨[l], rfl, .anyField ((literal_eq_ok_iff fun _ _ => hnext).1 hv)⟩

/-- A group or selection that is read is one of the grammar, if conjunctions in fewer lexemes
are. -/
theorem operandOf_sound_of
    (ih : ∀ inner u mid, inner.length < lexemes.length → conjunctionOf s inner = .ok (u, mid) →
      ∃ w, inner = w ++ mid ∧ Phrase s .conjunction mid w u)
    (h : operandOf s lexemes = .ok (t, rest)) (hnext : ¬SignNext after) :
    ∃ w, lexemes = w ++ rest ∧ Phrase s .selection after w t := by
  cases lexemes with
  | nil => rw [operandOf_nil] at h; cases h
  | cons o inner =>
    rw [operandOf_cons] at h
    split at h
    · rename_i ho
      obtain ⟨⟨u, mid⟩, hinner, hclose⟩ := Except.bind_eq_ok_iff.1 h
      obtain ⟨c, hc, heq⟩ := closeOf_eq_ok_iff.1 hclose
      cases heq
      obtain ⟨w, rfl, hw⟩ := ih inner t (c :: rest) (by simp) hinner
      have hsign : SignNext (c :: rest) ↔ SignNext (c :: after) := by simp [signNext_cons, hc]
      exact ⟨o :: (w ++ [c]), by simp, .group ho (hw.in_front_of hsign) hc⟩
    · exact selectionOf_sound h hnext

/-- **What is read is a phrase**: a conjunction that the parser reads is one of the grammar, and it
ends at the end of the query or at a closing parenthesis.

**Proof sketch.** Induction on the number of lexemes. The first operand has read a selection, since
no sign comes behind it: where the conjunction ends there is none, a joint is none, and the parser
reads no conjunction that starts with one. Behind the blanks that follow there is an end, a joint or
neither, which are the three rules for conjunctions. -/
theorem conjunctionOf_sound (h : conjunctionOf s lexemes = .ok (t, rest)) :
    endsHere rest = true ∧ ∃ w, lexemes = w ++ rest ∧ Phrase s .conjunction rest w t := by
  induction hn : lexemes.length using Nat.strong_induction_on generalizing lexemes rest t with
  | _ n ih =>
  subst hn
  obtain ⟨left, mid, hleft, hcase⟩ := conjunctionOf_eq_ok_iff.1 h
  have hskip := length_skipBlank lexemes
  have hmid := length_lt_of_map_pair hleft
  have hskip' := length_skipBlank mid
  have hselection : ¬SignNext mid →
      ∃ w, skipBlank lexemes = w ++ mid ∧ Phrase s .selection mid w left :=
    operandOf_sound_of (fun inner u mid' hlt hi => (ih _ (by omega) hi rfl).2) hleft
  obtain ⟨b, hb, hlex⟩ := exists_blanks_append lexemes
  obtain ⟨b', hb', hmideq⟩ := exists_blanks_append mid
  rcases hcase with ⟨hend, rfl, rfl⟩ | ⟨hend, right, hright, rfl⟩
  · -- the conjunction ends behind the operand
    obtain ⟨w, hw, hphrase⟩ := hselection fun hs =>
      not_signNext_of_endsHere hend (signNext_skipBlank hs)
    rw [hmideq] at hphrase
    refine ⟨hend, b ++ w ++ b', ?_, .single hb hphrase hb'⟩
    calc lexemes = b ++ (w ++ mid) := by rw [← hw, ← hlex]
      _ = b ++ (w ++ (b' ++ skipBlank mid)) := by rw [← hmideq]
      _ = b ++ w ++ b' ++ skipBlank mid := by simp
  by_cases hjoint : JointNext mid
  · -- a joint follows
    obtain ⟨j, l, behind, hs, hl⟩ := jointNext_iff.1 hjoint
    rw [hs] at hskip' hmideq hright ⊢
    rw [joint_cons hl] at hright ⊢
    rw [conjunctionOf_skipBlank] at hright
    obtain ⟨hrest, v, rfl, hv⟩ := ih _ (by simp at hskip'; omega) hright rfl
    obtain ⟨w, hw, hphrase⟩ := hselection fun hsign => by
      have := signNext_skipBlank hsign
      rw [hs, signNext_cons, hl.1] at this
      simp at this
    rw [hmideq] at hphrase
    refine ⟨hrest, b ++ w ++ b' ++ l :: ([] ++ v), ?_, ?_⟩
    · rw [hlex, hw, hmideq]
      simp
    · exact .joined hb hphrase hb' hl (fun _ h => nomatch h) hv
  · -- a conjunction follows without one
    rw [joint_of_not_jointNext hjoint] at hright ⊢
    obtain ⟨hrest, v, hveq, hv⟩ := ih _ (by simp; omega) hright rfl
    obtain ⟨w, hw, hphrase⟩ := hselection fun hsign =>
      (conjunctionOf_ok_head hright).1 (signNext_skipBlank hsign)
    simp only at hveq
    rw [hveq, ← List.append_assoc] at hmideq
    rw [hmideq] at hphrase hjoint
    refine ⟨hrest, b ++ w ++ b' ++ v, ?_, .beside hb hphrase hb' hjoint hv⟩
    rw [hlex, hw, hmideq]
    simp

/-- A group or selection that is read is one of the grammar, in front of anything but a sign. -/
theorem operandOf_sound (h : operandOf s lexemes = .ok (t, rest)) (hnext : ¬SignNext after) :
    ∃ w, lexemes = w ++ rest ∧ Phrase s .selection after w t :=
  operandOf_sound_of (fun _ _ _ _ hinner => (conjunctionOf_sound hinner).2) h hnext

/-! ## Every phrase is read -/

/-- The parser reads a phrase: a selection in front of anything, and a conjunction in front of the
end of the query or a closing parenthesis. -/
def Reads (s : Settings) : Part → List Lexeme → List Lexeme → Tree → Prop
  | .selection, after, w, t => operandOf s (w ++ after) = .ok (t, after)
  | .conjunction, after, w, t =>
    endsHere after = true → conjunctionOf s (w ++ after) = .ok (t, after)

/-- Skipping stops in front of a selection. -/
theorem skipBlank_append_selection {b w after : List Lexeme} (hb : Blanks b)
    (hw : Phrase s .selection after w t) : skipBlank (b ++ (w ++ after)) = w ++ after := by
  obtain ⟨l, w', rfl, hl⟩ := hw.exists_head
  rw [skipBlank_append hb, List.cons_append, skipBlank_cons hl]

/-- **Every phrase is read.**

**Proof sketch.** Induction on the phrase, with the parser's steps for each rule. A conjunction in
parentheses stands in front of a closing parenthesis, where the parser ends it as it does at the end
of the query. -/
theorem reads_of_phrase {part : Part} {after w : List Lexeme} (h : Phrase s part after w t) :
    Reads s part after w t := by
  induction h with
  | @group after w t o c ho hw hc ih =>
    have hinner : conjunctionOf s (w ++ c :: after) = .ok (t, c :: after) :=
      ih (by simp [endsHere, hc])
    simp only [Reads, List.cons_append, List.append_assoc, List.nil_append, operandOf_cons, ho,
      if_true, hinner]
    exact closeOf_eq_ok_iff.2 ⟨c, hc, rfl⟩
  | @date after m k d l _ _ _ side hm hk hd hkey hl =>
    simp only [Reads, List.append_assoc, List.cons_append, List.nil_append]
    rw [operandOf_keyed hm hk, selectionOf_colon hm hk hd, keySelection_eq_ok_iff]
    exact ⟨l, rfl, .inl ⟨side, hkey, by rw [dateText_iff.1 hl]⟩⟩
  | @field after m k d l _ _ v hm hk hd hkey hl =>
    simp only [Reads, List.append_assoc, List.cons_append, List.nil_append]
    rw [operandOf_keyed hm hk, selectionOf_colon hm hk hd, keySelection_eq_ok_iff]
    exact ⟨l, rfl, .inr ⟨hkey, v, (literal_eq_ok_iff hl.not_signNext).2 hl, rfl⟩⟩
  | @number after m k d l _ _ _ x hm hk hd hl =>
    simp only [Reads, List.append_assoc, List.cons_append, List.nil_append]
    rw [operandOf_keyed hm hk, selectionOf_comparison hm hk hd, numberSelection_eq_ok_iff]
    exact ⟨l, x, rfl, hl, rfl⟩
  | @anyField after l v hl =>
    have hv : literal s l = .ok v := (literal_eq_ok_iff hl.not_signNext).2 hl
    rw [Reads, List.singleton_append, operandOf_cons, if_neg hl.token_ne.1,
      selectionOf_value (not_keyed_of_value hl), hv]
    rfl
  | @single after b w b' t hb hw hb' ih =>
    intro hend
    have hskip : skipBlank (b ++ w ++ b' ++ after) = w ++ (b' ++ after) := by
      simpa using skipBlank_append_selection hb hw
    have hmid : skipBlank (b' ++ after) = after := by
      rw [skipBlank_append hb', skipBlank_of_endsHere hend]
    rw [conjunctionOf_eq_ok_iff, hskip]
    exact ⟨t, b' ++ after, ih, .inl ⟨by rw [hmid, hend], rfl, hmid.symm⟩⟩
  | @joined after b w b' b'' v l j t u hb hw hb' hl hb'' hv ihw ihv =>
    intro hend
    have hskip : skipBlank (b ++ w ++ b' ++ l :: (b'' ++ v) ++ after) =
        w ++ (b' ++ l :: (b'' ++ v ++ after)) := by
      simpa using skipBlank_append_selection hb hw
    have hmid : skipBlank (b' ++ l :: (b'' ++ v ++ after)) = l :: (b'' ++ v ++ after) := by
      rw [skipBlank_append hb', skipBlank_cons (by simp [hl.1])]
    have hright : conjunctionOf s (skipBlank (b'' ++ v ++ after)) = .ok (u, after) := by
      rw [List.append_assoc, skipBlank_append hb'', conjunctionOf_skipBlank, ihv hend]
    rw [conjunctionOf_eq_ok_iff, hskip]
    refine ⟨t, _, ihw, .inr ?_⟩
    rw [hmid, joint_cons hl]
    exact ⟨by simp [endsHere, hl.1], u, hright, rfl⟩
  | @beside after b w b' v t u hb hw hb' hnext hv ihw ihv =>
    intro hend
    have hskip : skipBlank (b ++ w ++ b' ++ v ++ after) = w ++ (b' ++ v ++ after) := by
      simpa using skipBlank_append_selection hb hw
    have hmid : skipBlank (b' ++ v ++ after) = skipBlank (v ++ after) := by
      rw [List.append_assoc, skipBlank_append hb']
    rw [conjunctionOf_eq_ok_iff, hskip]
    refine ⟨t, _, ihw, .inr ?_⟩
    rw [joint_of_not_jointNext hnext, hmid, conjunctionOf_skipBlank]
    exact ⟨(conjunctionOf_ok_head (ihv hend)).2, u, ihv hend, rfl⟩

/-! ## Whole queries -/

/-- Lexemes are read as the trees that they derive as a whole query. -/
theorem ofLexemes_eq_ok_iff : Tree.ofLexemes s lexemes = .ok t ↔ Derives s lexemes t := by
  rw [ofLexemes_eq]
  constructor
  · intro h
    split at h
    · rename_i hb
      cases h
      exact .everything (skipBlank_eq_nil_iff.1 hb)
    · obtain ⟨⟨u, rest⟩, hread, hrest⟩ := Except.bind_eq_ok_iff.1 h
      cases rest with
      | cons l rest =>
        simp only at hrest
        split at hrest <;> cases hrest
      | nil =>
        cases hrest
        obtain ⟨-, w, rfl, hw⟩ := conjunctionOf_sound hread
        rw [List.append_nil]
        exact .conjunction hw
  · intro h
    cases h with
    | everything hw => rw [if_pos (skipBlank_eq_nil_iff.2 hw)]
    | conjunction hw =>
      have hc : conjunctionOf s (lexemes ++ []) = .ok (t, []) := reads_of_phrase hw rfl
      rw [List.append_nil] at hc
      have hne : skipBlank lexemes ≠ [] := fun hnil => by
        have := (conjunctionOf_ok_head hc).2
        rw [hnil] at this
        cases this
      rw [if_neg hne, hc]
      rfl

/-- A text parses if it can be cut into lexemes that derive a tree. -/
theorem ofText_eq_ok_iff {query : String} :
    Tree.ofText s query = .ok t ↔ ∃ lexemes, Lexeme.ofText query = .ok lexemes ∧
      Derives s lexemes t := by
  unfold Tree.ofText
  cases Lexeme.ofText query with
  | error u => simp
  | ok lexemes => simp [ofLexemes_eq_ok_iff]

end Parser

namespace Grammar

/-- **The parser accepts exactly the grammar and builds its one tree**: a text that can be cut into
lexemes parses to the trees that the lexemes derive, and no lexemes derive two.

**Proof sketch.** What is read is a phrase, and every phrase is read (`ofLexemes_eq_ok_iff`). Two
trees that the same lexemes derive are both what the parser returns for them. -/
theorem ofText_eq_ok_iff_derives (s : Settings) :
    (∀ query lexemes, Lexeme.ofText query = .ok lexemes →
      ∀ t, Tree.ofText s query = .ok t ↔ Derives s lexemes t) ∧
    ∀ lexemes t u, Derives s lexemes t → Derives s lexemes u → t = u := by
  refine ⟨fun query lexemes hlexemes t => ?_, fun lexemes t u ht hu => ?_⟩
  · rw [Parser.ofText_eq_ok_iff, hlexemes]
    simp
  · rw [← Parser.ofLexemes_eq_ok_iff] at ht hu
    exact Except.ok.inj (ht.symm.trans hu)

/-- `AND` is a value in front, `OR` a joint behind it and a key in the group, where `AND` is the
value of that key; the first of the two closing parentheses is a date. -/
theorem derives_words_by_place :
    let lexemes : List Lexeme :=
      [⟨.word "AND", 0, "AND"⟩, ⟨.blank, 3, " "⟩, ⟨.word "OR", 4, "OR"⟩, ⟨.opening, 6, "("⟩,
        ⟨.word "OR", 7, "OR"⟩, ⟨.colon, 9, ":"⟩, ⟨.word "AND", 10, "AND"⟩, ⟨.blank, 13, " "⟩,
        ⟨.word "before", 14, "before"⟩, ⟨.colon, 20, ":"⟩, ⟨.closing, 21, ")"⟩,
        ⟨.closing, 22, ")"⟩]
    let tree : Tree := .joined .or (.anyField (.text "AND"))
      (.joined .and (.field "OR" false (.text "AND")) (.date .before false ")"))
    Lexeme.ofText "AND OR(OR:AND before:))" = .ok lexemes ∧ Derives {} lexemes tree ∧
      ∀ u, Derives {} lexemes u → u = tree := by
  intro lexemes tree
  have hlexemes : Lexeme.ofText "AND OR(OR:AND before:))" = .ok lexemes := by cbv
  have hderives : Derives {} lexemes tree :=
    ((ofText_eq_ok_iff_derives {}).1 _ lexemes hlexemes tree).1 (by cbv)
  exact ⟨hlexemes, hderives, fun u hu => (ofText_eq_ok_iff_derives {}).2 lexemes u tree hu hderives⟩

end Grammar

end RecordQuery
