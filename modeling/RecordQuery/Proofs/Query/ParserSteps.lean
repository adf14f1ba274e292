import Mathlib.Data.List.TakeWhile
import RecordQuery.Proofs.Except
import RecordQuery.Proofs.Query.Grammar

set_option autoImplicit false

/-!
# What the steps of the parser do

One equation or equivalence for each function of the parser, over pairs of a tree and the lexemes
behind it. The functions themselves return the proof that they have made progress along with the
tree, and that proof is left out here. What the grammar says about single lexemes is related to what
the parser looks at on the way.

## Main definitions

* `RecordQuery.Parser.selectionOf`, `operandOf`, `conjunctionOf` — a selection without parentheses,
  a group or selection, and a conjunction, as pairs.
* `RecordQuery.Parser.Keyed` — lexemes that start with a key.

## Main results

* `RecordQuery.Parser.literal_eq_ok_iff`, `dateText_iff` — single lexemes as values and dates.
* `RecordQuery.Parser.selectionOf_colon`, `selectionOf_comparison`, `selectionOf_value` — the three
  kinds of selections.
* `RecordQuery.Parser.operandOf_cons`, `conjunctionOf_eq_ok_iff` — groups and conjunctions.
-/

namespace RecordQuery.Parser

open Grammar

/-! ## Pairs -/

/-- What has been read and the lexemes behind it. -/
def Reading.pair {α : Type} {lexemes : List Lexeme} (r : Reading α lexemes) : α × List Lexeme :=
  (r.value, r.rest)

/-- The selection without parentheses that lexemes start with, and the lexemes behind it. -/
def selectionOf (s : Settings) (lexemes : List Lexeme) : Except QueryFault (Tree × List Lexeme) :=
  (selection s lexemes).map Reading.pair

/-- The group or selection that lexemes start with, and the lexemes behind it. -/
def operandOf (s : Settings) (lexemes : List Lexeme) : Except QueryFault (Tree × List Lexeme) :=
  (operand s lexemes).map Reading.pair

/-- The conjunction that lexemes start with, and the lexemes behind it. -/
def conjunctionOf (s : Settings) (lexemes : List Lexeme) :
    Except QueryFault (Tree × List Lexeme) :=
  (conjunction s lexemes).map Reading.pair

/-- A group up to its closing parenthesis. -/
def closeOf : Tree × List Lexeme → Except QueryFault (Tree × List Lexeme)
  | (_, []) => .error (.unexpectedEnd .closing)
  | (t, l :: rest) =>
    if l.token = .closing then .ok (t, rest) else .error (.unexpected .closing l.token l.column)

/-- A pair that comes from a reading has fewer lexemes left. -/
theorem length_lt_of_map_pair {lexemes rest : List Lexeme} {t : Tree}
    {e : Except QueryFault (Reading Tree lexemes)} (h : e.map Reading.pair = .ok (t, rest)) :
    rest.length < lexemes.length := by
  cases e with
  | error fault => cases h
  | ok r =>
    cases h
    exact r.shorter

/-! ## Lexemes that are asked for -/

/-- A lexeme of the kind that is expected is taken. -/
theorem expect_of_some {α : Type} {expected : Expected} {view? : Token → Option α} {l : Lexeme}
    {a : α} (h : view? l.token = some a) (rest : List Lexeme) :
    expect expected view? (l :: rest) = .ok ⟨a, rest, Nat.lt_succ_self _⟩ := by
  simp only [expect, h]

/-- Any other lexeme is not what is expected. -/
theorem expect_of_none {α : Type} {expected : Expected} {view? : Token → Option α}
    {l : Lexeme} (h : view? l.token = none) (rest : List Lexeme) :
    expect expected view? (l :: rest) = .error (.unexpected expected l.token l.column) := by
  simp only [expect, h]

/-! ## Values and dates -/

/-- The parser sees a sign behind a word when the grammar does. -/
theorem continuesKey_iff (after : List Lexeme) : continuesKey after = true ↔ SignNext after := by
  cases after with
  | nil => simp [continuesKey, SignNext]
  | cons l rest => cases hl : l.token <;> simp [continuesKey, SignNext, hl]

/-- The source of a pattern is read as that pattern. -/
theorem patternLiteral_eq_ok_iff {s : Settings} {source : String} {column : Nat} {v : Literal} :
    patternLiteral s source column = .ok v ↔ ∃ p, IsPattern s source p ∧ v = .pattern p := by
  unfold patternLiteral IsPattern
  cases Pattern.compile (!s.caseSensitive) source with
  | ok p => simp [eq_comm]
  | error fault => simp

/-- A bare word or number is read as the literals that the grammar gives it. -/
theorem bareLiteral_eq_ok_iff {s : Settings} {text : String} {column : Nat} {v : Literal} :
    bareLiteral s text column = .ok v ↔ Bare s text v := by
  unfold bareLiteral
  cases hs : s.preferPatterns with
  | true =>
    simp only [if_true, patternLiteral_eq_ok_iff]
    constructor
    · rintro ⟨p, hp, rfl⟩
      exact .pattern hs hp
    · intro h
      cases h with
      | text h => rw [hs] at h; cases h
      | pattern _ hp => exact ⟨_, hp, rfl⟩
  | false =>
    simp only [Bool.false_eq_true, if_false, Except.ok.injEq]
    constructor
    · rintro rfl
      exact .text hs
    · intro h
      cases h with
      | text => rfl
      | pattern h => rw [hs] at h; cases h

/-- A lexeme is read as the literals that the grammar gives it, as long as no sign behind a word
makes it a key. -/
theorem literal_eq_ok_iff {s : Settings} {after : List Lexeme} {l : Lexeme} {v : Literal}
    (hnext : ∀ w, l.token = .word w → ¬SignNext after) :
    literal s l = .ok v ↔ IsValue s after l v := by
  constructor
  · intro h
    unfold literal at h
    cases hl : l.token with
    | word w =>
      rw [hl] at h
      exact .word hl (hnext w hl) (bareLiteral_eq_ok_iff.1 h)
    | number x =>
      rw [hl] at h
      exact .number hl (bareLiteral_eq_ok_iff.1 h)
    | quoted t =>
      rw [hl] at h
      cases h
      exact .quoted hl
    | pattern source =>
      rw [hl] at h
      obtain ⟨p, hp, rfl⟩ := patternLiteral_eq_ok_iff.1 h
      exact .pattern hl hp
    | _ => rw [hl] at h; cases h
  · intro h
    unfold literal
    cases h with
    | word hl _ hv => rw [hl]; exact bareLiteral_eq_ok_iff.2 hv
    | number hl hv => rw [hl]; exact bareLiteral_eq_ok_iff.2 hv
    | quoted hl => rw [hl]
    | pattern hl hp => rw [hl]; exact patternLiteral_eq_ok_iff.2 ⟨_, hp, rfl⟩

/-- The text that is read where a date is expected is the one the grammar gives. -/
theorem dateText_iff {l : Lexeme} {bound : String} : DateText l bound ↔ dateText l = bound := by
  constructor
  · intro h
    unfold dateText
    cases h with
    | word hl => rw [hl]
    | quoted hl => rw [hl]
    | pattern hl => rw [hl]
    | written hl =>
      cases h : l.token with
      | word t => exact absurd h (hl t).1
      | quoted t => exact absurd h (hl t).2.1
      | pattern t => exact absurd h (hl t).2.2
      | _ => rfl
  · rintro rfl
    unfold dateText
    cases h : l.token with
    | word t => exact .word h
    | quoted t => exact .quoted h
    | pattern t => exact .pattern h
    | _ => exact .written (by simp [h])

/-! ## Selections -/

/-- Lexemes that start with a key, perhaps behind a minus, and the sign that makes it one. -/
def Keyed (lexemes : List Lexeme) : Prop :=
  ∃ m negated k key after, lexemes = m ++ k :: after ∧ Sign m negated ∧ k.token = .word key ∧
    SignNext after

/-- Behind a key and a colon stands a date if the key is reserved, and else a value. -/
theorem keySelection_eq_ok_iff {s : Settings} {key : String} {negated : Bool}
    {lexemes rest : List Lexeme} {t : Tree} :
    (keySelection s key negated lexemes).map Reading.pair = .ok (t, rest) ↔
      ∃ l, lexemes = l :: rest ∧
        ((∃ side, Side.ofKey? key = some side ∧ t = .date side negated (dateText l)) ∨
          Side.ofKey? key = none ∧ ∃ v, literal s l = .ok v ∧ t = .field key negated v) := by
  unfold keySelection
  cases hkey : Side.ofKey? key with
  | some side =>
    cases lexemes with
    | nil => simp [Except.map]
    | cons l rest' =>
      constructor
      · intro h
        cases h
        exact ⟨l, rfl, .inl ⟨side, rfl, rfl⟩⟩
      · rintro ⟨_, heq, ⟨_, hside, rfl⟩ | ⟨hside, -⟩⟩
        · cases heq
          cases hside
          rfl
        · cases hside
  | none =>
    cases lexemes with
    | nil => simp [Except.map]
    | cons l rest' =>
      cases hv : literal s l with
      | error fault => simp [Except.map, hv]
      | ok v =>
        constructor
        · intro h
          simp only [hv] at h
          cases h
          exact ⟨l, rfl, .inr ⟨rfl, v, hv, rfl⟩⟩
        · rintro ⟨_, heq, ⟨_, hside, -⟩ | ⟨-, v', hv', rfl⟩⟩
          · cases hside
          · cases heq
            rw [hv] at hv'
            cases hv'
            simp only [hv]
            rfl

/-- Behind a key and a comparison sign stands a number. -/
theorem numberSelection_eq_ok_iff {key : String} {c : Comparison} {negated : Bool}
    {lexemes rest : List Lexeme} {t : Tree} :
    (numberSelection key c negated lexemes).map Reading.pair = .ok (t, rest) ↔
      ∃ l x, lexemes = l :: rest ∧ l.token = .number x ∧ t = .number key c negated x := by
  unfold numberSelection
  cases lexemes with
  | nil => simp [expect, Except.map]
  | cons l rest' =>
    constructor
    · intro h
      cases hl : l.token with
      | number x =>
        rw [expect_of_some (show number? l.token = some x by rw [hl]; rfl)] at h
        cases h
        exact ⟨l, x, rfl, hl, rfl⟩
      | _ =>
        rw [expect_of_none (show number? l.token = none by rw [hl]; rfl)] at h
        cases h
    · rintro ⟨_, x, heq, hl, rfl⟩
      cases heq
      rw [expect_of_some (show number? l.token = some x by rw [hl]; rfl)]
      rfl

/-- A minus in front of a key is taken. -/
theorem takeMinus_append {m : List Lexeme} {negated : Bool} {k : Lexeme} {key : String}
    (hm : Sign m negated) (hk : k.token = .word key) (rest : List Lexeme) :
    takeMinus (m ++ k :: rest) = (negated, k :: rest) := by
  cases hm with
  | plain => simp [takeMinus, hk]
  | minus hl => simp [takeMinus, hl]

/-- What is taken is a minus or nothing. -/
theorem exists_sign_takeMinus (lexemes : List Lexeme) :
    ∃ m, Sign m (takeMinus lexemes).1 ∧ lexemes = m ++ (takeMinus lexemes).2 := by
  unfold takeMinus
  split
  · exact ⟨[], .plain, rfl⟩
  · rename_i l rest
    split
    · rename_i hl
      exact ⟨[l], .minus hl, rfl⟩
    · exact ⟨[], .plain, rfl⟩

/-- If a key and a sign are there, what follows them decides. -/
theorem map_pair_keyThen {α : Type} {expected : Expected} {sign? : Token → Option α} {a : α}
    {behind : α → String → (lexemes : List Lexeme) → Except QueryFault (Reading Tree lexemes)}
    {k d : Lexeme} {key : String} (hk : k.token = .word key) (hd : sign? d.token = some a)
    (lexemes : List Lexeme) :
    (keyThen expected sign? behind (k :: d :: lexemes)).map Reading.pair =
      (behind a key lexemes).map Reading.pair := by
  unfold keyThen
  rw [expect_of_some (show word? k.token = some key by rw [hk]; rfl)]
  simp only [expect_of_some hd]
  cases behind a key lexemes <;> rfl

/-- The same behind a minus or without one. -/
theorem map_pair_keyedSelection {α : Type} {expected : Expected} {sign? : Token → Option α} {a : α}
    {behind : α → String → Bool → (lexemes : List Lexeme) →
      Except QueryFault (Reading Tree lexemes)}
    {m : List Lexeme} {negated : Bool} {k d : Lexeme} {key : String} (hm : Sign m negated)
    (hk : k.token = .word key) (hd : sign? d.token = some a) (lexemes : List Lexeme) :
    (keyedSelection expected sign? behind (m ++ k :: d :: lexemes)).map Reading.pair =
      (behind a key negated lexemes).map Reading.pair := by
  have hpair (lexemes : List Lexeme) :
      (keyedSelection expected sign? behind lexemes).map Reading.pair =
        (keyThen expected sign? (fun a key => behind a key (takeMinus lexemes).1)
          (takeMinus lexemes).2).map Reading.pair := by
    unfold keyedSelection
    cases keyThen expected sign? (fun a key => behind a key (takeMinus lexemes).1)
      (takeMinus lexemes).2 <;> rfl
  rw [hpair, takeMinus_append hm hk, map_pair_keyThen hk hd]

/-- The form of lexemes that start with a key is the one of the sign behind it. -/
theorem form_append {m : List Lexeme} {negated : Bool} {k : Lexeme} {key : String}
    (hm : Sign m negated) (hk : k.token = .word key) (d : Lexeme) (lexemes : List Lexeme) :
    form (m ++ k :: d :: lexemes) =
      match d.token with
      | .colon => .colon
      | .comparison _ => .comparison
      | _ => .value := by
  unfold form
  rw [takeMinus_append hm hk]
  simp only [hk]
  cases d.token <;> rfl

/-- Lexemes that do not start with a key have the form of a value. -/
theorem form_of_not_keyed {lexemes : List Lexeme} (h : ¬Keyed lexemes) :
    form lexemes = .value := by
  obtain ⟨m, hm, heq⟩ := exists_sign_takeMinus lexemes
  unfold form
  split
  · rename_i k d rest htake
    rw [htake] at heq
    split
    · rename_i key hk hd
      exact (h ⟨m, _, k, key, d :: rest, heq, hm, hk, signNext_cons.2 (.inl hd)⟩).elim
    · rename_i key c hk hd
      exact (h ⟨m, _, k, key, d :: rest, heq, hm, hk, signNext_cons.2 (.inr ⟨c, hd⟩)⟩).elim
    · rfl
  · rfl

/-- A selection by a key and a colon. -/
theorem selectionOf_colon {s : Settings} {m : List Lexeme} {negated : Bool} {k d : Lexeme}
    {key : String} (hm : Sign m negated) (hk : k.token = .word key) (hd : d.token = .colon)
    (lexemes : List Lexeme) :
    selectionOf s (m ++ k :: d :: lexemes) =
      (keySelection s key negated lexemes).map Reading.pair := by
  have hform : form (m ++ k :: d :: lexemes) = .colon := by rw [form_append hm hk, hd]
  rw [selectionOf, selection, hform]
  exact map_pair_keyedSelection hm hk (by rw [hd]; rfl) lexemes

/-- A selection by a key and a comparison sign. -/
theorem selectionOf_comparison {s : Settings} {m : List Lexeme} {negated : Bool} {k d : Lexeme}
    {key : String} {c : Comparison} (hm : Sign m negated) (hk : k.token = .word key)
    (hd : d.token = .comparison c) (lexemes : List Lexeme) :
    selectionOf s (m ++ k :: d :: lexemes) =
      (numberSelection key c negated lexemes).map Reading.pair := by
  have hform : form (m ++ k :: d :: lexemes) = .comparison := by rw [form_append hm hk, hd]
  rw [selectionOf, selection, hform]
  exact map_pair_keyedSelection hm hk (by rw [hd]; rfl) lexemes

/-- Without a key the selection is a value. -/
theorem selectionOf_value {s : Settings} {l : Lexeme} {rest : List Lexeme}
    (h : ¬Keyed (l :: rest)) :
    selectionOf s (l :: rest) = (literal s l).map fun v => (.anyField v, rest) := by
  rw [selectionOf, selection, form_of_not_keyed h]
  simp only [valueSelection]
  cases literal s l <;> rfl

/-- A value is no key. -/
theorem not_keyed_of_value {s : Settings} {after : List Lexeme} {l : Lexeme} {v : Literal}
    (h : IsValue s after l v) : ¬Keyed (l :: after) := by
  rintro ⟨m, negated, k, key, behind, heq, hm, hk, hsign⟩
  cases hm with
  | plain =>
    obtain ⟨rfl, rfl⟩ := List.cons.inj heq
    exact h.not_signNext key hk hsign
  | minus hl =>
    obtain ⟨rfl, -⟩ := List.cons.inj heq
    exact h.token_ne.2.2 hl

/-! ## Groups -/

/-- A group that is closed. -/
theorem closeOf_eq_ok_iff {p : Tree × List Lexeme} {t : Tree} {rest : List Lexeme} :
    closeOf p = .ok (t, rest) ↔ ∃ c, c.token = .closing ∧ p = (t, c :: rest) := by
  obtain ⟨u, mid⟩ := p
  cases mid with
  | nil => simp [closeOf]
  | cons c mid =>
    by_cases hc : c.token = .closing
    · simp only [closeOf, hc, if_true, Except.ok.injEq, Prod.mk.injEq, List.cons.injEq]
      constructor
      · rintro ⟨rfl, rfl⟩
        exact ⟨c, hc, rfl, rfl, rfl⟩
      · rintro ⟨_, _, rfl, _, rfl⟩
        exact ⟨rfl, rfl⟩
    · simp only [closeOf, hc, if_false, reduceCtorEq, Prod.mk.injEq, List.cons.injEq, false_iff]
      rintro ⟨_, hc', -, rfl, -⟩
      exact hc hc'

/-- Closing a group commutes with leaving out the proof of progress. -/
theorem map_pair_closeGroup {before : List Lexeme} (r : Reading Tree before) :
    (closeGroup r).map Reading.pair = closeOf r.pair := by
  obtain ⟨t, rest, h⟩ := r
  unfold closeGroup
  cases rest with
  | nil => rfl
  | cons l rest =>
    by_cases hl : l.token = .closing
    · simp only [closeOf, Reading.pair, hl, if_true, expect, mark?, Except.map]
    · simp only [closeOf, Reading.pair, hl, if_false, expect, mark?, Except.map]

/-- At the end of the query a selection is missing. -/
theorem operandOf_nil (s : Settings) : operandOf s [] = .error (.unexpectedEnd .value) := by
  simp [operandOf, operand, Except.map]

/-- An opening parenthesis starts a group, and any other lexeme a selection. -/
theorem operandOf_cons (s : Settings) (l : Lexeme) (rest : List Lexeme) :
    operandOf s (l :: rest) =
      if l.token = .opening then (conjunctionOf s rest).bind closeOf
      else selectionOf s (l :: rest) := by
  rw [operandOf, operand]
  split
  · unfold conjunctionOf
    cases conjunction s rest with
    | error fault => rfl
    | ok inner =>
      have hclose := map_pair_closeGroup inner
      simp only [Except.map, Except.bind] at hclose ⊢
      rw [← hclose]
      cases closeGroup inner <;> rfl
  · rfl

/-- What starts with a key is no group. -/
theorem operandOf_keyed {s : Settings} {m : List Lexeme} {negated : Bool} {k : Lexeme}
    {key : String} (hm : Sign m negated) (hk : k.token = .word key) (rest : List Lexeme) :
    operandOf s (m ++ k :: rest) = selectionOf s (m ++ k :: rest) := by
  obtain ⟨l, rest', heq, hl⟩ := hm.exists_head hk rest
  rw [heq, operandOf_cons, if_neg]
  rcases hl with hl | hl <;> simp [hl]

/-- Nothing is read from lexemes that start with a sign, or where a conjunction ends. -/
theorem operandOf_ok_head {s : Settings} {lexemes : List Lexeme} {r : Tree × List Lexeme}
    (h : operandOf s lexemes = .ok r) : ¬SignNext lexemes ∧ endsHere lexemes = false := by
  cases lexemes with
  | nil => rw [operandOf_nil] at h; cases h
  | cons l rest =>
    rw [operandOf_cons] at h
    by_cases ho : l.token = .opening
    · simp [signNext_cons, endsHere, ho]
    rw [if_neg ho] at h
    by_cases hk : Keyed (l :: rest)
    · obtain ⟨m, negated, k, key, after, heq, hm, hkey, -⟩ := hk
      obtain ⟨l', rest', heq', hl⟩ := hm.exists_head hkey after
      obtain ⟨rfl, -⟩ := List.cons.inj (heq.trans heq')
      rcases hl with hl | hl <;> simp [signNext_cons, endsHere, hl]
    · rw [selectionOf_value hk] at h
      cases hl : l.token <;> simp [literal, hl, Except.map, signNext_cons, endsHere] at h ⊢

/-! ## Blanks, joints and ends -/

/-- Leading blanks are skipped. -/
theorem skipBlank_append {b : List Lexeme} (hb : Blanks b) (lexemes : List Lexeme) :
    skipBlank (b ++ lexemes) = skipBlank lexemes :=
  List.dropWhile_append_of_pos fun l hl => by simp [isBlank, hb l hl]

/-- Nothing is skipped in front of a lexeme that is no blank. -/
theorem skipBlank_cons {l : Lexeme} (hl : l.token ≠ .blank) (rest : List Lexeme) :
    skipBlank (l :: rest) = l :: rest :=
  List.dropWhile_cons_of_neg (by simp [isBlank, hl])

/-- What is skipped are blanks. -/
theorem exists_blanks_append (lexemes : List Lexeme) :
    ∃ b, Blanks b ∧ lexemes = b ++ skipBlank lexemes :=
  ⟨lexemes.takeWhile isBlank, fun l hl => by simpa [isBlank] using List.mem_takeWhile_imp hl,
    (List.takeWhile_append_dropWhile ..).symm⟩

/-- Skipping stops in front of a lexeme that is no blank. -/
theorem token_ne_of_skipBlank_eq {lexemes rest : List Lexeme} {l : Lexeme}
    (h : skipBlank lexemes = l :: rest) : l.token ≠ .blank := by
  have := List.head?_dropWhile_not isBlank lexemes
  rw [skipBlank] at h
  simpa [h, isBlank] using this

/-- Skipping twice is skipping once. -/
theorem skipBlank_skipBlank (lexemes : List Lexeme) :
    skipBlank (skipBlank lexemes) = skipBlank lexemes := by
  cases h : skipBlank lexemes with
  | nil => rfl
  | cons l rest => exact skipBlank_cons (token_ne_of_skipBlank_eq h) rest

/-- Everything is skipped if there are blanks only. -/
theorem skipBlank_eq_nil_iff {lexemes : List Lexeme} : skipBlank lexemes = [] ↔ Blanks lexemes := by
  constructor
  · intro h
    obtain ⟨b, hb, heq⟩ := exists_blanks_append lexemes
    rw [h, List.append_nil] at heq
    rwa [heq]
  · intro h
    simpa [skipBlank] using skipBlank_append h []

/-- A sign that comes next is not skipped. -/
theorem signNext_skipBlank {lexemes : List Lexeme} (h : SignNext lexemes) :
    SignNext (skipBlank lexemes) := by
  cases lexemes with
  | nil => exact absurd h not_signNext_nil
  | cons l rest =>
    have hl : l.token ≠ .blank := by
      rcases signNext_cons.1 h with hl | ⟨c, hl⟩ <;> simp [hl]
    rwa [skipBlank_cons hl]

/-- No blank stands where a conjunction ends. -/
theorem skipBlank_of_endsHere {lexemes : List Lexeme} (h : endsHere lexemes = true) :
    skipBlank lexemes = lexemes := by
  cases lexemes with
  | nil => rfl
  | cons l rest =>
    have hl : l.token = .closing := by simpa [endsHere] using h
    exact skipBlank_cons (by simp [hl]) rest

/-- No sign stands where a conjunction ends. -/
theorem not_signNext_of_endsHere {lexemes : List Lexeme} (h : endsHere lexemes = true) :
    ¬SignNext lexemes := by
  cases lexemes with
  | nil => exact not_signNext_nil
  | cons l rest =>
    have hl : l.token = .closing := by simpa [endsHere] using h
    simp [signNext_cons, hl]

/-- A joint that comes next is the first lexeme that is not skipped. -/
theorem jointNext_iff {lexemes : List Lexeme} :
    JointNext lexemes ↔ ∃ j l rest, skipBlank lexemes = l :: rest ∧ IsJoint j l rest := by
  obtain ⟨b, hb, heq⟩ := exists_blanks_append lexemes
  rw [heq, jointNext_append hb, ← heq]
  cases h : skipBlank lexemes with
  | nil =>
    constructor
    · rintro ⟨b', j, l, rest, hnil, -⟩
      cases b' <;> cases hnil
    · rintro ⟨j, l, rest, hnil, -⟩
      cases hnil
  | cons l rest =>
    rw [jointNext_cons (token_ne_of_skipBlank_eq h)]
    constructor
    · rintro ⟨j, hj⟩
      exact ⟨j, l, rest, rfl, hj⟩
    · rintro ⟨j, _, _, hcons, hj⟩
      obtain ⟨rfl, rfl⟩ := List.cons.inj hcons
      exact ⟨j, hj⟩

/-- The parser reads a joint of the grammar, with the blanks behind it. -/
theorem joint_cons {j : Joint} {l : Lexeme} {rest : List Lexeme} (h : IsJoint j l rest) :
    joint (l :: rest) = (j, skipBlank rest) := by
  have hnext : ¬continuesKey rest = true := fun hc => h.2 ((continuesKey_iff rest).1 hc)
  unfold joint
  cases j <;> simp [h.1, Joint.word, hnext]

/-- Where the grammar has no joint the parser reads none, and means `AND`. -/
theorem joint_of_not_jointNext {lexemes : List Lexeme} (h : ¬JointNext lexemes) :
    joint (skipBlank lexemes) = (.and, skipBlank lexemes) := by
  rw [jointNext_iff] at h
  unfold joint
  cases hs : skipBlank lexemes with
  | nil => rfl
  | cons l rest =>
    have hno : ∀ j : Joint, ¬(l.token = .word j.word ∧ ¬continuesKey rest = true) := fun j hj =>
      h ⟨j, l, rest, hs, hj.1, fun hc => hj.2 ((continuesKey_iff rest).2 hc)⟩
    have hand := hno .and
    have hor := hno .or
    simp only [Joint.word] at hand hor
    simp only [hand, hor, if_false]

/-! ## Conjunctions -/

/-- A conjunction is a first operand and, unless it ends there, a joint and a conjunction. -/
theorem conjunctionOf_eq (s : Settings) (lexemes : List Lexeme) :
    conjunctionOf s lexemes = (operandOf s (skipBlank lexemes)).bind fun left =>
      if endsHere (skipBlank left.2) then .ok (left.1, skipBlank left.2)
      else (conjunctionOf s (joint (skipBlank left.2)).2).map fun right =>
        (.joined (joint (skipBlank left.2)).1 left.1 right.1, right.2) := by
  rw [conjunctionOf, conjunction, operandOf]
  cases operand s (skipBlank lexemes) with
  | error fault => rfl
  | ok left =>
    by_cases he : endsHere (skipBlank left.rest)
    · simp [he, Except.map, Except.bind, Reading.pair]
    · cases hr : conjunction s (joint (skipBlank left.rest)).2 <;>
        simp [he, hr, conjunctionOf, Except.map, Except.bind, Reading.pair]

/-- The ways in which a conjunction is read. -/
theorem conjunctionOf_eq_ok_iff {s : Settings} {lexemes rest : List Lexeme} {t : Tree} :
    conjunctionOf s lexemes = .ok (t, rest) ↔
      ∃ left mid, operandOf s (skipBlank lexemes) = .ok (left, mid) ∧
        (endsHere (skipBlank mid) = true ∧ t = left ∧ rest = skipBlank mid ∨
          endsHere (skipBlank mid) = false ∧ ∃ right,
            conjunctionOf s (joint (skipBlank mid)).2 = .ok (right, rest) ∧
              t = .joined (joint (skipBlank mid)).1 left right) := by
  rw [conjunctionOf_eq, Except.bind_eq_ok_iff]
  constructor
  · rintro ⟨⟨left, mid⟩, hleft, h⟩
    refine ⟨left, mid, hleft, ?_⟩
    cases hend : endsHere (skipBlank mid) with
    | true =>
      rw [if_pos hend] at h
      cases h
      exact .inl ⟨rfl, rfl, rfl⟩
    | false =>
      rw [if_neg (by simp [hend]), Except.map_eq_ok_iff] at h
      obtain ⟨⟨right, rest'⟩, hright, heq⟩ := h
      cases heq
      exact .inr ⟨rfl, right, hright, rfl⟩
  · rintro ⟨left, mid, hleft, ⟨hend, rfl, rfl⟩ | ⟨hend, right, hright, rfl⟩⟩
    · exact ⟨(t, mid), hleft, if_pos hend⟩
    · refine ⟨(left, mid), hleft, ?_⟩
      rw [if_neg (by simp [hend]), Except.map_eq_ok_iff]
      exact ⟨(right, rest), hright, rfl⟩

/-- Blanks in front of a conjunction do not matter. -/
theorem conjunctionOf_skipBlank (s : Settings) (lexemes : List Lexeme) :
    conjunctionOf s (skipBlank lexemes) = conjunctionOf s lexemes := by
  rw [conjunctionOf_eq, conjunctionOf_eq s lexemes, skipBlank_skipBlank]

/-- Behind the first operand of a conjunction and the joint there are fewer lexemes. -/
theorem length_joint_lt {s : Settings} {lexemes mid : List Lexeme} {left : Tree}
    (h : operandOf s (skipBlank lexemes) = .ok (left, mid)) :
    (joint (skipBlank mid)).2.length < lexemes.length := by
  have hskip := length_skipBlank lexemes
  have hmid := length_lt_of_map_pair h
  have hskip' := length_skipBlank mid
  have hjoint := length_joint (skipBlank mid)
  omega

/-- Nothing is read from lexemes that start with a sign, or where a conjunction ends. -/
theorem conjunctionOf_ok_head {s : Settings} {lexemes : List Lexeme} {r : Tree × List Lexeme}
    (h : conjunctionOf s lexemes = .ok r) :
    ¬SignNext lexemes ∧ endsHere (skipBlank lexemes) = false := by
  obtain ⟨t, rest⟩ := r
  obtain ⟨left, mid, hleft, -⟩ := conjunctionOf_eq_ok_iff.1 h
  obtain ⟨hsign, hend⟩ := operandOf_ok_head hleft
  exact ⟨fun hs => hsign (signNext_skipBlank hs), hend⟩

/-- A query is empty, or one conjunction with nothing behind it. -/
theorem ofLexemes_eq (s : Settings) (lexemes : List Lexeme) :
    Tree.ofLexemes s lexemes =
      if skipBlank lexemes = [] then .ok .everything
      else (conjunctionOf s lexemes).bind fun r =>
        match r.2 with
        | [] => .ok r.1
        | l :: _ =>
          if l.token = .closing then .error (.unmatched l.column)
          else .error (.unexpected .queryEnd l.token l.column) := by
  rw [← conjunctionOf_skipBlank, Tree.ofLexemes]
  cases skipBlank lexemes with
  | nil => rfl
  | cons l rest =>
    simp only [reduceCtorEq, if_false]
    unfold conjunctionOf
    cases conjunction s (l :: rest) with
    | error fault => rfl
    | ok r =>
      obtain ⟨t, rest, hlt⟩ := r
      cases rest <;> rfl

end RecordQuery.Parser
