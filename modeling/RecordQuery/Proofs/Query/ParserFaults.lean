import RecordQuery.Proofs.Query.Parsing

set_option autoImplicit false

/-!
# What the parser finds wrong

Before it reads a selection the parser looks ahead, at most three lexemes far, and what it sees
decides how it goes on. It then asks for each lexeme again, and has a fault ready for each that
could be missing. Only some of these faults can arise: a key and the sign behind it have been seen
before they are asked for, and a conjunction ends nowhere but at the end of the query and at a
closing parenthesis.

## Main definitions

* `RecordQuery.Grammar.NoValue`, `RecordQuery.Grammar.NoSelection` — how a lexeme fails to be a
  value, and how lexemes fail to start a selection.
* `RecordQuery.QueryFault.Arises` — the faults that some lexemes can give.

## Main results

* `RecordQuery.Parser.selectionOf_error`, `operandOf_error`, `conjunctionOf_error` — where a fault
  comes from, one step of the parser at a time.
* `RecordQuery.Parser.arises_of_conjunctionOf` — the faults of a conjunction arise.
* `RecordQuery.Tree.ofText_error` — what a fault says about a query is true of it.
-/

namespace RecordQuery

open Grammar

variable {s : Settings}

/-! ## Lexemes that are no value -/

/-- Whether a token is of one of the four kinds of values. -/
def Token.isValue : Token → Bool
  | word _ | number _ | quoted _ | pattern _ => true
  | _ => false

namespace Grammar

/-- The source of the pattern that a lexeme is: what stands between slashes and, if the settings
prefer patterns, a bare word or number as it is written. -/
inductive PatternSource (s : Settings) (l : Lexeme) : String → Prop
  | pattern {source : String} (hl : l.token = .pattern source) : PatternSource s l source
  | word {w : String} (hl : l.token = .word w) (hs : s.preferPatterns = true) :
      PatternSource s l w
  | number {x : Number} (hl : l.token = .number x) (hs : s.preferPatterns = true) :
      PatternSource s l l.text

/-- A lexeme that is no value, and the fault that this is: it is of another kind, or its pattern is
not valid. -/
inductive NoValue (s : Settings) (l : Lexeme) : QueryFault → Prop
  | other (hl : l.token.isValue = false) : NoValue s l (.unexpected .value l.token l.column)
  | pattern {source : String} {f : Pattern.Fault} (hsource : PatternSource s l source)
      (hf : Pattern.compile (!s.caseSensitive) source = .error f) :
      NoValue s l (.invalidPattern source l.column f)

/-- Lexemes that start no selection without parentheses, and the fault that this is. -/
inductive NoSelection (s : Settings) : List Lexeme → QueryFault → Prop
  | nothing : NoSelection s [] (.unexpectedEnd .value)
  | noDate {m : List Lexeme} {k d : Lexeme} {negated : Bool} {key : String} {side : Side}
      (hm : Sign m negated) (hk : k.token = .word key) (hd : d.token = .colon)
      (hkey : Side.ofKey? key = some side) : NoSelection s (m ++ [k, d]) (.unexpectedEnd .date)
  | noField {m : List Lexeme} {k d : Lexeme} {negated : Bool} {key : String}
      (hm : Sign m negated) (hk : k.token = .word key) (hd : d.token = .colon)
      (hkey : Side.ofKey? key = none) : NoSelection s (m ++ [k, d]) (.unexpectedEnd .value)
  | noNumber {m : List Lexeme} {k d : Lexeme} {negated : Bool} {key : String} {c : Comparison}
      (hm : Sign m negated) (hk : k.token = .word key) (hd : d.token = .comparison c) :
      NoSelection s (m ++ [k, d]) (.unexpectedEnd .number)
  | otherField {m rest : List Lexeme} {k d l : Lexeme} {negated : Bool} {key : String}
      {fault : QueryFault} (hm : Sign m negated) (hk : k.token = .word key) (hd : d.token = .colon)
      (hkey : Side.ofKey? key = none) (hl : NoValue s l fault) :
      NoSelection s (m ++ k :: d :: l :: rest) fault
  | otherNumber {m rest : List Lexeme} {k d l : Lexeme} {negated : Bool} {key : String}
      {c : Comparison} (hm : Sign m negated) (hk : k.token = .word key)
      (hd : d.token = .comparison c) (hl : ∀ x, l.token ≠ .number x) :
      NoSelection s (m ++ k :: d :: l :: rest) (.unexpected .number l.token l.column)
  | otherValue {rest : List Lexeme} {l : Lexeme} {fault : QueryFault}
      (hkeyed : ¬Parser.Keyed (l :: rest)) (hl : NoValue s l fault) :
      NoSelection s (l :: rest) fault

end Grammar

namespace Parser

/-! ## One step of the parser -/

section Steps

variable {lexemes : List Lexeme} {fault : QueryFault}

/-- A pattern that is not valid is a fault. -/
theorem patternLiteral_error {source : String} {column : Nat}
    (h : patternLiteral s source column = .error fault) :
    ∃ f, Pattern.compile (!s.caseSensitive) source = .error f ∧
      fault = .invalidPattern source column f := by
  unfold patternLiteral at h
  cases hf : Pattern.compile (!s.caseSensitive) source with
  | ok p => rw [hf] at h; cases h
  | error f =>
    rw [hf] at h
    cases h
    exact ⟨f, rfl, rfl⟩

/-- A bare word or number is a fault only as a pattern. -/
theorem bareLiteral_error {text : String} {column : Nat}
    (h : bareLiteral s text column = .error fault) :
    s.preferPatterns = true ∧ ∃ f, Pattern.compile (!s.caseSensitive) text = .error f ∧
      fault = .invalidPattern text column f := by
  unfold bareLiteral at h
  cases hs : s.preferPatterns with
  | true =>
    rw [hs, if_pos rfl] at h
    exact ⟨rfl, patternLiteral_error h⟩
  | false =>
    rw [hs] at h
    cases h

/-- A lexeme that is not read as a value is none. -/
theorem literal_error {l : Lexeme} (h : literal s l = .error fault) : NoValue s l fault := by
  unfold literal at h
  cases hl : l.token with
  | word w =>
    rw [hl] at h
    obtain ⟨hs, f, hf, rfl⟩ := bareLiteral_error h
    exact .pattern (.word hl hs) hf
  | number x =>
    rw [hl] at h
    obtain ⟨hs, f, hf, rfl⟩ := bareLiteral_error h
    exact .pattern (.number hl hs) hf
  | quoted t =>
    rw [hl] at h
    cases h
  | pattern source =>
    rw [hl] at h
    obtain ⟨f, hf, rfl⟩ := patternLiteral_error h
    exact .pattern (.pattern hl) hf
  | blank | minus | comparison | colon | opening | closing =>
    rw [hl] at h
    cases h
    rw [← hl]
    exact .other (by rw [hl]; rfl)

/-- Behind a key and a colon a date or a value can be missing, and a lexeme can be no value. -/
theorem keySelection_error {key : String} {negated : Bool}
    (h : (keySelection s key negated lexemes).map Reading.pair = .error fault) :
    (lexemes = [] ∧ (∃ side, Side.ofKey? key = some side) ∧ fault = .unexpectedEnd .date) ∨
      Side.ofKey? key = none ∧ (lexemes = [] ∧ fault = .unexpectedEnd .value ∨
        ∃ l rest, lexemes = l :: rest ∧ NoValue s l fault) := by
  rw [Except.map_eq_error_iff] at h
  unfold keySelection at h
  cases hkey : Side.ofKey? key with
  | some side =>
    rw [hkey] at h
    cases lexemes with
    | nil =>
      cases h
      exact .inl ⟨rfl, ⟨side, rfl⟩, rfl⟩
    | cons l rest => cases h
  | none =>
    rw [hkey] at h
    cases lexemes with
    | nil =>
      cases h
      exact .inr ⟨rfl, .inl ⟨rfl, rfl⟩⟩
    | cons l rest =>
      simp only at h
      cases hv : literal s l with
      | ok v => rw [hv] at h; cases h
      | error f =>
        rw [hv] at h
        cases h
        exact .inr ⟨rfl, .inr ⟨l, rest, rfl, literal_error hv⟩⟩

/-- Behind a key and a comparison sign a number can be missing, and a lexeme can be none. -/
theorem numberSelection_error {key : String} {c : Comparison} {negated : Bool}
    (h : (numberSelection key c negated lexemes).map Reading.pair = .error fault) :
    (lexemes = [] ∧ fault = .unexpectedEnd .number) ∨
      ∃ l rest, lexemes = l :: rest ∧ (∀ x, l.token ≠ .number x) ∧
        fault = .unexpected .number l.token l.column := by
  rw [Except.map_eq_error_iff] at h
  unfold numberSelection at h
  cases lexemes with
  | nil =>
    cases h
    exact .inl ⟨rfl, rfl⟩
  | cons l rest =>
    cases hl : number? l.token with
    | some x => rw [expect_of_some hl] at h; cases h
    | none =>
      rw [expect_of_none hl] at h
      cases h
      refine .inr ⟨l, rest, rfl, fun x hx => ?_, rfl⟩
      rw [hx] at hl
      cases hl

/-- **Lexemes that are not read as a selection start none.** The key and its sign are not among what
can be missing, since the parser has seen them where it asks for them. -/
theorem selectionOf_error (h : selectionOf s lexemes = .error fault) :
    NoSelection s lexemes fault := by
  by_cases hkeyed : Keyed lexemes
  · obtain ⟨m, negated, k, key, after, rfl, hm, hk, hsign⟩ := hkeyed
    cases after with
    | nil => exact absurd hsign not_signNext_nil
    | cons d after =>
      rcases signNext_cons.1 hsign with hd | ⟨c, hd⟩
      · rw [selectionOf_colon hm hk hd] at h
        rcases keySelection_error h with ⟨rfl, ⟨side, hkey⟩, rfl⟩ | ⟨hkey, ⟨rfl, rfl⟩ | hvalue⟩
        · exact .noDate hm hk hd hkey
        · exact .noField hm hk hd hkey
        · obtain ⟨l, rest, rfl, hl⟩ := hvalue
          exact .otherField hm hk hd hkey hl
      · rw [selectionOf_comparison hm hk hd] at h
        rcases numberSelection_error h with ⟨rfl, rfl⟩ | ⟨l, rest, rfl, hl, rfl⟩
        · exact .noNumber hm hk hd
        · exact .otherNumber hm hk hd hl
  · cases lexemes with
    | nil =>
      cases h
      exact .nothing
    | cons l rest =>
      rw [selectionOf_value hkeyed, Except.map_eq_error_iff] at h
      exact .otherValue hkeyed (literal_error h)

/-- **A group or selection that is not read** is a selection that is none, or a group with a
conjunction in it that is not read or that goes up to the end of the query. A group does not end in
front of another lexeme, since a conjunction does not. -/
theorem operandOf_error (h : operandOf s lexemes = .error fault) :
    NoSelection s lexemes fault ∨ ∃ o rest, lexemes = o :: rest ∧ o.token = .opening ∧
      (conjunctionOf s rest = .error fault ∨
        ∃ t, conjunctionOf s rest = .ok (t, []) ∧ fault = .unexpectedEnd .closing) := by
  cases lexemes with
  | nil =>
    rw [operandOf_nil] at h
    cases h
    exact .inl .nothing
  | cons o rest =>
    rw [operandOf_cons] at h
    split at h
    · rename_i ho
      refine .inr ⟨o, rest, rfl, ho, ?_⟩
      rcases Except.bind_eq_error_iff.1 h with hinner | ⟨⟨t, mid⟩, hinner, hclose⟩
      · exact .inl hinner
      · have hend := (conjunctionOf_sound hinner).1
        cases mid with
        | nil =>
          cases hclose
          exact .inr ⟨t, hinner, rfl⟩
        | cons c mid =>
          have hc : c.token = .closing := by simpa [endsHere] using hend
          rw [closeOf, if_pos hc] at hclose
          cases hclose
    · exact .inl (selectionOf_error h)

/-- **A conjunction that is not read** has a first operand that is not, or it goes on behind that
with a conjunction that is not. -/
theorem conjunctionOf_error (h : conjunctionOf s lexemes = .error fault) :
    operandOf s (skipBlank lexemes) = .error fault ∨
      ∃ left mid, operandOf s (skipBlank lexemes) = .ok (left, mid) ∧
        endsHere (skipBlank mid) = false ∧
          conjunctionOf s (joint (skipBlank mid)).2 = .error fault := by
  rw [conjunctionOf_eq] at h
  rcases Except.bind_eq_error_iff.1 h with hleft | ⟨⟨left, mid⟩, hleft, hbehind⟩
  · exact .inl hleft
  · refine .inr ⟨left, mid, hleft, ?_⟩
    cases hend : endsHere (skipBlank mid) with
    | true => rw [if_pos hend] at hbehind; cases hbehind
    | false =>
      rw [if_neg (by simp [hend]), Except.map_eq_error_iff] at hbehind
      exact ⟨rfl, hbehind⟩

end Steps

end Parser

/-! ## The faults that arise -/

/-- The faults that some lexemes can give: one of them is not what the grammar asks for in its
place, or no pattern, or more is asked for behind them. -/
inductive QueryFault.Arises (s : Settings) (lexemes : List Lexeme) : QueryFault → Prop
  | unexpected {l : Lexeme} {expected : Expected} (hl : l ∈ lexemes)
      (hexpected : expected.describe = "a string or a regular expression" ∧
          l.token.isValue = false ∨
        expected.describe = "a number" ∧ ∀ x, l.token ≠ .number x) :
      Arises s lexemes (.unexpected expected l.token l.column)
  | unexpectedEnd {expected : Expected}
      (hexpected : expected.describe ∈
        ["a string or a regular expression", "a number", "a date", "')'"]) :
      Arises s lexemes (.unexpectedEnd expected)
  | invalidPattern {l : Lexeme} {source : String} {f : Pattern.Fault} (hl : l ∈ lexemes)
      (hsource : PatternSource s l source)
      (hf : Pattern.compile (!s.caseSensitive) source = .error f) :
      Arises s lexemes (.invalidPattern source l.column f)

namespace QueryFault

variable {fault : QueryFault}

/-- A fault that some lexemes give, they give among others too. -/
theorem Arises.mono {w w' : List Lexeme} (h : fault.Arises s w) (hsub : w ⊆ w') :
    fault.Arises s w' := by
  cases h with
  | unexpected hl hexpected => exact .unexpected (hsub hl) hexpected
  | unexpectedEnd hexpected => exact .unexpectedEnd hexpected
  | invalidPattern hl hsource hf => exact .invalidPattern (hsub hl) hsource hf

/-- A lexeme that is no value gives a fault that arises. -/
theorem arises_of_noValue {l : Lexeme} (h : NoValue s l fault) : fault.Arises s [l] := by
  cases h with
  | other hl => exact .unexpected List.mem_cons_self (.inl ⟨rfl, hl⟩)
  | pattern hsource hf => exact .invalidPattern List.mem_cons_self hsource hf

/-- Lexemes that start no selection give a fault that arises. -/
theorem arises_of_noSelection {w : List Lexeme} (h : NoSelection s w fault) :
    fault.Arises s w := by
  cases h with
  | nothing => exact .unexpectedEnd (by simp [Expected.describe])
  | noDate => exact .unexpectedEnd (by simp [Expected.describe])
  | noField => exact .unexpectedEnd (by simp [Expected.describe])
  | noNumber => exact .unexpectedEnd (by simp [Expected.describe])
  | otherField _ _ _ _ hl => exact (arises_of_noValue hl).mono (by simp)
  | otherNumber _ _ _ hl => exact .unexpected (by simp) (.inr ⟨rfl, hl⟩)
  | otherValue _ hl => exact (arises_of_noValue hl).mono (by simp)

end QueryFault

namespace Parser

/-- What is skipped and what is not were there before. -/
theorem skipBlank_subset (lexemes : List Lexeme) : skipBlank lexemes ⊆ lexemes :=
  (List.dropWhile_suffix isBlank).subset

/-- Behind a joint come lexemes that were there before. -/
theorem joint_subset (lexemes : List Lexeme) : (joint lexemes).2 ⊆ lexemes := by
  unfold joint
  split
  · exact List.Subset.refl _
  · rename_i l rest
    have hrest : skipBlank rest ⊆ l :: rest :=
      List.subset_cons_of_subset l (skipBlank_subset rest)
    split
    · exact hrest
    split
    · exact hrest
    · exact List.Subset.refl _

/-- **The faults of a conjunction arise.**

**Proof sketch.** Induction on the number of lexemes. A fault comes from a selection, from the
conjunction in a group or from the conjunction behind an operand. Both of these have fewer lexemes,
all of which were there before. -/
theorem arises_of_conjunctionOf {lexemes : List Lexeme} {fault : QueryFault}
    (h : conjunctionOf s lexemes = .error fault) : fault.Arises s lexemes := by
  induction hn : lexemes.length using Nat.strong_induction_on generalizing lexemes with
  | _ n ih =>
  subst hn
  have hskip := length_skipBlank lexemes
  have hsub := skipBlank_subset lexemes
  rcases conjunctionOf_error h with hleft | ⟨left, mid, hleft, -, hright⟩
  · rcases operandOf_error hleft with hselection | ⟨o, rest, heq, -, hinner | ⟨t, -, rfl⟩⟩
    · exact (QueryFault.arises_of_noSelection hselection).mono hsub
    · rw [heq] at hskip hsub
      have hlt : rest.length < lexemes.length := hskip
      exact (ih _ hlt hinner rfl).mono fun l hl => hsub (List.mem_cons_of_mem o hl)
    · exact .unexpectedEnd (by simp [Expected.describe])
  · obtain ⟨w, hw, -⟩ := operandOf_sound hleft not_signNext_nil
    have hmidsub : mid ⊆ lexemes := fun l hl => hsub (hw ▸ List.mem_append_right w hl)
    exact (ih _ (length_joint_lt hleft) hright rfl).mono fun l hl =>
      hmidsub (skipBlank_subset mid (joint_subset (skipBlank mid) hl))

/-- A fault of a whole query is one of its conjunction, or it is a closing parenthesis without an
opening one. Nothing else stands behind a conjunction, since that is where it ends. -/
theorem ofLexemes_error {lexemes : List Lexeme} {fault : QueryFault}
    (h : Tree.ofLexemes s lexemes = .error fault) :
    conjunctionOf s lexemes = .error fault ∨
      ∃ t c rest, conjunctionOf s lexemes = .ok (t, c :: rest) ∧ c.token = .closing ∧
        fault = .unmatched c.column := by
  rw [ofLexemes_eq] at h
  split at h
  · cases h
  · rcases Except.bind_eq_error_iff.1 h with hread | ⟨⟨t, mid⟩, hread, hend⟩
    · exact .inl hread
    · have hclosing := (conjunctionOf_sound hread).1
      cases mid with
      | nil => cases hend
      | cons c rest =>
        have hc : c.token = .closing := by simpa [endsHere] using hclosing
        simp only [hc, if_true] at hend
        cases hend
        exact .inr ⟨t, c, rest, hread, hc, rfl⟩

end Parser

namespace Tree

/-- **What a fault says about a query is true of it.** A query that cannot be cut has an unclosed
literal. Else, where something else is expected, that is a value or a number, the column is that of
a lexeme of the query and what is found there is that lexeme. Where more is expected, that is a
value, a number, a date or a closing parenthesis. A pattern that is not valid is the source of a
lexeme in its column, and an unmatched parenthesis is one in its column. So a key, a sign, an end of
the query or a parenthesis in front of more lexemes are never asked for in vain.

**Proof sketch.** The faults of a conjunction arise (`Parser.arises_of_conjunctionOf`), and behind a
conjunction there is the end of the query or a closing parenthesis (`Parser.ofLexemes_error`). -/
theorem ofText_error {query : String} {fault : QueryFault} (h : ofText s query = .error fault) :
    (∃ u, Lexeme.ofText query = .error u ∧ fault = .unclosed u) ∨
      ∃ lexemes, Lexeme.ofText query = .ok lexemes ∧
        (fault.Arises s lexemes ∨
          ∃ l ∈ lexemes, l.token = .closing ∧ fault = .unmatched l.column) := by
  unfold ofText at h
  cases hquery : Lexeme.ofText query with
  | error u =>
    rw [hquery] at h
    cases h
    exact .inl ⟨u, rfl, rfl⟩
  | ok lexemes =>
    rw [hquery] at h
    refine .inr ⟨lexemes, rfl, ?_⟩
    rcases Parser.ofLexemes_error h with hread | ⟨t, c, rest, hread, hc, rfl⟩
    · exact .inl (Parser.arises_of_conjunctionOf hread)
    · obtain ⟨-, w, rfl, -⟩ := Parser.conjunctionOf_sound hread
      exact .inr ⟨c, by simp, hc, rfl⟩

/-- The blank behind the comparison sign is no number, and it is a lexeme of the query. -/
theorem ofText_error_blank :
    let lexemes : List Lexeme :=
      [⟨.opening, 0, "("⟩, ⟨.word "x", 1, "x"⟩, ⟨.blank, 2, " "⟩, ⟨.word "OR", 3, "OR"⟩,
        ⟨.blank, 5, " "⟩, ⟨.minus, 6, "-"⟩, ⟨.word "age", 7, "age"⟩,
        ⟨.comparison .atMost, 10, "<="⟩, ⟨.blank, 12, " "⟩, ⟨.word "y", 13, "y"⟩,
        ⟨.closing, 14, ")"⟩]
    ofText {} "(x OR -age<= y)" = .error (.unexpected .number .blank 12) ∧
      Lexeme.ofText "(x OR -age<= y)" = .ok lexemes ∧
        (QueryFault.unexpected .number .blank 12).Arises {} lexemes := by
  intro lexemes
  have hquery : Lexeme.ofText "(x OR -age<= y)" = .ok lexemes := by cbv
  have herror : ofText {} "(x OR -age<= y)" = .error (.unexpected .number .blank 12) := by cbv
  refine ⟨herror, hquery, ?_⟩
  rcases ofText_error herror with ⟨u, -, heq⟩ | ⟨w, hw, harises | ⟨l, -, -, heq⟩⟩
  · cases heq
  · obtain rfl : lexemes = w := Except.ok.inj (hquery.symm.trans hw)
    exact harises
  · cases heq

end Tree

end RecordQuery
