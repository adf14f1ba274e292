import RecordQuery.Proofs.Query.Parsing
import RecordQuery.Proofs.Query.Spelling
import RecordQuery.Query.Compiled

set_option autoImplicit false

/-!
# Chains of queries in parentheses

Queries are put together by writing them in parentheses next to each other, with or without `AND`
and `OR` between them. What is inside a pair of parentheses is read as if it stood alone, and what
the whole selects is put together from what the single queries select.

## Main definitions

* `RecordQuery.Clause` — a query text with its tree.
* `RecordQuery.Separator` — what may stand between two clauses.
* `RecordQuery.Chain` — clauses in a row; its text, its tree and what it selects.

## Main results

* `RecordQuery.Chain.ofText_text` — the text of a chain parses to its tree.
* `RecordQuery.Chain.parses_and_selects` — with what its clauses select and warn of.
-/

namespace RecordQuery

open Grammar Lexeme

variable {s : Settings}

/-! ## Clauses and separators -/

/-- A query text and its tree, which is not that of the empty query. -/
structure Clause (s : Settings) where
  text : String
  tree : Tree
  parses : Tree.ofText s text = .ok tree
  ne_everything : tree ≠ .everything

/-- The query of a clause on its own. -/
def Clause.query (c : Clause s) : Query := ⟨c.text, c.tree.predicate s, c.tree.warnings⟩

/-- The text of a clause compiles to its query. -/
theorem Clause.compile_text (c : Clause s) : Query.compile s c.text = .ok c.query := by
  rw [Query.compile, c.parses]
  rfl

/-- What stands between two clauses: a joint or none, with filler on both sides. -/
structure Separator where
  before : String
  joint? : Option Joint
  after : String
  before_filler : ∀ c ∈ before.toList, IsFiller c
  after_filler : ∀ c ∈ after.toList, IsFiller c

namespace Separator

/-- How a separator is written. -/
def text (sep : Separator) : String :=
  sep.before ++ (sep.joint?.map Joint.word).getD "" ++ sep.after

/-- The joint that a separator stands for. -/
def joint (sep : Separator) : Joint := sep.joint?.getD .and

/-- The lexemes of a separator: blanks, or blanks around a joint. -/
def Lexemes (sep : Separator) (lexemes : List Lexeme) : Prop :=
  match sep.joint? with
  | none => Blanks lexemes
  | some j => ∃ bs l bs', lexemes = bs ++ l :: bs' ∧ Blanks bs ∧ l.token = .word j.word ∧ Blanks bs'

end Separator

/-! ## Chains -/

/-- Clauses in a row, with separators between them. -/
inductive Chain (s : Settings) where
  | last (c : Clause s)
  | link (c : Clause s) (sep : Separator) (rest : Chain s)

namespace Chain

/-- The text of a chain: each clause stands in parentheses. -/
def text : Chain s → String
  | last c => "(" ++ c.text ++ ")"
  | link c sep rest => "(" ++ c.text ++ ")" ++ sep.text ++ rest.text

/-- The trees of the clauses, joined to the right. -/
def tree : Chain s → Tree
  | last c => c.tree
  | link c sep rest => .joined sep.joint c.tree rest.tree

/-- The clauses of a chain, in order. -/
def clauses : Chain s → List (Clause s)
  | last c => [c]
  | link c _ rest => c :: rest.clauses

/-- Whether the clauses of a chain together select a record. -/
def selects (now : Instant) (record : Record) : Chain s → Bool
  | last c => c.query.selects now record
  | link c sep rest =>
    match sep.joint with
    | .and => c.query.selects now record && rest.selects now record
    | .or => c.query.selects now record || rest.selects now record

end Chain

/-! ## Cutting a chain into lexemes -/

/-- The two joints are words. -/
theorem isWord_joint (j : Joint) : IsWord j.word := by
  cases j with
  | and => exact ⟨by simp [Joint.word], by simp [Joint.word]; decide, by simp [Joint.word],
      by simp [Joint.word]; decide⟩
  | or => exact ⟨by simp [Joint.word], by simp [Joint.word]; decide, by simp [Joint.word],
      by simp [Joint.word]; decide⟩

/-- A text in parentheses, in front of more text, is cut into its own lexemes between two
parentheses. -/
theorem ofTextFrom_group {cs : List Char} {w : List Lexeme} (h : ofTextFrom 0 cs = .ok w)
    (b : List Char) (column : Nat) :
    ∃ o c, o.token = .opening ∧ c.token = .closing ∧
      ofTextFrom column ('(' :: (cs ++ ')' :: b)) =
        (ofTextFrom (column + cs.length + 2) b).map
          (o :: (w.map (shift (column + 1)) ++ [c]) ++ ·) := by
  have hopening : Spells ['('] .opening := spells_mark (by simp)
  have hclosing : Spells [')'] .closing := spells_mark (by simp)
  have hinner : ofTextFrom (column + 1) cs = .ok (w.map (shift (column + 1))) := by
    have := ofTextFrom_add 0 (column + 1) cs
    rwa [Nat.zero_add, h] at this
  have happend := ofTextFrom_append (b := ')' :: b) hinner fun l _ _ x hx => by
    obtain rfl : x = ')' := by simpa using hx.symm
    exact l.token.extendedBy_closing
  have hstart := hopening.append (b := cs ++ ')' :: b) (fun _ _ => rfl) column
  have hend := hclosing.append (b := b) (fun _ _ => rfl) (column + 1 + cs.length)
  have hlength : column + 1 + cs.length + 1 = column + cs.length + 2 := by omega
  simp only [List.singleton_append, List.length_singleton, hlength] at hstart hend
  refine ⟨⟨.opening, column, String.ofList ['(']⟩,
    ⟨.closing, column + 1 + cs.length, String.ofList [')']⟩, rfl, rfl, ?_⟩
  rw [hstart, happend, hend]
  cases ofTextFrom (column + cs.length + 2) b <;> simp [Except.map]

/-- A separator in front of a clause is cut into its lexemes. -/
theorem Separator.ofTextFrom_append (sep : Separator) {b : List Char} (hb : b.head? = some '(')
    (column : Nat) :
    ∃ column' lexemes, sep.Lexemes lexemes ∧
      ofTextFrom column (sep.text.toList ++ b) = (ofTextFrom column' b).map (lexemes ++ ·) := by
  unfold Separator.Lexemes Separator.text
  cases sep.joint? with
  | none =>
    have hfiller : ∀ c ∈ sep.before.toList ++ sep.after.toList, IsFiller c :=
      List.forall_mem_append.2 ⟨sep.before_filler, sep.after_filler⟩
    obtain ⟨bs, hbs, heq⟩ := ofTextFrom_filler_append (b := b) hfiller (by simp [hb]) column
    exact ⟨_, bs, hbs, by simpa using heq⟩
  | some j =>
    -- the joint ends at filler or at the parenthesis
    have hword : ∀ x ∈ (sep.after.toList ++ b).head?, isWordChar x = false := by
      intro x hx
      cases hafter : sep.after.toList with
      | nil =>
        obtain rfl : x = '(' := by simpa [hafter, hb] using hx.symm
        decide
      | cons c cs =>
        obtain rfl : c = x := by simpa [hafter] using hx
        exact (sep.after_filler c (by simp [hafter])).not_wordChar
    have hspace : (j.word.toList ++ (sep.after.toList ++ b)).head? ≠ some ' ' := by
      cases j <;> simp [Joint.word]
    obtain ⟨bs, hbs, heq⟩ := ofTextFrom_filler_append sep.before_filler hspace column
    obtain ⟨bs', hbs', heq'⟩ := ofTextFrom_filler_append (b := b) sep.after_filler (by simp [hb])
      (column + sep.before.toList.length + j.word.toList.length)
    have hjoint := (isWord_joint j).spells.append hword (column + sep.before.toList.length)
    refine ⟨column + sep.before.toList.length + j.word.toList.length + sep.after.toList.length, _,
      ⟨bs, ⟨.word j.word, column + sep.before.toList.length, String.ofList j.word.toList⟩, bs', rfl,
        hbs, rfl, hbs'⟩, ?_⟩
    simp only [String.toList_append, List.append_assoc, Option.map_some, Option.getD_some]
    rw [heq, hjoint, heq']
    cases ofTextFrom (_ + sep.after.toList.length) b <;> simp [Except.map]

/-! ## What a chain parses to -/

/-- A clause in parentheses is a selection, whatever comes after it.

**Proof sketch.** The lexemes of a clause on its own are a conjunction at the end of the query, and
a closing parenthesis is no sign either (`Phrase.map_congr`). -/
theorem Clause.phrase (c : Clause s) {w : List Lexeme} (h : Lexeme.ofText c.text = .ok w) (n : Nat)
    {o e : Lexeme} (ho : o.token = .opening) (he : e.token = .closing) (after : List Lexeme) :
    Phrase s .selection after (o :: (w.map (shift n) ++ [e])) c.tree := by
  obtain ⟨text, tree, hparses, hne⟩ := c
  obtain ⟨w', hw', hderives⟩ := Parser.ofText_eq_ok_iff.1 hparses
  obtain rfl : w = w' := Except.ok.inj (h.symm.trans hw')
  cases hderives with
  | everything => exact absurd rfl hne
  | conjunction hw =>
    refine .group ho (Phrase.map_congr (f := shift n) (fun l => ⟨rfl, rfl⟩) hw ?_) he
    simp [not_signNext_nil, signNext_cons, he]

/-- A selection, a separator and a conjunction that starts with a parenthesis are a conjunction. -/
theorem Separator.phrase (sep : Separator) {lexemes w v : List Lexeme} {o : Lexeme} {t u : Tree}
    (hsep : sep.Lexemes lexemes) (hw : ∀ after, Phrase s .selection after w t)
    (ho : o.token = .opening) (hv : Phrase s .conjunction [] (o :: v) u) :
    Phrase s .conjunction [] (w ++ lexemes ++ o :: v) (.joined sep.joint t u) := by
  unfold Separator.Lexemes at hsep
  unfold Separator.joint
  cases hj : sep.joint? with
  | none =>
    rw [hj] at hsep
    -- behind the blanks comes the parenthesis, which is no joint
    have hnext : ¬JointNext (lexemes ++ o :: v ++ []) := by
      rw [List.append_nil, jointNext_append hsep, jointNext_cons (by simp [ho])]
      rintro ⟨j, hjoint, -⟩
      simp [ho] at hjoint
    exact .beside blanks_nil (hw _) hsep hnext hv
  | some j =>
    rw [hj] at hsep
    obtain ⟨bs, l, bs', rfl, hbs, hl, hbs'⟩ := hsep
    have hjoint : IsJoint j l (bs' ++ o :: v ++ []) := by
      refine ⟨hl, ?_⟩
      cases bs' with
      | nil => simp [signNext_cons, ho]
      | cons b bs' => simp [signNext_cons, hbs' b List.mem_cons_self]
    simpa using Phrase.joined blanks_nil (hw _) hbs hjoint hbs' hv

/-- The text of a clause can be cut into lexemes. -/
theorem Clause.exists_lexemes (c : Clause s) : ∃ w, Lexeme.ofText c.text = .ok w := by
  obtain ⟨w, hw, -⟩ := Parser.ofText_eq_ok_iff.1 c.parses
  exact ⟨w, hw⟩

namespace Chain

/-- The text of a chain starts with a parenthesis. -/
theorem head?_text (chain : Chain s) : chain.text.toList.head? = some '(' := by
  cases chain <;> simp [text]

/-- **A chain is cut into lexemes that are a conjunction** with its tree.

**Proof sketch.** Induction on the chain. The first clause is cut between its parentheses as it is
on its own, what follows it starts with blanks, a joint or a parenthesis, and the lexemes of the
rest start with a parenthesis, so that they are neither a sign nor a joint. -/
theorem exists_phrase (chain : Chain s) (column : Nat) :
    ∃ o w, ofTextFrom column chain.text.toList = .ok (o :: w) ∧ o.token = .opening ∧
      Phrase s .conjunction [] (o :: w) chain.tree := by
  induction chain generalizing column with
  | last c =>
    obtain ⟨w, hw⟩ := c.exists_lexemes
    obtain ⟨o, e, ho, he, heq⟩ := ofTextFrom_group hw [] column
    refine ⟨o, w.map (shift (column + 1)) ++ [e], ?_, ho, ?_⟩
    · simpa [text, ofTextFrom_nil, Except.map] using heq
    · exact (c.phrase hw (column + 1) ho he []).conjunction
  | link c sep rest ih =>
    obtain ⟨w, hw⟩ := c.exists_lexemes
    obtain ⟨o, e, ho, he, heq⟩ := ofTextFrom_group hw (sep.text.toList ++ rest.text.toList) column
    obtain ⟨column', lexemes, hsep, hsepeq⟩ := sep.ofTextFrom_append rest.head?_text
      (column + c.text.toList.length + 2)
    obtain ⟨o', v, hv, ho', hphrase⟩ := ih column'
    rw [hsepeq, hv] at heq
    refine ⟨o, w.map (shift (column + 1)) ++ [e] ++ lexemes ++ o' :: v, ?_, ho, ?_⟩
    · simpa [text, Except.map] using heq
    · exact sep.phrase hsep (c.phrase hw (column + 1) ho he) ho' hphrase

/-- **The text of a chain parses to its tree.** -/
theorem ofText_text (chain : Chain s) : Tree.ofText s chain.text = .ok chain.tree := by
  obtain ⟨o, w, hw, -, hphrase⟩ := chain.exists_phrase 0
  exact Parser.ofText_eq_ok_iff.2 ⟨o :: w, hw, .conjunction hphrase⟩

/-! ## What a chain selects -/

/-- The predicate of a chain asks those of its clauses. -/
theorem predicate_tree (chain : Chain s) (now : Instant) (record : Record) :
    chain.tree.predicate s now record = chain.selects now record := by
  induction chain with
  | last c => rfl
  | link c sep rest ih =>
    unfold tree selects
    cases sep.joint with
    | and => simp only [Tree.predicate, ih, Clause.query, Query.selects]
    | or => simp only [Tree.predicate, ih, Clause.query, Query.selects]

/-- The warnings of a chain are those of its clauses. -/
theorem warnings_tree (chain : Chain s) :
    chain.tree.warnings = chain.clauses.flatMap (·.query.warnings) := by
  induction chain with
  | last c => simp [tree, clauses, Clause.query]
  | link c sep rest ih => simp [tree, clauses, Tree.warnings, ih, Clause.query]

/-- **Queries in parentheses compose**: their text parses to their trees joined to the right,
selects the records that the single queries select together, in order, and warns of what they warn
of.

**Proof sketch.** The text parses to the tree (`ofText_text`), and predicates and warnings follow
the tree (`predicate_tree`, `warnings_tree`). -/
theorem parses_and_selects (chain : Chain s) :
    (∀ c ∈ chain.clauses, Query.compile s c.text = .ok c.query) ∧
      Tree.ofText s chain.text = .ok chain.tree ∧
      ∃ q, Query.compile s chain.text = .ok q ∧
        q.warnings = chain.clauses.flatMap (·.query.warnings) ∧
        ∀ now records, q.filter now records = records.filter (chain.selects now) := by
  refine ⟨fun c _ => c.compile_text, chain.ofText_text,
    ⟨chain.text, chain.tree.predicate s, chain.tree.warnings⟩, ?_, ?_, ?_⟩
  · rw [Query.compile, chain.ofText_text]
  · exact chain.warnings_tree
  · intro now records
    exact List.filter_congr fun record _ => chain.predicate_tree now record

/-- The parenthesis inside the first clause is its date, and the dash inside the second one the date
there. -/
theorem parses_and_selects_dates :
    ∃ chain : Chain {}, chain.text = "(before:))  OR(-after:-) (a:\"(\")" ∧
      Tree.ofText {} chain.text = .ok (.joined .or (.date .before false ")")
        (.joined .and (.date .after true "-") (.field "a" false (.text "(")))) := by
  let spaced : Separator := ⟨"  ", some .or, "", by simp [IsFiller], by simp⟩
  let space : Separator := ⟨" ", none, "", by simp [IsFiller], by simp⟩
  let chain : Chain {} := .link ⟨"before:)", .date .before false ")", by cbv, by simp⟩ spaced
    (.link ⟨"-after:-", .date .after true "-", by cbv, by simp⟩ space
      (.last ⟨"a:\"(\"", .field "a" false (.text "("), by cbv, by simp⟩))
  exact ⟨chain, by decide, (parses_and_selects chain).2.1⟩

end Chain

end RecordQuery
