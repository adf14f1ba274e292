import RecordQuery.Proofs.Query.Unclosed
import RecordQuery.Proofs.Query.Unmatched

set_option autoImplicit false

/-!
# Unfinished queries

Where the parser reaches the end of the query too early, what it has read so far is the beginning of
a query: groups that are still open, and inside the last of them a selection that lacks its last
lexeme, or nothing that is missing but the parentheses. What is missing can always be supplied, and
then one closing parenthesis for each open group.

## Main definitions

* `RecordQuery.Grammar.Unfinished` — lexemes that lack something at their end, with the number of
  groups that are open there.
* `RecordQuery.Expected.supply` — a text for what is missing.

## Main results

* `RecordQuery.Parser.unfinished_of_conjunctionOf` — only unfinished lexemes end too early.
* `RecordQuery.Grammar.Unfinished.complete` — with what is missing they are a phrase.
* `RecordQuery.Tree.ofText_supply_iff` — the same for texts.
-/

namespace RecordQuery

open Grammar Lexeme

variable {s : Settings}

/-! ## Unfinished lexemes -/

namespace Grammar

/-- `Unfinished s part w e n`: the lexemes `w` are the beginning of a phrase of the kind `part`. At
their end `e` is missing, and `n` groups are open. -/
inductive Unfinished (s : Settings) : Part → List Lexeme → Expected → Nat → Prop
  | nothing : Unfinished s .selection [] .value 0
  | date {m : List Lexeme} {k d : Lexeme} {negated : Bool} {key : String} {side : Side}
      (hm : Sign m negated) (hk : k.token = .word key) (hd : d.token = .colon)
      (hkey : Side.ofKey? key = some side) : Unfinished s .selection (m ++ [k, d]) .date 0
  | field {m : List Lexeme} {k d : Lexeme} {negated : Bool} {key : String} (hm : Sign m negated)
      (hk : k.token = .word key) (hd : d.token = .colon) (hkey : Side.ofKey? key = none) :
      Unfinished s .selection (m ++ [k, d]) .value 0
  | number {m : List Lexeme} {k d : Lexeme} {negated : Bool} {key : String} {c : Comparison}
      (hm : Sign m negated) (hk : k.token = .word key) (hd : d.token = .comparison c) :
      Unfinished s .selection (m ++ [k, d]) .number 0
  | group {w : List Lexeme} {o : Lexeme} {e : Expected} {n : Nat} (ho : o.token = .opening)
      (hw : Unfinished s .conjunction w e n) : Unfinished s .selection (o :: w) e (n + 1)
  | unclosed {w : List Lexeme} {o : Lexeme} {t : Tree} (ho : o.token = .opening)
      (hw : Phrase s .conjunction [] w t) : Unfinished s .selection (o :: w) .closing 1
  | single {b w : List Lexeme} {e : Expected} {n : Nat} (hb : Blanks b)
      (hw : Unfinished s .selection w e n) : Unfinished s .conjunction (b ++ w) e n
  | joined {b w b' b'' v : List Lexeme} {l : Lexeme} {j : Joint} {t : Tree} {e : Expected}
      {n : Nat} (hb : Blanks b) (hw : Phrase s .selection (b' ++ l :: (b'' ++ v)) w t)
      (hb' : Blanks b') (hl : IsJoint j l (b'' ++ v)) (hb'' : Blanks b'')
      (hv : Unfinished s .conjunction v e n) :
      Unfinished s .conjunction (b ++ w ++ b' ++ l :: (b'' ++ v)) e n
  | beside {b w b' v : List Lexeme} {l : Lexeme} {t : Tree} {e : Expected} {n : Nat}
      (hb : Blanks b) (hw : Phrase s .selection (b' ++ l :: v) w t) (hb' : Blanks b')
      (hl : l.token ≠ .blank) (hnext : ¬JointNext (b' ++ l :: v))
      (hv : Unfinished s .conjunction (l :: v) e n) :
      Unfinished s .conjunction (b ++ w ++ b' ++ l :: v) e n

/-! ## Signs at the start -/

/-- Blanks in front are no sign. -/
theorem Blanks.not_signNext_append {b w : List Lexeme} (hb : Blanks b) (hw : ¬SignNext w) :
    ¬SignNext (b ++ w) := by
  cases b with
  | nil => exact hw
  | cons l b => simp [signNext_cons, hb l List.mem_cons_self]

/-- A key in front, perhaps behind a minus, is no sign. -/
theorem Sign.not_signNext_append {m : List Lexeme} {negated : Bool} {k : Lexeme} {key : String}
    (hm : Sign m negated) (hk : k.token = .word key) (rest : List Lexeme) :
    ¬SignNext (m ++ k :: rest) := by
  obtain ⟨l, rest', heq, hl⟩ := hm.exists_head hk rest
  rw [heq, signNext_cons]
  rcases hl with hl | hl <;> simp [hl]

/-- No phrase starts with a sign. -/
theorem Phrase.not_signNext_append {part : Part} {after w : List Lexeme} {t : Tree}
    (h : Phrase s part after w t) (rest : List Lexeme) : ¬SignNext (w ++ rest) := by
  induction h generalizing rest with
  | group ho => simp [signNext_cons, ho]
  | date hm hk => simpa using hm.not_signNext_append hk _
  | field hm hk => simpa using hm.not_signNext_append hk _
  | number hm hk => simpa using hm.not_signNext_append hk _
  | anyField hl => cases hl <;> simp [signNext_cons, *]
  | single hb _ _ ih => simpa using hb.not_signNext_append (ih _)
  | joined hb _ _ _ _ _ ih => simpa using hb.not_signNext_append (ih _)
  | beside hb _ _ _ _ ih => simpa using hb.not_signNext_append (ih _)

/-- No unfinished lexemes start with a sign. -/
theorem Unfinished.not_signNext {part : Part} {w : List Lexeme} {e : Expected} {n : Nat}
    (h : Unfinished s part w e n) : ¬SignNext w := by
  induction h with
  | nothing => exact not_signNext_nil
  | date hm hk => exact hm.not_signNext_append hk _
  | field hm hk => exact hm.not_signNext_append hk _
  | number hm hk => exact hm.not_signNext_append hk _
  | group ho => simp [signNext_cons, ho]
  | unclosed ho => simp [signNext_cons, ho]
  | single hb _ ih => exact hb.not_signNext_append ih
  | joined hb hw => simpa using hb.not_signNext_append (hw.not_signNext_append _)
  | beside hb hw => simpa using hb.not_signNext_append (hw.not_signNext_append _)

end Grammar

/-! ## Only unfinished lexemes end too early -/

namespace Parser

variable {e : Expected}

/-- Lexemes that start no selection because they end are the beginning of one. -/
theorem unfinished_of_noSelection {w : List Lexeme} (h : NoSelection s w (.unexpectedEnd e)) :
    Unfinished s .selection w e 0 := by
  cases h with
  | nothing => exact .nothing
  | noDate hm hk hd hkey => exact .date hm hk hd hkey
  | noField hm hk hd hkey => exact .field hm hk hd hkey
  | noNumber hm hk hd => exact .number hm hk hd
  | otherField _ _ _ _ hl => cases hl
  | otherValue _ hl => cases hl

/-- **Only unfinished lexemes end too early.**

**Proof sketch.** Induction on the number of lexemes. What ends too early is a selection, the
conjunction in a group, the group behind its conjunction, or the conjunction behind an operand. In
the last case the operand is a selection, since what follows it starts with no sign. -/
theorem unfinished_of_conjunctionOf {lexemes : List Lexeme}
    (h : conjunctionOf s lexemes = .error (.unexpectedEnd e)) :
    ∃ n, Unfinished s .conjunction lexemes e n := by
  induction hn : lexemes.length using Nat.strong_induction_on generalizing lexemes with
  | _ n ih =>
  subst hn
  have hskip := length_skipBlank lexemes
  obtain ⟨b, hb, hlex⟩ := exists_blanks_append lexemes
  rcases conjunctionOf_error h with hleft | ⟨left, mid, hleft, hend, hright⟩
  · have hselection : ∃ n, Unfinished s .selection (skipBlank lexemes) e n := by
      rcases operandOf_error hleft with hnone | ⟨o, rest, heq, ho, hinner | ⟨t, hread, hfault⟩⟩
      · exact ⟨0, unfinished_of_noSelection hnone⟩
      · rw [heq] at hskip ⊢
        obtain ⟨n, hrest⟩ := ih _ hskip hinner rfl
        exact ⟨n + 1, .group ho hrest⟩
      · cases hfault
        obtain ⟨-, w, hw, hphrase⟩ := conjunctionOf_sound hread
        rw [heq, hw, List.append_nil]
        exact ⟨1, .unclosed ho hphrase⟩
    obtain ⟨n, hw⟩ := hselection
    rw [hlex]
    exact ⟨n, .single hb hw⟩
  · obtain ⟨n, hv⟩ := ih _ (length_joint_lt hleft) hright rfl
    obtain ⟨b', hb', hmideq⟩ := exists_blanks_append mid
    by_cases hjoint : JointNext mid
    · -- the joint is read, and then the query ends
      obtain ⟨j, l, v, hs, hl⟩ := jointNext_iff.1 hjoint
      rw [hs] at hmideq hv
      rw [joint_cons hl] at hv
      obtain ⟨b'', hb'', hveq⟩ := exists_blanks_append v
      rw [hveq] at hmideq hl
      have hnext : ¬SignNext (b' ++ l :: (b'' ++ skipBlank v)) :=
        hb'.not_signNext_append (by simp [signNext_cons, hl.1])
      obtain ⟨w, hw, hphrase⟩ := operandOf_sound hleft hnext
      refine ⟨n, ?_⟩
      rw [hlex, hw, hmideq, ← List.append_assoc, ← List.append_assoc]
      exact .joined hb hphrase hb' hl hb'' hv
    · -- the query ends in a conjunction without one
      rw [joint_of_not_jointNext hjoint] at hv
      cases hs : skipBlank mid with
      | nil => rw [hs] at hend; cases hend
      | cons l v =>
        rw [hs] at hv hmideq
        rw [hmideq] at hjoint
        obtain ⟨w, hw, hphrase⟩ := operandOf_sound hleft (hb'.not_signNext_append hv.not_signNext)
        refine ⟨n, ?_⟩
        rw [hlex, hw, hmideq, ← List.append_assoc, ← List.append_assoc]
        exact .beside hb hphrase hb' (token_ne_of_skipBlank_eq hs) hjoint hv

end Parser

/-! ## Supplying what is missing -/

namespace Grammar

/-- The lexemes that are supplied for what is missing: an empty text in quotes for a value or a
date, a number for a number, and for a closing parenthesis nothing but the parentheses behind. -/
inductive Supplied : Expected → List Lexeme → Prop
  | value {l : Lexeme} (hl : l.token = .quoted "") : Supplied .value [l]
  | date {l : Lexeme} (hl : l.token = .quoted "") : Supplied .date [l]
  | number {l : Lexeme} {x : Number} (hl : l.token = .number x) : Supplied .number [l]
  | closing : Supplied .closing []

/-- Some lexemes are `n` closing parentheses. -/
def Closings (n : Nat) (cs : List Lexeme) : Prop := cs.length = n ∧ ∀ c ∈ cs, c.token = .closing

/-- Of several closing parentheses the last one is one. -/
theorem Closings.exists_last {n : Nat} {cs : List Lexeme} (h : Closings (n + 1) cs) :
    ∃ cs' c, cs = cs' ++ [c] ∧ Closings n cs' ∧ c.token = .closing := by
  obtain ⟨hlength, hclosing⟩ := h
  rcases List.eq_nil_or_concat cs with rfl | ⟨cs', c, rfl⟩
  · cases hlength
  · exact ⟨cs', c, List.concat_eq_append, ⟨by simpa using hlength,
      fun x hx => hclosing x (by simp [hx])⟩, hclosing c (by simp)⟩

/-- Whether a sign comes next is seen from the next lexeme. -/
theorem signNext_append_cons (b : List Lexeme) (l : Lexeme) (v v' : List Lexeme) :
    SignNext (b ++ l :: v) ↔ SignNext (b ++ l :: v') := by
  cases b <;> simp [signNext_cons]

/-- Where no joint comes next, none does with more lexemes at the end. -/
theorem not_jointNext_append {b v : List Lexeme} {l : Lexeme} (hb : Blanks b)
    (hl : l.token ≠ .blank) (h : ¬JointNext (b ++ l :: v)) (more : List Lexeme) :
    ¬JointNext (b ++ l :: (v ++ more)) := by
  rw [jointNext_append hb, jointNext_cons hl] at h ⊢
  rintro ⟨j, hj, hnext⟩
  refine h ⟨j, hj, fun hsign => hnext ?_⟩
  cases v with
  | nil => exact absurd hsign not_signNext_nil
  | cons k v => exact signNext_cons.2 (signNext_cons.1 hsign)

/-- **With what is missing, unfinished lexemes are a phrase**, in front of anything but a sign.

**Proof sketch.** Induction on the unfinished lexemes. Each rule is the one for the phrase that they
become. What has been decided from the lexemes so far stays decided: the supplied lexemes stand
behind them and start with no sign. -/
theorem Unfinished.complete {part : Part} {w x cs : List Lexeme} {e : Expected} {n : Nat}
    (h : Unfinished s part w e n) (hx : Supplied e x) (hcs : Closings n cs) :
    ∃ t, ∀ after, ¬SignNext after → Phrase s part after (w ++ x ++ cs) t := by
  induction h generalizing cs with
  | nothing =>
    obtain rfl := List.length_eq_zero_iff.1 hcs.1
    cases hx with
    | value hl => exact ⟨_, fun after _ => .anyField (.quoted hl)⟩
  | date hm hk hd hkey =>
    obtain rfl := List.length_eq_zero_iff.1 hcs.1
    cases hx with
    | date hl => exact ⟨_, fun after _ => by simpa using .date hm hk hd hkey (.quoted hl)⟩
  | field hm hk hd hkey =>
    obtain rfl := List.length_eq_zero_iff.1 hcs.1
    cases hx with
    | value hl => exact ⟨_, fun after _ => by simpa using .field hm hk hd hkey (.quoted hl)⟩
  | number hm hk hd =>
    obtain rfl := List.length_eq_zero_iff.1 hcs.1
    cases hx with
    | number hl => exact ⟨_, fun after _ => by simpa using .number hm hk hd hl⟩
  | group ho _ ih =>
    obtain ⟨cs', c, rfl, hcs', hc⟩ := hcs.exists_last
    obtain ⟨t, ht⟩ := ih hx hcs'
    refine ⟨t, fun after _ => ?_⟩
    have hinner := ht (c :: after) (by simp [signNext_cons, hc])
    have hgroup := Phrase.group ho hinner hc
    simpa using hgroup
  | @unclosed w o t ho hw =>
    obtain ⟨cs', c, rfl, hcs', hc⟩ := hcs.exists_last
    obtain rfl := List.length_eq_zero_iff.1 hcs'.1
    cases hx with
    | closing =>
      refine ⟨t, fun after _ => ?_⟩
      have hinner : Phrase s .conjunction (c :: after) w t :=
        hw.in_front_of (by simp [not_signNext_nil, signNext_cons, hc])
      simpa using Phrase.group ho hinner hc
  | single hb _ ih =>
    obtain ⟨t, ht⟩ := ih hx hcs
    refine ⟨t, fun after hafter => ?_⟩
    have hsingle := Phrase.single hb (ht ([] ++ after) hafter) blanks_nil
    simpa using hsingle
  | @joined b w b' b'' v l j t _ _ hb hw hb' hl hb'' _ ih =>
    obtain ⟨u, hu⟩ := ih hx hcs
    refine ⟨.joined j t u, fun after hafter => ?_⟩
    have hright := hu after hafter
    have hleft : Phrase s .selection (b' ++ l :: (b'' ++ (v ++ x ++ cs) ++ after)) w t :=
      hw.in_front_of (signNext_append_cons b' l _ _)
    have hnext : ¬SignNext (b'' ++ (v ++ x ++ cs ++ after)) :=
      hb''.not_signNext_append (hright.not_signNext_append after)
    have hjoint : IsJoint j l (b'' ++ (v ++ x ++ cs) ++ after) :=
      ⟨hl.1, by rwa [List.append_assoc]⟩
    have hjoined := Phrase.joined hb hleft hb' hjoint hb'' hright
    simpa using hjoined
  | @beside b w b' v l t _ _ hb hw hb' hl hnext _ ih =>
    obtain ⟨u, hu⟩ := ih hx hcs
    refine ⟨.joined .and t u, fun after hafter => ?_⟩
    have hleft : Phrase s .selection (b' ++ (l :: v ++ x ++ cs) ++ after) w t := by
      simpa using hw.in_front_of (signNext_append_cons b' l v (v ++ (x ++ (cs ++ after))))
    have hjoint : ¬JointNext (b' ++ (l :: v ++ x ++ cs) ++ after) := by
      simpa using not_jointNext_append hb' hl hnext (x ++ (cs ++ after))
    have hbeside := Phrase.beside hb hleft hb' hjoint (hu after hafter)
    simpa using hbeside

end Grammar

/-! ## Supplying text -/

/-- A text for what is missing: quotes with nothing between them, or a digit. For a closing
parenthesis nothing is needed but the parentheses behind. -/
def Expected.supply : Expected → String
  | .value | .date => "\"\""
  | .number => "0"
  | _ => ""

/-- `n` closing parentheses. -/
def closings (n : Nat) : String := String.ofList (List.replicate n ')')

/-- Among more closing parentheses there is one behind the first ones. -/
theorem closings_add_succ (m n : Nat) :
    closings (m + (n + 1)) = closings m ++ ")" ++ closings n := by
  apply String.toList_injective
  simp [closings, List.replicate_add, List.replicate_succ]

/-- Closing parentheses are cut apart. -/
theorem Lexeme.ofTextFrom_closings (n column : Nat) :
    ∃ cs, Closings n cs ∧ ofTextFrom column (List.replicate n ')') = .ok cs := by
  induction n generalizing column with
  | zero => exact ⟨[], ⟨rfl, by simp⟩, ofTextFrom_nil column⟩
  | succ n ih =>
    obtain ⟨cs, ⟨hlength, hclosing⟩, hcs⟩ := ih (column + 1)
    have hspells : Spells [')'] .closing := spells_mark (by simp)
    have happend := hspells.append (b := List.replicate n ')') (fun _ _ => rfl) column
    refine ⟨⟨.closing, column, String.ofList [')']⟩ :: cs, ⟨by simp [hlength], ?_⟩, ?_⟩
    · exact List.forall_mem_cons.2 ⟨rfl, hclosing⟩
    · rw [List.replicate_succ]
      simp only [List.singleton_append, List.length_singleton] at happend
      rw [happend, hcs]
      rfl

/-- A spelled lexeme and closing parentheses are cut apart. -/
theorem Lexeme.Spells.append_closings {b : List Char} {t : Token} (h : Spells b t)
    (n column : Nat) :
    ∃ l cs, l.token = t ∧ Closings n cs ∧
      ofTextFrom column (b ++ List.replicate n ')') = .ok ([l] ++ cs) := by
  obtain ⟨cs, hcs, hcut⟩ := ofTextFrom_closings n (column + b.length)
  have happend := h.append (b := List.replicate n ')') (fun x hx => ?_) column
  · refine ⟨⟨t, column, String.ofList b⟩, cs, rfl, hcs, ?_⟩
    rw [happend, hcut]
    rfl
  · obtain rfl : x = ')' := by simpa using List.eq_of_mem_replicate (List.mem_of_mem_head? hx)
    exact t.extendedBy_closing

/-- A digit spells a number. -/
theorem Lexeme.exists_spells_zero : ∃ x, Spells "0".toList (.number x) :=
  ⟨_, spells_word (by simp) (by simp; decide) (by simp)⟩

/-- What is supplied is cut into what is missing, and the parentheses behind it into closing
parentheses. -/
theorem Lexeme.ofTextFrom_supply {e : Expected}
    (he : e = .value ∨ e = .date ∨ e = .closing ∨ e = .number) (n column : Nat) :
    ∃ x cs, Supplied e x ∧ Closings n cs ∧
      ofTextFrom column (e.supply.toList ++ List.replicate n ')') = .ok (x ++ cs) := by
  have hquoted : Spells "\"\"".toList (.quoted "") := by
    have hempty : ([] : List Char).getLast? ≠ some '\\' := by simp
    simpa [quote] using spells_quote hempty
  rcases he with rfl | rfl | rfl | rfl
  · obtain ⟨l, cs, hl, hcs, hcut⟩ := hquoted.append_closings n column
    exact ⟨[l], cs, .value hl, hcs, hcut⟩
  · obtain ⟨l, cs, hl, hcs, hcut⟩ := hquoted.append_closings n column
    exact ⟨[l], cs, .date hl, hcs, hcut⟩
  · obtain ⟨cs, hcs, hcut⟩ := ofTextFrom_closings n column
    exact ⟨[], cs, .closing, hcs, by simpa [Expected.supply] using hcut⟩
  · obtain ⟨x, hzero⟩ := exists_spells_zero
    obtain ⟨l, cs, hl, hcs, hcut⟩ := hzero.append_closings n column
    exact ⟨[l], cs, .number hl, hcs, hcut⟩

/-- A text that does not extend the last lexeme of another extends none of its lexemes. -/
theorem Lexeme.closed_of_suffix {query : String} {w : List Lexeme} {d : Lexeme} {b : List Char}
    (h : ofText query = .ok w) (hd : [d] <:+ w)
    (hb : ∀ x ∈ b.head?, d.token.extendedBy x = false) : Closed w query.length b := by
  obtain ⟨front, rfl⟩ := hd
  intro l hl hstop
  rcases List.mem_append.1 hl with hfront | hlast
  · -- this lexeme ends in front of the last one
    obtain ⟨a, b', hquery, hcolumn, -, hspells⟩ := exists_split h
    obtain ⟨tiles, hlaid, -, heq⟩ := Tile.exists_laid h
    have hpairwise := hlaid.pairwise
    rw [heq, List.pairwise_append] at hpairwise
    have hle := (hpairwise.2.2 l hfront d List.mem_cons_self).2
    have hpos := Tile.length_pos_of_spells hspells
    have hlength : query.length = a.length + d.text.length + b'.length := by
      rw [hquery, String.length_append, String.length_append]
    omega
  · obtain rfl := List.mem_singleton.1 hlast
    exact hb

namespace Grammar

variable {part : Part} {w : List Lexeme} {e : Expected} {n : Nat}

/-- One of four things is missing. -/
theorem Unfinished.missing (h : Unfinished s part w e n) :
    e = .value ∨ e = .date ∨ e = .closing ∨ e = .number := by
  induction h with
  | nothing | date | field | number | unclosed => simp
  | group _ _ ih => exact ih
  | single _ _ ih => exact ih
  | joined _ _ _ _ _ _ ih => exact ih
  | beside _ _ _ _ _ _ ih => exact ih

/-- A number is missing only behind a comparison sign. -/
theorem Unfinished.exists_comparison (h : Unfinished s part w e n) (he : e = .number) :
    ∃ d c, [d] <:+ w ∧ d.token = .comparison c := by
  induction h with
  | nothing | date | field | unclosed => cases he
  | @number m k d _ _ c hm hk hd => exact ⟨d, c, ⟨m ++ [k], by simp⟩, hd⟩
  | @group w o _ _ _ _ ih =>
    obtain ⟨d, c, hd, hc⟩ := ih he
    exact ⟨d, c, hd.trans (List.suffix_cons o w), hc⟩
  | single _ _ ih =>
    obtain ⟨d, c, hd, hc⟩ := ih he
    exact ⟨d, c, hd.trans (List.suffix_append _ _), hc⟩
  | @joined b w b' b'' v l _ _ _ _ _ _ _ _ _ _ ih =>
    obtain ⟨d, c, hd, hc⟩ := ih he
    exact ⟨d, c, hd.trans ⟨b ++ w ++ b' ++ l :: b'', by simp⟩, hc⟩
  | beside _ _ _ _ _ _ ih =>
    obtain ⟨d, c, hd, hc⟩ := ih he
    exact ⟨d, c, hd.trans (List.suffix_append _ _), hc⟩

/-- What is supplied extends no lexeme of an unfinished text: quotes and parentheses extend none,
and a digit does not extend the comparison sign in front of it. -/
theorem Unfinished.closed {query : String} (hquery : ofText query = .ok w)
    (h : Unfinished s part w e n) (m : Nat) :
    Closed w query.length (e.supply.toList ++ List.replicate m ')') := by
  have hquote (b : List Char) : Closed w query.length ('"' :: b) :=
    closed_mark w query.length .quoted b
  rcases h.missing with rfl | rfl | rfl | rfl
  · simpa [Expected.supply] using hquote ('"' :: List.replicate m ')')
  · simpa [Expected.supply] using hquote ('"' :: List.replicate m ')')
  · intro l hl hstop x hx
    have hmem : x ∈ List.replicate m ')' := by
      simpa [Expected.supply] using List.mem_of_mem_head? hx
    obtain rfl := List.eq_of_mem_replicate hmem
    exact l.token.extendedBy_closing
  · obtain ⟨d, c, hd, hc⟩ := h.exists_comparison rfl
    refine closed_of_suffix hquery hd fun x hx => ?_
    obtain rfl : x = '0' := by simpa [Expected.supply] using hx.symm
    rw [hc]
    cases c <;> rfl

/-- An unfinished text, what is missing and closing parentheses are cut apart. -/
theorem Unfinished.exists_lexemes {query : String} (hquery : ofText query = .ok w)
    (h : Unfinished s part w e n) (m : Nat) :
    ∃ x cs, Supplied e x ∧ Closings m cs ∧
      ofText (query ++ e.supply ++ closings m) = .ok (w ++ x ++ cs) := by
  obtain ⟨x, cs, hx, hcs, hcut⟩ := ofTextFrom_supply h.missing m query.length
  refine ⟨x, cs, hx, hcs, ?_⟩
  have hclosed := h.closed hquery m
  rw [← String.length_toList] at hclosed hcut
  rw [← Nat.zero_add query.toList.length] at hclosed hcut
  have happend := ofTextFrom_append hquery hclosed
  rw [hcut] at happend
  simpa [ofText, closings, Except.map] using happend

end Grammar

namespace Tree

variable {query : String} {e : Expected}

/-- Where a query ends too early its lexemes are unfinished. -/
theorem exists_unfinished (h : ofText s query = .error (.unexpectedEnd e)) :
    ∃ lexemes n, Lexeme.ofText query = .ok lexemes ∧ Unfinished s .conjunction lexemes e n := by
  cases hquery : Lexeme.ofText query with
  | error u =>
    rw [ofText, hquery] at h
    cases h
  | ok lexemes =>
    rw [ofText, hquery] at h
    rcases Parser.ofLexemes_error h with hread | ⟨t, c, rest, -, -, heq⟩
    · obtain ⟨n, hn⟩ := Parser.unfinished_of_conjunctionOf hread
      exact ⟨lexemes, n, rfl, hn⟩
    · cases heq

/-- With what is missing and a closing parenthesis for each open group the text is a query, and not
the empty one. -/
theorem exists_ofText_supply {lexemes : List Lexeme} {n : Nat}
    (hquery : Lexeme.ofText query = .ok lexemes) (h : Unfinished s .conjunction lexemes e n) :
    ∃ t, ofText s (query ++ e.supply ++ closings n) = .ok t ∧ t ≠ .everything := by
  obtain ⟨x, cs, hx, hcs, hcut⟩ := h.exists_lexemes hquery n
  obtain ⟨t, ht⟩ := h.complete hx hcs
  have hphrase := ht [] not_signNext_nil
  exact ⟨t, Parser.ofText_eq_ok_iff.2 ⟨_, hcut, .conjunction hphrase⟩, hphrase.ne_everything⟩

/-- Whatever is supplied, the text is not the empty query, since its beginning is not. -/
theorem ofText_supply_ne_everything (h : ofText s query = .error (.unexpectedEnd e)) (m : Nat) :
    ofText s (query ++ e.supply ++ closings m) ≠ .ok .everything := by
  intro hempty
  obtain ⟨lexemes, n, hquery, hn⟩ := exists_unfinished h
  obtain ⟨x, cs, -, -, hcut⟩ := hn.exists_lexemes hquery m
  have hblanks := (ofText_eq_everything_iff hcut).1 hempty
  have hfront : Blanks lexemes := fun l hl => hblanks l (by simp [hl])
  rw [(ofText_eq_everything_iff hquery).2 hfront] at h
  cases h

/-- **A query that ends too early can be finished, and in one way**: its text can be cut into
lexemes that lack one thing, and with a text for that and closing parentheses it is a query exactly
if there is one parenthesis for each group that is open.

**Proof sketch.** Only unfinished lexemes end too early (`Parser.unfinished_of_conjunctionOf`), what
is supplied makes them a phrase (`Unfinished.complete`), and it is cut apart from them
(`Unfinished.exists_lexemes`). With another number of parentheses one of the two texts would be a
query with a closing parenthesis behind it (`ofText_closing_append_ne`). -/
theorem ofText_supply_iff (h : ofText s query = .error (.unexpectedEnd e)) :
    ∃ lexemes n, Lexeme.ofText query = .ok lexemes ∧ Unfinished s .conjunction lexemes e n ∧
      ∀ m, (∃ t, ofText s (query ++ e.supply ++ closings m) = .ok t) ↔ m = n := by
  obtain ⟨lexemes, n, hquery, hn⟩ := exists_unfinished h
  obtain ⟨t, ht, hne⟩ := exists_ofText_supply hquery hn
  refine ⟨lexemes, n, hquery, hn, fun m => ⟨?_, ?_⟩⟩
  · rintro ⟨u, hu⟩
    rcases Nat.lt_trichotomy m n with hlt | heq | hlt
    · obtain ⟨k, rfl⟩ := Nat.exists_eq_add_of_lt hlt
      have hu' : u ≠ .everything := by
        rintro rfl
        exact ofText_supply_ne_everything h m hu
      rw [Nat.add_assoc, closings_add_succ, ← String.append_assoc, ← String.append_assoc] at ht
      exact absurd ht (ofText_closing_append_ne hu hu' _ t)
    · exact heq
    · obtain ⟨k, rfl⟩ := Nat.exists_eq_add_of_lt hlt
      rw [Nat.add_assoc, closings_add_succ, ← String.append_assoc, ← String.append_assoc] at hu
      exact absurd hu (ofText_closing_append_ne ht hne _ u)
  · rintro rfl
    exact ⟨t, ht⟩

/-- A value is missing in the second of two groups that are open; the `OR` in front of it is no key
yet and becomes none. -/
theorem ofText_supply_two :
    ofText {} "a (b:c OR (d AND -OR:" = .error (.unexpectedEnd .value) ∧
      ∀ m, (∃ t, ofText {} ("a (b:c OR (d AND -OR:" ++ "\"\"" ++ closings m) = .ok t) ↔ m = 2 := by
  have herror : ofText {} "a (b:c OR (d AND -OR:" = .error (.unexpectedEnd .value) := by cbv
  obtain ⟨lexemes, n, -, -, hiff⟩ := ofText_supply_iff herror
  have htwo : 2 = n := (hiff 2).1 ⟨.joined .and (.anyField (.text "a"))
    (.joined .or (.field "b" false (.text "c"))
      (.joined .and (.anyField (.text "d")) (.field "OR" true (.text "")))), by cbv⟩
  rw [htwo]
  exact ⟨herror, hiff⟩

end Tree

end RecordQuery
