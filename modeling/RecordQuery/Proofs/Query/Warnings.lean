import RecordQuery.Proofs.Query.Parsing
import RecordQuery.Proofs.Query.Yesterday

set_option autoImplicit false

/-!
# Bounds in reading order

The selections by date of a query can be found in its lexemes from left to right, without parsing it: each
is a key for dates, a colon and one more lexeme, which is the bound whatever it is. These are the selections
by date of the tree in the same order, however they are grouped, joined or negated. Warnings are raised for
those with a bound that names no date, and these are the ones that answer nothing but their negation.

## Main definitions

* `RecordQuery.NamesDate` — the bounds that name a date.
* `RecordQuery.Lexeme.dates` — the selections by date among some lexemes.

## Main results

* `RecordQuery.Grammar.Phrase.dates_append` — the lexemes of a phrase have its selections by date.
* `RecordQuery.Tree.warnings_eq` — what warnings are raised for.
* `RecordQuery.Tree.predicate_date_eq_negated_iff` — which selections answer nothing but their negation.
-/

namespace RecordQuery

/-! ## Bounds that name a date -/

/-- A bound names a date: it is `yesterday`, or the text of a date. -/
def NamesDate (bound : String) : Prop :=
  IsYesterday bound ∨ (Instant.read? bound.toList).isSome = true

instance (bound : String) : Decidable (NamesDate bound) :=
  inferInstanceAs (Decidable (IsYesterday bound ∨ (Instant.read? bound.toList).isSome = true))

theorem Bound.isSome_ofText?_iff (bound : String) :
    (Bound.ofText? bound).isSome = true ↔ NamesDate bound := by
  unfold Bound.ofText? NamesDate IsYesterday
  split
  · rename_i h
    exact iff_of_true rfl (.inl h)
  · rename_i h
    rw [Option.isSome_map, or_iff_right h]

/-! ## Selections by date -/

namespace Lexeme

/-- The side of a bound that a lexeme asks for where it is a key. -/
def side? (l : Lexeme) : Option Side := (Parser.word? l.token).bind Side.ofKey?

/-- The selections by date among some lexemes, from left to right, each with its side and its bound. Behind
the key and the colon any lexeme is the bound, and begins no other selection. -/
def dates : List Lexeme → List (Side × String)
  | k :: d :: l :: rest =>
    match k.side? with
    | some side =>
      if d.token = .colon then (side, Parser.dateText l) :: dates rest else dates (d :: l :: rest)
    | none => dates (d :: l :: rest)
  | _ => []

theorem side?_of_word {k : Lexeme} {key : String} (hk : k.token = .word key) :
    k.side? = Side.ofKey? key := by
  rw [side?, hk]
  rfl

theorem side?_of_word?_eq_none {k : Lexeme} (hk : Parser.word? k.token = none) : k.side? = none := by
  rw [side?, hk]
  rfl

/-- A lexeme begins no selection by date if it is no key for dates or no colon follows it. -/
theorem dates_cons {k : Lexeme} {rest : List Lexeme}
    (h : k.side? = none ∨ ∀ d ∈ rest.head?, d.token ≠ .colon) : dates (k :: rest) = dates rest := by
  match rest with
  | [] | [_] => simp [dates]
  | d :: l :: rest =>
    rw [dates]
    split
    · rename_i side hside
      have hcolon : d.token ≠ .colon := by
        rcases h with h | h
        · rw [h] at hside
          cases hside
        · exact h d rfl
      rw [if_neg hcolon]
    · rfl

/-- Blanks begin no selection. -/
theorem dates_blanks {b : List Lexeme} (hb : Grammar.Blanks b) (rest : List Lexeme) :
    dates (b ++ rest) = dates rest := by
  induction b with
  | nil => rfl
  | cons l b ih =>
    obtain ⟨hl, hb⟩ := List.forall_mem_cons.1 hb
    rw [List.cons_append, dates_cons (.inl (side?_of_word?_eq_none (by rw [hl]; rfl))), ih hb]

/-- A minus begins no selection by itself. -/
theorem dates_sign {m : List Lexeme} {negated : Bool} (hm : Grammar.Sign m negated)
    (rest : List Lexeme) : dates (m ++ rest) = dates rest := by
  cases hm with
  | plain => rfl
  | minus hl => exact dates_cons (.inl (side?_of_word?_eq_none (by rw [hl]; rfl)))

/-- A lexeme that is a value is no key. -/
theorem dates_value {s : Settings} {l : Lexeme} {v : Literal} {after : List Lexeme}
    (hl : Grammar.IsValue s after l v) : dates (l :: after) = dates after := by
  cases hl with
  | word _ hnext => exact dates_cons (.inr fun d hd hcolon => hnext ⟨d, hd, .inl hcolon⟩)
  | number hl | quoted hl | pattern hl =>
    exact dates_cons (.inl (side?_of_word?_eq_none (by rw [hl]; rfl)))

end Lexeme

/-- The side and the bound of a selection by date. -/
def Tree.bound? : Tree → Option (Side × String)
  | .date side _ bound => some (side, bound)
  | _ => none

namespace Grammar

variable {s : Settings}

/-- The text of a date is the one that is found there. -/
theorem DateText.eq {l : Lexeme} {bound : String} (h : DateText l bound) :
    Parser.dateText l = bound := by
  cases h with
  | word hl | quoted hl | pattern hl => simp [Parser.dateText, hl]
  | written hl =>
    unfold Parser.dateText
    split
    · rename_i w hw
      exact absurd hw (hl w).1
    · rename_i t ht
      exact absurd ht (hl t).2.1
    · rename_i source hsource
      exact absurd hsource (hl source).2.2
    · rfl

/-- **The selections by date of a phrase stand among its lexemes** from left to right, in the order in which
the tree has them, whatever comes behind the phrase.

**Proof sketch.** Induction on the phrase. A lexeme that is a value has no sign behind it, and one that is a
bound is passed over together with its key, so that nothing else looks like a key for dates. -/
theorem Phrase.dates_append {part : Part} {after w : List Lexeme} {t : Tree}
    (h : Phrase s part after w t) :
    Lexeme.dates (w ++ after) = t.selections.filterMap Tree.bound? ++ Lexeme.dates after := by
  induction h with
  | @group after w t o c ho _ hc ih =>
    have hopen : o.side? = none := Lexeme.side?_of_word?_eq_none (by rw [ho]; rfl)
    have hclose : c.side? = none := Lexeme.side?_of_word?_eq_none (by rw [hc]; rfl)
    rw [List.cons_append, List.append_assoc, List.singleton_append,
      Lexeme.dates_cons (.inl hopen), ih, Lexeme.dates_cons (.inl hclose)]
  | @date after m k d l negated key bound side hm hk hd hkey hl =>
    have hside : k.side? = some side := (Lexeme.side?_of_word hk).trans hkey
    have hdates : Lexeme.dates (k :: d :: l :: after) = (side, bound) :: Lexeme.dates after := by
      simp only [Lexeme.dates, hside, hd, hl.eq, if_true]
    rw [List.append_assoc, Lexeme.dates_sign hm]
    exact hdates
  | @field after m k d l negated key v hm hk hd hkey hl =>
    have hside : k.side? = none := (Lexeme.side?_of_word hk).trans hkey
    have hcolon : d.side? = none := Lexeme.side?_of_word?_eq_none (by rw [hd]; rfl)
    have hdates : Lexeme.dates (k :: d :: l :: after) = Lexeme.dates after := by
      rw [Lexeme.dates_cons (.inl hside), Lexeme.dates_cons (.inl hcolon), Lexeme.dates_value hl]
    rw [List.append_assoc, Lexeme.dates_sign hm]
    exact hdates
  | @number after m k d l negated key c x hm hk hd hl =>
    have hsign : d.side? = none := Lexeme.side?_of_word?_eq_none (by rw [hd]; rfl)
    have hnumber : l.side? = none := Lexeme.side?_of_word?_eq_none (by rw [hl]; rfl)
    -- the key may be one for dates, but what follows it is no colon
    have hcolon : ∀ e ∈ (d :: l :: after).head?, e.token ≠ .colon := by simp [hd]
    have hdates : Lexeme.dates (k :: d :: l :: after) = Lexeme.dates after := by
      rw [Lexeme.dates_cons (.inr hcolon), Lexeme.dates_cons (.inl hsign),
        Lexeme.dates_cons (.inl hnumber)]
    rw [List.append_assoc, Lexeme.dates_sign hm]
    exact hdates
  | anyField hl => exact Lexeme.dates_value hl
  | @single after b w b' t hb _ hb' ih =>
    rw [List.append_assoc, List.append_assoc, Lexeme.dates_blanks hb, ih, Lexeme.dates_blanks hb']
  | @joined after b w b' b'' v l j t u hb _ hb' hl hb'' _ ihw ihv =>
    have hjoint : l.side? = none := by
      rw [Lexeme.side?_of_word hl.1]
      cases j <;> rfl
    simp only [List.append_assoc, List.cons_append] at ihw ⊢
    rw [Lexeme.dates_blanks hb, ihw, Lexeme.dates_blanks hb', Lexeme.dates_cons (.inl hjoint),
      Lexeme.dates_blanks hb'', ihv, Tree.selections, List.filterMap_append, List.append_assoc]
  | @beside after b w b' v t u hb _ hb' _ _ ihw ihv =>
    simp only [List.append_assoc] at ihw ⊢
    rw [Lexeme.dates_blanks hb, ihw, Lexeme.dates_blanks hb', ihv, Tree.selections,
      List.filterMap_append, List.append_assoc]

/-- The selections by date of a query are found in its lexemes. -/
theorem Derives.dates {w : List Lexeme} {t : Tree} (h : Derives s w t) :
    Lexeme.dates w = t.selections.filterMap Tree.bound? := by
  cases h with
  | everything hw =>
    have hblanks := Lexeme.dates_blanks hw []
    rw [List.append_nil] at hblanks
    exact hblanks
  | conjunction hw =>
    have hdates := hw.dates_append
    rw [List.append_nil] at hdates
    exact hdates.trans (List.append_nil _)

end Grammar

namespace Tree

variable {s : Settings}

/-! ## Warnings -/

/-- **Warnings are raised for the bounds that name no date**, one for each, in reading order. -/
theorem warnings_eq (t : Tree) :
    t.warnings = ((t.selections.filterMap bound?).filter fun b => ¬NamesDate b.2).map
      fun b => ⟨b.1, b.2⟩ := by
  induction t with
  | everything | field | number | anyField => rfl
  | date side negated bound =>
    simp only [warnings, Bound.isSome_ofText?_iff]
    split
    · rename_i h
      simp [selections, bound?, h]
    · rename_i h
      simp [selections, bound?, h]
  | joined j left right ihl ihr =>
    rw [warnings, ihl, ihr, selections, List.filterMap_append, List.filter_append, List.map_append]

/-! ## Answers -/

/-- Some date lies on a side of an instant. -/
theorem exists_holds (side : Side) (t : Instant) : ∃ u : Instant, side.holds u t = true := by
  cases side with
  | before =>
    refine ⟨{ t with seconds := t.seconds - 1 }, decide_eq_true ?_⟩
    simp only [Instant.moment]
    omega
  | after =>
    refine ⟨{ t with seconds := t.seconds + 1 }, decide_eq_true ?_⟩
    simp only [Instant.moment]
    omega

/-- **A selection by date answers nothing but its negation exactly if its bound names no date**: then no
record is a hit, and every other bound is met by some. -/
theorem predicate_date_eq_negated_iff (now : Instant) (side : Side) (negated : Bool)
    (bound : String) :
    (∀ record, (date side negated bound).predicate s now record = negated) ↔ ¬NamesDate bound := by
  rw [← Bound.isSome_ofText?_iff, predicate, datePredicate]
  cases hbound : Bound.ofText? bound with
  | none => simp
  | some b =>
    obtain ⟨u, hu⟩ := exists_holds side (b.resolve now)
    simp only [Option.isSome_some, not_true_eq_false, iff_false, not_forall]
    refine ⟨[(s.dateKey, .date u)], ?_⟩
    have hdate : (Entries.get? [(s.dateKey, Value.date u)] s.dateKey).bind Value.date? = some u := by
      simp [Entries.get?_cons, Value.date?]
    simp only [hdate, hu]
    cases negated <;> simp

end Tree

end RecordQuery
