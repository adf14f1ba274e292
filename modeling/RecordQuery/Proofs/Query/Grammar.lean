import RecordQuery.Query.Parser

set_option autoImplicit false

/-!
# The grammar of queries

The grammar that queries follow, as rules over lexemes and apart from the parser:

    query       = blank* | conjunction
    conjunction = blank* selection blank*
                | blank* selection blank* joint blank* conjunction
                | blank* selection blank* conjunction
    selection   = "(" conjunction ")"
                | ["-"] word ":" lexeme             (the key is `before` or `after`)
                | ["-"] word ":" value              (any other key)
                | ["-"] word comparison number
                | value
    value       = word | number | quoted | pattern

Some words can be read in more than one way, and what comes next decides. A word before a colon or a
comparison sign is a key and no value. `AND` and `OR` are joints right behind a selection, unless
they are keys there, and so the last rule for conjunctions is for selections with no joint behind
them. Every phrase is therefore derived in front of the lexemes that come after it.

## Main definitions

* `RecordQuery.Grammar.IsValue` — the values that a lexeme can be.
* `RecordQuery.Grammar.Phrase` — the selections and conjunctions of the grammar.
* `RecordQuery.Grammar.Derives` — the trees that some lexemes derive as a whole query.

## Main results

* `RecordQuery.Grammar.Phrase.map_congr` — a phrase looks no further ahead than to tell whether a
  sign comes next, and columns do not matter to it.
-/

namespace RecordQuery

/-- How a joint is written. -/
def Joint.word : Joint → String
  | .and => "AND"
  | .or => "OR"

namespace Grammar

/-! ## What comes next -/

/-- A colon or a comparison sign comes next. -/
def SignNext (after : List Lexeme) : Prop :=
  ∃ l ∈ after.head?, l.token = .colon ∨ ∃ c, l.token = .comparison c

/-- Some lexemes are all blanks. -/
def Blanks (w : List Lexeme) : Prop := ∀ l ∈ w, l.token = .blank

/-- A lexeme in front of others is a joint: one of the two words, and not a key. -/
def IsJoint (j : Joint) (l : Lexeme) (after : List Lexeme) : Prop :=
  l.token = .word j.word ∧ ¬SignNext after

/-- A joint comes next, perhaps behind blanks. -/
def JointNext (after : List Lexeme) : Prop :=
  ∃ b j l rest, after = b ++ l :: rest ∧ Blanks b ∧ IsJoint j l rest

/-! ## The rules -/

/-- The pattern that a source is under some settings. -/
def IsPattern (s : Settings) (source : String) (p : Pattern) : Prop :=
  Pattern.compile (!s.caseSensitive) source = .ok p

/-- The literals that a bare word or number can be: the settings choose between text and
pattern. -/
inductive Bare (s : Settings) (text : String) : Literal → Prop
  | text (h : s.preferPatterns = false) : Bare s text (.text text)
  | pattern {p : Pattern} (h : s.preferPatterns = true) (hp : IsPattern s text p) :
      Bare s text (.pattern p)

/-- The literals that a lexeme in front of others can be as a value. -/
inductive IsValue (s : Settings) (after : List Lexeme) (l : Lexeme) : Literal → Prop
  | word {w : String} {v : Literal} (hl : l.token = .word w) (hnext : ¬SignNext after)
      (hv : Bare s w v) : IsValue s after l v
  | number {x : Number} {v : Literal} (hl : l.token = .number x) (hv : Bare s l.text v) :
      IsValue s after l v
  | quoted {t : String} (hl : l.token = .quoted t) : IsValue s after l (.text t)
  | pattern {source : String} {p : Pattern} (hl : l.token = .pattern source)
      (hp : IsPattern s source p) : IsValue s after l (.pattern p)

/-- The text of a lexeme as a date: what is inside a word or literal, else how the lexeme is
written. -/
inductive DateText (l : Lexeme) : String → Prop
  | word {t : String} (hl : l.token = .word t) : DateText l t
  | quoted {t : String} (hl : l.token = .quoted t) : DateText l t
  | pattern {t : String} (hl : l.token = .pattern t) : DateText l t
  | written (hl : ∀ t, l.token ≠ .word t ∧ l.token ≠ .quoted t ∧ l.token ≠ .pattern t) :
      DateText l l.text

/-- What may stand before a key: nothing, or a minus that negates the selection. -/
inductive Sign : List Lexeme → Bool → Prop
  | plain : Sign [] false
  | minus {l : Lexeme} (hl : l.token = .minus) : Sign [l] true

/-- The two kinds of phrases. -/
inductive Part where
  | selection
  | conjunction
deriving DecidableEq

/-- `Phrase s part after w t`: in front of `after` the lexemes `w` are a phrase of the kind `part`,
and its tree is `t`. -/
inductive Phrase (s : Settings) : Part → List Lexeme → List Lexeme → Tree → Prop
  | group {after w : List Lexeme} {t : Tree} {o c : Lexeme} (ho : o.token = .opening)
      (hw : Phrase s .conjunction (c :: after) w t) (hc : c.token = .closing) :
      Phrase s .selection after (o :: (w ++ [c])) t
  | date {after m : List Lexeme} {k d l : Lexeme} {negated : Bool} {key bound : String}
      {side : Side} (hm : Sign m negated) (hk : k.token = .word key) (hd : d.token = .colon)
      (hkey : Side.ofKey? key = some side) (hl : DateText l bound) :
      Phrase s .selection after (m ++ [k, d, l]) (.date side negated bound)
  | field {after m : List Lexeme} {k d l : Lexeme} {negated : Bool} {key : String} {v : Literal}
      (hm : Sign m negated) (hk : k.token = .word key) (hd : d.token = .colon)
      (hkey : Side.ofKey? key = none) (hl : IsValue s after l v) :
      Phrase s .selection after (m ++ [k, d, l]) (.field key negated v)
  | number {after m : List Lexeme} {k d l : Lexeme} {negated : Bool} {key : String}
      {c : Comparison} {x : Number} (hm : Sign m negated) (hk : k.token = .word key)
      (hd : d.token = .comparison c) (hl : l.token = .number x) :
      Phrase s .selection after (m ++ [k, d, l]) (.number key c negated x)
  | anyField {after : List Lexeme} {l : Lexeme} {v : Literal} (hl : IsValue s after l v) :
      Phrase s .selection after [l] (.anyField v)
  | single {after b w b' : List Lexeme} {t : Tree} (hb : Blanks b)
      (hw : Phrase s .selection (b' ++ after) w t) (hb' : Blanks b') :
      Phrase s .conjunction after (b ++ w ++ b') t
  | joined {after b w b' b'' v : List Lexeme} {l : Lexeme} {j : Joint} {t u : Tree} (hb : Blanks b)
      (hw : Phrase s .selection (b' ++ l :: (b'' ++ v ++ after)) w t) (hb' : Blanks b')
      (hl : IsJoint j l (b'' ++ v ++ after)) (hb'' : Blanks b'')
      (hv : Phrase s .conjunction after v u) :
      Phrase s .conjunction after (b ++ w ++ b' ++ l :: (b'' ++ v)) (.joined j t u)
  | beside {after b w b' v : List Lexeme} {t u : Tree} (hb : Blanks b)
      (hw : Phrase s .selection (b' ++ v ++ after) w t) (hb' : Blanks b')
      (hnext : ¬JointNext (b' ++ v ++ after)) (hv : Phrase s .conjunction after v u) :
      Phrase s .conjunction after (b ++ w ++ b' ++ v) (.joined .and t u)

/-- The trees that some lexemes derive as a whole query. -/
inductive Derives (s : Settings) (w : List Lexeme) : Tree → Prop
  | everything (hw : Blanks w) : Derives s w .everything
  | conjunction {t : Tree} (hw : Phrase s .conjunction [] w t) : Derives s w t

/-! ## What phrases start with -/

section Heads

variable {s : Settings} {after w : List Lexeme} {l k : Lexeme} {key : String} {v : Literal}

/-- A value is no parenthesis, blank or minus. -/
theorem IsValue.token_ne (h : IsValue s after l v) :
    l.token ≠ .opening ∧ l.token ≠ .blank ∧ l.token ≠ .minus := by
  cases h with
  | word hl => simp [hl]
  | number hl => simp [hl]
  | quoted hl => simp [hl]
  | pattern hl => simp [hl]

/-- No sign follows a word that is a value. -/
theorem IsValue.not_signNext (h : IsValue s after l v) (w : String) (hw : l.token = .word w) :
    ¬SignNext after := by
  cases h with
  | word _ hnext => exact hnext
  | number hl => rw [hl] at hw; cases hw
  | quoted hl => rw [hl] at hw; cases hw
  | pattern hl => rw [hl] at hw; cases hw

/-- A key, perhaps behind a minus, starts with one of the two. -/
theorem Sign.exists_head {m : List Lexeme} {negated : Bool} (hm : Sign m negated)
    (hk : k.token = .word key) (rest : List Lexeme) :
    ∃ l rest', m ++ k :: rest = l :: rest' ∧ (l.token = .minus ∨ l.token = .word key) := by
  cases hm with
  | plain => exact ⟨k, rest, rfl, .inr hk⟩
  | minus hl => exact ⟨_, _, rfl, .inl hl⟩

/-- A selection starts with a lexeme that is no blank. -/
theorem Phrase.exists_head {t : Tree} (h : Phrase s .selection after w t) :
    ∃ l w', w = l :: w' ∧ l.token ≠ .blank := by
  cases h with
  | group ho => exact ⟨_, _, rfl, by simp [ho]⟩
  | date hm hk =>
    obtain ⟨l, rest, heq, hl⟩ := hm.exists_head hk _
    exact ⟨l, rest, heq, by rcases hl with hl | hl <;> simp [hl]⟩
  | field hm hk =>
    obtain ⟨l, rest, heq, hl⟩ := hm.exists_head hk _
    exact ⟨l, rest, heq, by rcases hl with hl | hl <;> simp [hl]⟩
  | number hm hk =>
    obtain ⟨l, rest, heq, hl⟩ := hm.exists_head hk _
    exact ⟨l, rest, heq, by rcases hl with hl | hl <;> simp [hl]⟩
  | anyField hl => exact ⟨_, [], rfl, hl.token_ne.2.1⟩

/-- A conjunction starts with blanks and a lexeme that is none. -/
theorem Phrase.exists_blanks_head {t : Tree} (h : Phrase s .conjunction after w t) :
    ∃ b l w', w = b ++ l :: w' ∧ Blanks b ∧ l.token ≠ .blank := by
  cases h with
  | @single _ b w b' _ hb hw =>
    obtain ⟨l, w', rfl, hl⟩ := hw.exists_head
    exact ⟨b, l, w' ++ b', by simp, hb, hl⟩
  | @joined _ b w b' b'' v l' _ _ _ hb hw =>
    obtain ⟨l, w', rfl, hl⟩ := hw.exists_head
    exact ⟨b, l, w' ++ b' ++ l' :: (b'' ++ v), by simp, hb, hl⟩
  | @beside _ b w b' v _ _ hb hw =>
    obtain ⟨l, w', rfl, hl⟩ := hw.exists_head
    exact ⟨b, l, w' ++ b' ++ v, by simp, hb, hl⟩

/-- No lexemes are blanks. -/
theorem blanks_nil : Blanks [] := fun _ h => nomatch h

/-- A selection alone is a conjunction. -/
theorem Phrase.conjunction {t : Tree} (h : Phrase s .selection after w t) :
    Phrase s .conjunction after w t := by
  have hw : Phrase s .conjunction after ([] ++ w ++ []) t := .single blanks_nil h blanks_nil
  simpa using hw

end Heads

/-! ## How far phrases look ahead -/

/-- A sign comes next if the next lexeme is one. -/
theorem signNext_cons {l : Lexeme} {rest : List Lexeme} :
    SignNext (l :: rest) ↔ l.token = .colon ∨ ∃ c, l.token = .comparison c := by
  simp [SignNext]

/-- Nothing comes next at the end. -/
theorem not_signNext_nil : ¬SignNext [] := by simp [SignNext]

/-- A joint comes next behind a blank if it does behind that blank. -/
theorem jointNext_cons_blank {l : Lexeme} (hl : l.token = .blank) (rest : List Lexeme) :
    JointNext (l :: rest) ↔ JointNext rest := by
  constructor
  · rintro ⟨b, j, k, behind, heq, hb, hk⟩
    cases b with
    | nil =>
      obtain ⟨rfl, rfl⟩ := List.cons.inj heq
      rw [hk.1] at hl
      cases hl
    | cons l' b =>
      obtain ⟨rfl, rfl⟩ := List.cons.inj heq
      exact ⟨b, j, k, behind, rfl, fun x hx => hb x (List.mem_cons_of_mem _ hx), hk⟩
  · rintro ⟨b, j, k, behind, rfl, hb, hk⟩
    exact ⟨l :: b, j, k, behind, rfl, List.forall_mem_cons.2 ⟨hl, hb⟩, hk⟩

/-- If the next lexeme is no blank, a joint comes next only if that lexeme is one. -/
theorem jointNext_cons {l : Lexeme} (hl : l.token ≠ .blank) (rest : List Lexeme) :
    JointNext (l :: rest) ↔ ∃ j, IsJoint j l rest := by
  constructor
  · rintro ⟨b, j, k, behind, heq, hb, hk⟩
    cases b with
    | nil =>
      obtain ⟨rfl, rfl⟩ := List.cons.inj heq
      exact ⟨j, hk⟩
    | cons l' b =>
      obtain ⟨rfl, -⟩ := List.cons.inj heq
      exact absurd (hb l List.mem_cons_self) hl
  · rintro ⟨j, hj⟩
    exact ⟨[], j, l, rest, rfl, by simp [Blanks], hj⟩

/-- Blanks do not hide a joint. -/
theorem jointNext_append {b : List Lexeme} (hb : Blanks b) (rest : List Lexeme) :
    JointNext (b ++ rest) ↔ JointNext rest := by
  induction b with
  | nil => rfl
  | cons l b ih =>
    have hb' := List.forall_mem_cons.1 hb
    rw [List.cons_append, jointNext_cons_blank hb'.1, ih hb'.2]

section Congruence

variable {s : Settings} {f : Lexeme → Lexeme} {after after' : List Lexeme}
  (hf : ∀ l, (f l).token = l.token ∧ (f l).text = l.text)
  (hafter : SignNext after ↔ SignNext after')

include hf hafter

/-- Whether a sign comes next is seen from the tokens. -/
theorem signNext_map_append (w : List Lexeme) :
    SignNext (w ++ after) ↔ SignNext (w.map f ++ after') := by
  cases w with
  | nil => exact hafter
  | cons l w => simp [signNext_cons, (hf l).1]

/-- Whether a lexeme is a joint is seen from the tokens. -/
theorem isJoint_map_append (j : Joint) (l : Lexeme) (w : List Lexeme) :
    IsJoint j l (w ++ after) ↔ IsJoint j (f l) (w.map f ++ after') := by
  rw [IsJoint, IsJoint, (hf l).1, signNext_map_append hf hafter w]

/-- Whether a joint comes next is seen from the tokens, if some lexeme is no blank. -/
theorem jointNext_map_append {b w : List Lexeme} {l : Lexeme} (hb : Blanks b)
    (hl : l.token ≠ .blank) :
    JointNext (b ++ l :: w ++ after) ↔ JointNext ((b ++ l :: w).map f ++ after') := by
  have hb' : Blanks (b.map f) := by
    intro x hx
    obtain ⟨y, hy, rfl⟩ := List.mem_map.1 hx
    rw [(hf y).1, hb y hy]
  have hl' : (f l).token ≠ .blank := by rw [(hf l).1]; exact hl
  simp only [List.map_append, List.map_cons, List.append_assoc, List.cons_append]
  rw [jointNext_append hb, jointNext_append hb', jointNext_cons hl, jointNext_cons hl']
  exact exists_congr fun j => isJoint_map_append hf hafter j l w

/-- A value stays one in front of other lexemes. -/
theorem IsValue.map {l : Lexeme} {v : Literal} (h : IsValue s after l v) :
    IsValue s after' (f l) v := by
  cases h with
  | word hl hnext hv => exact .word (by rw [(hf l).1, hl]) (fun hs => hnext (hafter.2 hs)) hv
  | number hl hv => exact .number (by rw [(hf l).1, hl]) (by rw [(hf l).2]; exact hv)
  | quoted hl => exact .quoted (by rw [(hf l).1, hl])
  | pattern hl hp => exact .pattern (by rw [(hf l).1, hl]) hp

end Congruence

section Columns

variable {s : Settings} {f : Lexeme → Lexeme}
  (hf : ∀ l, (f l).token = l.token ∧ (f l).text = l.text)

include hf

/-- Blanks stay blanks. -/
theorem Blanks.map {b : List Lexeme} (hb : Blanks b) : Blanks (b.map f) := by
  intro x hx
  obtain ⟨y, hy, rfl⟩ := List.mem_map.1 hx
  rw [(hf y).1, hb y hy]

/-- A minus stays one. -/
theorem Sign.map {m : List Lexeme} {negated : Bool} (hm : Sign m negated) :
    Sign (m.map f) negated := by
  cases hm with
  | plain => exact .plain
  | minus hl => exact .minus (by rw [(hf _).1, hl])

/-- The text of a date stays the same. -/
theorem DateText.map {l : Lexeme} {bound : String} (h : DateText l bound) :
    DateText (f l) bound := by
  cases h with
  | word hl => exact .word (by rw [(hf l).1, hl])
  | quoted hl => exact .quoted (by rw [(hf l).1, hl])
  | pattern hl => exact .pattern (by rw [(hf l).1, hl])
  | written hl =>
    rw [← (hf l).2]
    exact .written (by rw [(hf l).1]; exact hl)

/-- **A phrase stays one** when columns change, and in front of any other lexemes as long as a sign
comes next in both places or in neither.

**Proof sketch.** Induction on the phrase. The selection inside a phrase is followed by blanks, by
further lexemes of the phrase or by what follows the phrase itself, so that the lexeme next to it
keeps its token or is covered by the assumption (`signNext_map_append`). A conjunction beside a
selection has a lexeme that is no blank, and a joint can only be that lexeme
(`jointNext_map_append`). -/
theorem Phrase.map_congr {part : Part} {after after' w : List Lexeme} {t : Tree}
    (h : Phrase s part after w t) (hafter : SignNext after ↔ SignNext after') :
    Phrase s part after' (w.map f) t := by
  induction h generalizing after' with
  | @group after w t o c ho hw hc ih =>
    have hclose : SignNext (c :: after) ↔ SignNext (f c :: after') := by
      simp [signNext_cons, (hf c).1, hc]
    simpa using .group (by rw [(hf o).1, ho]) (ih hclose) (by rw [(hf c).1, hc])
  | date hm hk hd hkey hl =>
    simpa using .date (hm.map hf) (by rw [(hf _).1, hk]) (by rw [(hf _).1, hd]) hkey (hl.map hf)
  | field hm hk hd hkey hl =>
    simpa using .field (hm.map hf) (by rw [(hf _).1, hk]) (by rw [(hf _).1, hd]) hkey
      (hl.map hf hafter)
  | number hm hk hd hl =>
    simpa using .number (hm.map hf) (by rw [(hf _).1, hk]) (by rw [(hf _).1, hd])
      (by rw [(hf _).1, hl])
  | anyField hl => exact .anyField (hl.map hf hafter)
  | @single after b w b' t hb hw hb' ih =>
    simp only [List.map_append]
    exact .single (hb.map hf) (ih (signNext_map_append hf hafter b')) (hb'.map hf)
  | @joined after b w b' b'' v l j t u hb hw hb' hl hb'' hv ihw ihv =>
    have hnext := signNext_map_append hf hafter (b' ++ l :: (b'' ++ v))
    have hjoint := (isJoint_map_append hf hafter j l (b'' ++ v)).1 hl
    simp only [List.map_append, List.map_cons, List.append_assoc, List.cons_append] at hnext hjoint
    simp only [List.append_assoc] at ihw
    simp only [List.map_append, List.map_cons]
    exact .joined (hb.map hf) (by simpa using ihw hnext) (hb'.map hf) (by simpa using hjoint)
      (hb''.map hf) (ihv hafter)
  | @beside after b w b' v t u hb hw hb' hnext hv ihw ihv =>
    have hsign := signNext_map_append hf hafter (b' ++ v)
    have hjoint : JointNext (b' ++ v ++ after) ↔ JointNext ((b' ++ v).map f ++ after') := by
      obtain ⟨b₀, l, v', rfl, hb₀, hl⟩ := hv.exists_blanks_head
      have hall : Blanks (b' ++ b₀) := List.forall_mem_append.2 ⟨hb', hb₀⟩
      simpa using jointNext_map_append hf hafter (w := v') hall hl
    rw [hjoint] at hnext
    simp only [List.map_append] at hsign hnext ⊢
    exact .beside (hb.map hf) (ihw hsign) (hb'.map hf) hnext (ihv hafter)

end Columns

/-- A phrase is one in front of any lexemes that agree with those behind it on whether a sign comes
next. -/
theorem Phrase.in_front_of {s : Settings} {part : Part} {after after' w : List Lexeme} {t : Tree}
    (h : Phrase s part after w t) (hafter : SignNext after ↔ SignNext after') :
    Phrase s part after' w t := by
  have hmap := h.map_congr (f := id) (fun l => ⟨rfl, rfl⟩) hafter
  rwa [List.map_id] at hmap

end Grammar

end RecordQuery
