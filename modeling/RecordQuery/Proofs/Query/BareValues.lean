import Mathlib.Data.List.Nodup
import RecordQuery.Proofs.Query.Respelling
import RecordQuery.Proofs.Query.Sameness

set_option autoImplicit false

/-!
# Bare values

A bare word or number that is read as a value is short for a literal: for a pattern under settings
that prefer patterns, and else for a text. Written out between the marks of that literal, it is
read in the same way under settings with the other preference, and so is the query around it.

## Main definitions

* `RecordQuery.Grammar.ReadValues` — the grammar, with the lexemes that are read as values.
* `RecordQuery.Lexeme.explicit` — a lexeme with bare values written out.

## Main results

* `RecordQuery.Grammar.phrase_iff_exists_readValues` — every phrase reads some lexemes as values.
* `RecordQuery.Grammar.ReadValues.explicit` — with its bare values written out a phrase is one under
  the other preference.
* `RecordQuery.Tree.ofText_explicit` — the same for texts.
-/

namespace RecordQuery

open Grammar Lexeme

variable {s : Settings}

/-! ## Writing out -/

/-- Whether a token is a bare word or number. -/
def Token.isBare : Token → Bool
  | word _ | number _ => true
  | _ => false

namespace Delimited

/-- The token of a literal. -/
def token : Delimited → String → Token
  | pattern => .pattern
  | quoted => .quoted

/-- A lexeme between the marks of a literal, just as it is written. -/
def enclose (literal : Delimited) (l : Lexeme) : Lexeme where
  token := literal.token l.text
  column := l.column
  text := String.singleton literal.mark ++ l.text ++ String.singleton literal.mark

/-- The literal that bare values are short for. -/
def ofBare (s : Settings) : Delimited := if s.preferPatterns then pattern else quoted

end Delimited

/-- A lexeme, between the marks of a literal if it is a bare one of some values. -/
def Lexeme.explicit (literal : Delimited) (values : List Lexeme) (l : Lexeme) : Lexeme :=
  if l ∈ values ∧ l.token.isBare then literal.enclose l else l

/-- The settings with the other preference. -/
def Settings.otherPreference (s : Settings) : Settings :=
  { s with preferPatterns := !s.preferPatterns }

/-! ## Values of a phrase -/

namespace Grammar

/-- `ReadValues s part after w t values`: in front of `after` the lexemes `w` are a phrase with the
tree `t`, and `values` are those of its lexemes that are read as values. Keys, joints, dates and
numbers in comparisons are not. -/
inductive ReadValues (s : Settings) : Part → List Lexeme → List Lexeme → Tree → List Lexeme → Prop
  | group {after w values : List Lexeme} {t : Tree} {o c : Lexeme} (ho : o.token = .opening)
      (hw : ReadValues s .conjunction (c :: after) w t values) (hc : c.token = .closing) :
      ReadValues s .selection after (o :: (w ++ [c])) t values
  | date {after m : List Lexeme} {k d l : Lexeme} {negated : Bool} {key bound : String}
      {side : Side} (hm : Sign m negated) (hk : k.token = .word key) (hd : d.token = .colon)
      (hkey : Side.ofKey? key = some side) (hl : DateText l bound) :
      ReadValues s .selection after (m ++ [k, d, l]) (.date side negated bound) []
  | field {after m : List Lexeme} {k d l : Lexeme} {negated : Bool} {key : String} {v : Literal}
      (hm : Sign m negated) (hk : k.token = .word key) (hd : d.token = .colon)
      (hkey : Side.ofKey? key = none) (hl : IsValue s after l v) :
      ReadValues s .selection after (m ++ [k, d, l]) (.field key negated v) [l]
  | number {after m : List Lexeme} {k d l : Lexeme} {negated : Bool} {key : String}
      {c : Comparison} {x : Number} (hm : Sign m negated) (hk : k.token = .word key)
      (hd : d.token = .comparison c) (hl : l.token = .number x) :
      ReadValues s .selection after (m ++ [k, d, l]) (.number key c negated x) []
  | anyField {after : List Lexeme} {l : Lexeme} {v : Literal} (hl : IsValue s after l v) :
      ReadValues s .selection after [l] (.anyField v) [l]
  | single {after b w b' values : List Lexeme} {t : Tree} (hb : Blanks b)
      (hw : ReadValues s .selection (b' ++ after) w t values) (hb' : Blanks b') :
      ReadValues s .conjunction after (b ++ w ++ b') t values
  | joined {after b w b' b'' v values values' : List Lexeme} {l : Lexeme} {j : Joint} {t u : Tree}
      (hb : Blanks b) (hw : ReadValues s .selection (b' ++ l :: (b'' ++ v ++ after)) w t values)
      (hb' : Blanks b') (hl : IsJoint j l (b'' ++ v ++ after)) (hb'' : Blanks b'')
      (hv : ReadValues s .conjunction after v u values') :
      ReadValues s .conjunction after (b ++ w ++ b' ++ l :: (b'' ++ v)) (.joined j t u)
        (values ++ values')
  | beside {after b w b' v values values' : List Lexeme} {t u : Tree} (hb : Blanks b)
      (hw : ReadValues s .selection (b' ++ v ++ after) w t values) (hb' : Blanks b')
      (hnext : ¬JointNext (b' ++ v ++ after)) (hv : ReadValues s .conjunction after v u values') :
      ReadValues s .conjunction after (b ++ w ++ b' ++ v) (.joined .and t u) (values ++ values')

/-- The values of a whole query: the empty one has none. -/
inductive QueryValues (s : Settings) (w : List Lexeme) : Tree → List Lexeme → Prop
  | everything (hw : Blanks w) : QueryValues s w .everything []
  | conjunction {t : Tree} {values : List Lexeme} (hw : ReadValues s .conjunction [] w t values) :
      QueryValues s w t values

variable {part : Part} {after w values : List Lexeme} {t : Tree}

/-- A phrase with values is a phrase. -/
theorem ReadValues.phrase (h : ReadValues s part after w t values) : Phrase s part after w t := by
  induction h with
  | group ho _ hc ih => exact .group ho ih hc
  | date hm hk hd hkey hl => exact .date hm hk hd hkey hl
  | field hm hk hd hkey hl => exact .field hm hk hd hkey hl
  | number hm hk hd hl => exact .number hm hk hd hl
  | anyField hl => exact .anyField hl
  | single hb _ hb' ih => exact .single hb ih hb'
  | joined hb _ hb' hl hb'' _ ihw ihv => exact .joined hb ihw hb' hl hb'' ihv
  | beside hb _ hb' hnext _ ihw ihv => exact .beside hb ihw hb' hnext ihv

/-- **Every phrase reads some lexemes as values.** -/
theorem phrase_iff_exists_readValues :
    Phrase s part after w t ↔ ∃ values, ReadValues s part after w t values := by
  refine ⟨fun h => ?_, fun ⟨values, h⟩ => h.phrase⟩
  induction h with
  | group ho _ hc ih =>
    obtain ⟨values, hw⟩ := ih
    exact ⟨values, .group ho hw hc⟩
  | date hm hk hd hkey hl => exact ⟨[], .date hm hk hd hkey hl⟩
  | @field _ _ _ _ l _ _ _ hm hk hd hkey hl => exact ⟨[l], .field hm hk hd hkey hl⟩
  | number hm hk hd hl => exact ⟨[], .number hm hk hd hl⟩
  | @anyField _ l _ hl => exact ⟨[l], .anyField hl⟩
  | single hb _ hb' ih =>
    obtain ⟨values, hw⟩ := ih
    exact ⟨values, .single hb hw hb'⟩
  | joined hb _ hb' hl hb'' _ ihw ihv =>
    obtain ⟨values, hw⟩ := ihw
    obtain ⟨values', hv⟩ := ihv
    exact ⟨values ++ values', .joined hb hw hb' hl hb'' hv⟩
  | beside hb _ hb' hnext _ ihw ihv =>
    obtain ⟨values, hw⟩ := ihw
    obtain ⟨values', hv⟩ := ihv
    exact ⟨values ++ values', .beside hb hw hb' hnext hv⟩

/-- Every query reads some lexemes as values. -/
theorem derives_iff_exists_queryValues : Derives s w t ↔ ∃ values, QueryValues s w t values := by
  constructor
  · intro h
    cases h with
    | everything hw => exact ⟨[], .everything hw⟩
    | conjunction hw =>
      obtain ⟨values, hvalues⟩ := phrase_iff_exists_readValues.1 hw
      exact ⟨values, .conjunction hvalues⟩
  · rintro ⟨values, h⟩
    cases h with
    | everything hw => exact .everything hw
    | conjunction hw => exact .conjunction hw.phrase

/-- The values of a phrase are among its lexemes. -/
theorem ReadValues.subset (h : ReadValues s part after w t values) : values ⊆ w := by
  induction h with
  | group _ _ _ ih => exact fun l hl => by simp [ih hl]
  | date | number => exact List.nil_subset _
  | field | anyField => simp
  | single _ _ _ ih => exact fun l hl => by simp [ih hl]
  | joined _ _ _ _ _ _ ihw ihv =>
    intro l hl
    rcases List.mem_append.1 hl with hl | hl
    · simp [ihw hl]
    · simp [ihv hl]
  | beside _ _ _ _ _ ihw ihv =>
    intro l hl
    rcases List.mem_append.1 hl with hl | hl
    · simp [ihw hl]
    · simp [ihv hl]

end Grammar

/-! ## Single lexemes -/

namespace Lexeme

variable {literal : Delimited} {values : List Lexeme} {l : Lexeme}

/-- Only bare lexemes are written out. -/
theorem explicit_of_not_bare (h : l.token.isBare = false) : explicit literal values l = l := by
  simp [explicit, h]

/-- Only values are written out. -/
theorem explicit_of_not_mem (h : l ∉ values) : explicit literal values l = l := by
  simp [explicit, h]

/-- A lexeme stays as it is, or it is a bare one that is written out. -/
theorem explicit_eq_or (literal : Delimited) (values : List Lexeme) (l : Lexeme) :
    explicit literal values l = l ∨
      l.token.isBare = true ∧ explicit literal values l = literal.enclose l := by
  unfold explicit
  split
  · rename_i h
    exact .inr ⟨h.2, rfl⟩
  · exact .inl rfl

/-- Columns stay. -/
theorem explicit_column (literal : Delimited) (values : List Lexeme) (l : Lexeme) :
    (explicit literal values l).column = l.column := by
  rcases explicit_eq_or literal values l with h | ⟨-, h⟩ <;> rw [h]
  rfl

/-- Of two groups of distinct lexemes, each is written out for its own values. -/
theorem explicit_append (literal : Delimited) {w v values values' : List Lexeme}
    (h : (w ++ v).Nodup) (hvalues : values ⊆ w) (hvalues' : values' ⊆ v) :
    (∀ l ∈ w, explicit literal (values ++ values') l = explicit literal values l) ∧
      ∀ l ∈ v, explicit literal (values ++ values') l = explicit literal values' l := by
  have hdisjoint := List.disjoint_of_nodup_append h
  constructor
  · intro l hl
    have hnot : l ∉ values' := fun hmem => hdisjoint hl (hvalues' hmem)
    simp [explicit, hnot]
  · intro l hl
    have hnot : l ∉ values := fun hmem => hdisjoint (hvalues hmem) hl
    simp [explicit, hnot]

end Lexeme

/-! ## Phrases -/

namespace Grammar

/-- A bare word or number is no sign. -/
theorem not_signNext_of_isBare {l : Lexeme} (h : l.token.isBare = true) (rest : List Lexeme) :
    ¬SignNext (l :: rest) := by
  rw [signNext_cons]
  rintro (hl | ⟨c, hl⟩)
  · rw [hl] at h
    cases h
  · rw [hl] at h
    cases h

/-- A literal is no sign. -/
theorem not_signNext_enclose (literal : Delimited) (l : Lexeme) (rest : List Lexeme) :
    ¬SignNext (literal.enclose l :: rest) := by
  cases literal <;> simp [signNext_cons, Delimited.enclose, Delimited.token]

/-- Bare lexemes may be written out, and all others stay. -/
def WritesOut (literal : Delimited) (f : Lexeme → Lexeme) : Prop :=
  ∀ l, f l = l ∨ l.token.isBare = true ∧ f l = literal.enclose l

namespace WritesOut

variable {literal : Delimited} {f : Lexeme → Lexeme} (hf : WritesOut literal f)

include hf

/-- A lexeme that is not bare stays. -/
theorem eq_of_not_bare {l : Lexeme} (hl : l.token.isBare = false) : f l = l := by
  rcases hf l with h | ⟨hbare, -⟩
  · exact h
  · rw [hl] at hbare
    cases hbare

/-- Blanks stay. -/
theorem map_blanks {b : List Lexeme} (hb : Blanks b) : b.map f = b := by
  have heq : ∀ l ∈ b, f l = l := fun l hl => hf.eq_of_not_bare (by rw [hb l hl]; rfl)
  rw [List.map_congr_left heq, List.map_id']

/-- Signs stay, and nothing becomes one. -/
theorem signNext_cons_iff (l : Lexeme) (v v' : List Lexeme) :
    SignNext (l :: v) ↔ SignNext (f l :: v') := by
  rcases hf l with h | ⟨hbare, h⟩
  · rw [h, signNext_cons, signNext_cons]
  · rw [h]
    exact iff_of_false (not_signNext_of_isBare hbare v) (not_signNext_enclose literal l v')

/-- The same for what comes next behind some lexemes. -/
theorem signNext_append_iff {after after' : List Lexeme} (hafter : SignNext after ↔ SignNext after')
    (w : List Lexeme) : SignNext (w ++ after) ↔ SignNext (w.map f ++ after') := by
  cases w with
  | nil => exact hafter
  | cons l w => exact hf.signNext_cons_iff l _ _

/-- A joint stays one. -/
theorem isJoint {after after' : List Lexeme} (hafter : SignNext after ↔ SignNext after')
    {j : Joint} {l : Lexeme} {w : List Lexeme} (h : IsJoint j l (w ++ after)) :
    IsJoint j l (w.map f ++ after') :=
  ⟨h.1, fun hs => h.2 ((hf.signNext_append_iff hafter w).2 hs)⟩

/-- Nothing becomes a joint. -/
theorem not_jointNext {after after' : List Lexeme} (hafter : SignNext after ↔ SignNext after')
    {b w : List Lexeme} {l : Lexeme} (hb : Blanks b) (hl : l.token ≠ .blank)
    (h : ¬JointNext (b ++ l :: w ++ after)) :
    ¬JointNext ((b ++ l :: w).map f ++ after') := by
  rw [List.append_assoc, List.cons_append, jointNext_append hb, jointNext_cons hl] at h
  have hblank : (f l).token ≠ .blank := by
    rcases hf l with heq | ⟨-, heq⟩
    · rwa [heq]
    · rw [heq]
      cases literal <;> simp [Delimited.enclose, Delimited.token]
  rw [List.map_append, List.map_cons, hf.map_blanks hb, List.append_assoc, List.cons_append,
    jointNext_append hb, jointNext_cons hblank]
  rintro ⟨j, htoken, hnext⟩
  rcases hf l with heq | ⟨-, heq⟩
  · rw [heq] at htoken
    exact h ⟨j, htoken, fun hs => hnext ((hf.signNext_append_iff hafter w).1 hs)⟩
  · rw [heq] at htoken
    cases literal <;> cases htoken

end WritesOut

/-- A bare literal is the one that it is short for. -/
theorem Bare.enclose {l : Lexeme} {v : Literal} (h : Bare s l.text v) (after : List Lexeme) :
    IsValue s.otherPreference after ((Delimited.ofBare s).enclose l) v := by
  cases h with
  | text hs => exact .quoted (by simp [Delimited.ofBare, hs, Delimited.enclose, Delimited.token])
  | pattern hs hp =>
    exact .pattern (by simp [Delimited.ofBare, hs, Delimited.enclose, Delimited.token]) hp

/-- A value that is written out if it is bare is the same value under the other preference. -/
theorem IsValue.explicit {l : Lexeme} {v : Literal} {after values : List Lexeme}
    (h : IsValue s after l v) (hl : l ∈ values)
    (hword : ∀ w, l.token = .word w → l.text = w) (after' : List Lexeme) :
    IsValue s.otherPreference after' (explicit (.ofBare s) values l) v := by
  cases h with
  | word htoken _ hv =>
    obtain rfl := hword _ htoken
    rw [Lexeme.explicit, if_pos ⟨hl, by rw [htoken]; rfl⟩]
    exact hv.enclose after'
  | number htoken hv =>
    rw [Lexeme.explicit, if_pos ⟨hl, by rw [htoken]; rfl⟩]
    exact hv.enclose after'
  | quoted htoken =>
    rw [explicit_of_not_bare (by rw [htoken]; rfl)]
    exact .quoted htoken
  | pattern htoken hp =>
    rw [explicit_of_not_bare (by rw [htoken]; rfl)]
    exact .pattern htoken hp

/-- Some lexemes, which are distinct and in which words are written as they are, have the bare ones
of their values written out by `f`. -/
structure Fits (literal : Delimited) (f : Lexeme → Lexeme) (values w : List Lexeme) : Prop where
  eq_explicit : ∀ l ∈ w, f l = explicit literal values l
  nodup : w.Nodup
  text_eq : ∀ l ∈ w, ∀ x, l.token = .word x → l.text = x

/-- What is left without the lexemes in front and behind. -/
theorem sublist_between (b w b' : List Lexeme) : w.Sublist (b ++ w ++ b') :=
  (List.sublist_append_right b w).trans (List.sublist_append_left (b ++ w) b')

namespace Fits

variable {literal : Delimited} {f : Lexeme → Lexeme} {values values' w v big : List Lexeme}

/-- So do some of the lexemes. -/
theorem sublist (h : Fits literal f values big) (hw : w.Sublist big) : Fits literal f values w where
  eq_explicit l hl := h.eq_explicit l (hw.subset hl)
  nodup := h.nodup.sublist hw
  text_eq l hl := h.text_eq l (hw.subset hl)

/-- What is no value stays. -/
theorem eq_of_not_mem (h : Fits literal f values w) {l : Lexeme} (hl : l ∈ w)
    (hvalues : l ∉ values) : f l = l :=
  (h.eq_explicit l hl).trans (explicit_of_not_mem hvalues)

/-- Without values all lexemes stay. -/
theorem map_eq (h : Fits literal f [] w) : w.map f = w := by
  have hstay : ∀ l ∈ w, f l = l := fun l hl => h.eq_of_not_mem hl List.not_mem_nil
  rw [List.map_congr_left hstay, List.map_id']

/-- In each of two groups of the lexemes its own values are written out. -/
theorem split (h : Fits literal f (values ++ values') big) (hbig : (w ++ v).Sublist big)
    (hvalues : values ⊆ w) (hvalues' : values' ⊆ v) :
    Fits literal f values w ∧ Fits literal f values' v := by
  have hboth := h.sublist hbig
  have hw := hboth.sublist (List.sublist_append_left w v)
  have hv := hboth.sublist (List.sublist_append_right w v)
  obtain ⟨hleft, hright⟩ := explicit_append literal hboth.nodup hvalues hvalues'
  exact ⟨⟨fun l hl => (hw.eq_explicit l hl).trans (hleft l hl), hw.nodup, hw.text_eq⟩,
    ⟨fun l hl => (hv.eq_explicit l hl).trans (hright l hl), hv.nodup, hv.text_eq⟩⟩

end Fits

/-- **With its bare values written out a phrase is one under the other preference**, with the same
tree.

**Proof sketch.** Induction on the phrase. The lexemes of a phrase are distinct, so that those of
its parts are written out as they are in the whole. No lexeme becomes a sign or a joint, and those
that are stay. -/
theorem ReadValues.explicit {part : Part} {after after' w values : List Lexeme} {t : Tree}
    {f : Lexeme → Lexeme} (h : ReadValues s part after w t values)
    (hf : WritesOut (.ofBare s) f) (hw : Fits (.ofBare s) f values w)
    (hafter : SignNext after ↔ SignNext after') :
    Phrase s.otherPreference part after' (w.map f) t := by
  induction h generalizing after' with
  | @group after w values t o c ho _ hc ih =>
    have ho' : f o = o := hf.eq_of_not_bare (by rw [ho]; rfl)
    have hc' : f c = c := hf.eq_of_not_bare (by rw [hc]; rfl)
    have hclose : SignNext (c :: after) ↔ SignNext (c :: after') := by simp [signNext_cons, hc]
    have hinner := hw.sublist ((List.sublist_append_left w [c]).cons o)
    rw [List.map_cons, List.map_append, List.map_singleton, ho', hc']
    exact .group ho (ih hinner hclose) hc
  | date hm hk hd hkey hl =>
    rw [hw.map_eq]
    exact .date hm hk hd hkey hl
  | number hm hk hd hl =>
    rw [hw.map_eq]
    exact .number hm hk hd hl
  | @field after m k d l negated key v hm hk hd hkey hl =>
    -- the key is a bare word too, but only the last lexeme is a value
    have hsplit : m ++ [k, d, l] = m ++ [k, d] ++ [l] := by simp
    have hparts : Fits (.ofBare s) f ([] ++ [l]) (m ++ [k, d] ++ [l]) := by rwa [← hsplit]
    obtain ⟨hfront, hlast⟩ := hparts.split (List.Sublist.refl _) (List.nil_subset _)
      (List.Subset.refl _)
    rw [hsplit, List.map_append, hfront.map_eq, List.map_singleton, hlast.eq_explicit l (by simp),
      List.append_assoc]
    exact .field hm hk hd hkey (hl.explicit (by simp) (hlast.text_eq l (by simp)) after')
  | @anyField after l v hl =>
    rw [List.map_singleton, hw.eq_explicit l (by simp)]
    exact .anyField (hl.explicit (by simp) (hw.text_eq l (by simp)) after')
  | @single after b w b' values t hb _ hb' ih =>
    have hnext := hf.signNext_append_iff hafter b'
    rw [hf.map_blanks hb'] at hnext
    rw [List.map_append, List.map_append, hf.map_blanks hb, hf.map_blanks hb']
    exact .single hb (ih (hw.sublist (sublist_between b w b')) hnext) hb'
  | @joined after b w b' b'' v values values' l j t u hb hleft hb' hl hb'' hright ihw ihv =>
    have hfront := sublist_between b w b'
    have hback : v.Sublist (b'' ++ v) := List.sublist_append_right b'' v
    obtain ⟨hw', hv'⟩ := hw.split (hfront.append (hback.cons l)) hleft.subset hright.subset
    -- the joint is a bare word too, but it is no value
    have hdistinct : (w ++ l :: v).Nodup := hw.nodup.sublist (hfront.append (hback.cons_cons l))
    have hnot : l ∉ values ++ values' := by
      intro hmem
      rcases List.mem_append.1 hmem with hmem | hmem
      · exact List.disjoint_of_nodup_append hdistinct (hleft.subset hmem) List.mem_cons_self
      · exact hdistinct.of_append_right.notMem (hright.subset hmem)
    have hl' : f l = l := hw.eq_of_not_mem (by simp) hnot
    have hnext := hf.signNext_append_iff hafter (b' ++ l :: (b'' ++ v))
    have hjoint := hf.isJoint hafter hl
    simp only [List.map_append, List.map_cons, hf.map_blanks hb', hf.map_blanks hb'', hl',
      List.append_assoc, List.cons_append] at hnext hjoint
    simp only [List.append_assoc] at ihw
    simp only [List.map_append, List.map_cons, hf.map_blanks hb, hf.map_blanks hb',
      hf.map_blanks hb'', hl']
    exact .joined hb (by simpa using ihw hw' hnext) hb' (by simpa using hjoint) hb''
      (ihv hv' hafter)
  | @beside after b w b' v values values' t u hb hleft hb' hnext hright ihw ihv =>
    have hparts := (sublist_between b w b').append (List.Sublist.refl v)
    obtain ⟨hw', hv'⟩ := hw.split hparts hleft.subset hright.subset
    have hsign := hf.signNext_append_iff hafter (b' ++ v)
    have hjoint : ¬JointNext ((b' ++ v).map f ++ after') := by
      obtain ⟨b₀, l, v', rfl, hb₀, hl⟩ := hright.phrase.exists_blanks_head
      have hall : Blanks (b' ++ b₀) := List.forall_mem_append.2 ⟨hb', hb₀⟩
      rw [← List.append_assoc] at hnext ⊢
      exact hf.not_jointNext hafter hall hl hnext
    simp only [List.map_append, hf.map_blanks hb'] at hsign hjoint
    simp only [List.map_append, hf.map_blanks hb, hf.map_blanks hb']
    exact .beside hb (ihw hw' hsign) hb' hjoint (ihv hv' hafter)

end Grammar

/-! ## Texts -/

/-- Characters of words stand in quotes as they are. -/
theorem Lexeme.quote_of_isWordChar {cs : List Char} (h : ∀ c ∈ cs, isWordChar c = true) :
    quote cs = '"' :: (cs ++ ['"']) := by
  have hescape : ∀ c ∈ cs, escape c = [c] := by
    intro c hc
    have hne : c ≠ '"' := by
      rintro rfl
      exact absurd (h '"' hc) (by decide)
    simp [escape, hne]
  rw [quote, List.flatMap_congr hescape]
  simp

/-- A bare lexeme is written in characters of words. -/
theorem Lexeme.isWordChar_of_isBare {l : Lexeme} (hl : l.Formed)
    (hword : ∀ w, l.token = .word w → l.text = w) (hbare : l.token.isBare = true) :
    ∀ c ∈ l.text.toList, isWordChar c = true := by
  unfold Lexeme.Formed at hl
  cases htoken : l.token with
  | word w =>
    rw [htoken] at hl
    rw [hword w htoken]
    exact hl.chars
  | number x =>
    rw [htoken] at hl
    exact fun c hc => isWordChar_of_isDigit (hl.digits c hc)
  | blank | minus | pattern | quoted | comparison | colon | opening | closing =>
    rw [htoken] at hbare
    cases hbare

/-- Between marks, characters of words are a literal. -/
theorem Delimited.enclosed_enclose {l : Lexeme} (h : ∀ c ∈ l.text.toList, isWordChar c = true)
    (literal : Delimited) : (literal.enclose l).Enclosed := by
  have hhead : (literal.enclose l).text.toList =
      literal.mark :: (l.text.toList ++ [literal.mark]) := by
    simp [enclose]
  refine ⟨?_, ⟨literal, by rw [hhead]; rfl⟩, fun x => by cases literal <;> rfl⟩
  rw [hhead]
  cases literal with
  | pattern =>
    have hslash : '/' ∉ l.text.toList := fun hmem => (ne_of_isWordChar (h _ hmem)).2 rfl
    simpa [enclose, token, mark] using spells_pattern hslash
  | quoted =>
    have hlast : l.text.toList.getLast? ≠ some '\\' := fun hslash =>
      (ne_of_isWordChar (h _ (List.mem_of_getLast? hslash))).1 rfl
    have hspells := spells_quote hlast
    rw [quote_of_isWordChar h] at hspells
    simpa [enclose, token, mark] using hspells

namespace Tree

/-- A predicate depends on how cases are told apart and on the field for dates. -/
theorem predicate_congr {s s' : Settings} (hcase : s.caseSensitive = s'.caseSensitive)
    (hdate : s.dateKey = s'.dateKey) (t : Tree) : t.predicate s = t.predicate s' := by
  have hmatcher : Matcher.ofLiteral s = Matcher.ofLiteral s' := by
    funext v
    cases v <;> simp [Matcher.ofLiteral, hcase]
  induction t with
  | everything | number => rfl
  | joined j left right ihl ihr => cases j <;> simp [predicate, ihl, ihr]
  | field | anyField => simp [predicate, hmatcher]
  | date => simp [predicate, datePredicate, hdate]

/-- **Bare values are short for literals.** A text that is a query has lexemes that are read as
values. With the bare ones among them written out, as patterns if the settings prefer patterns and
else in quotes, it is a query under the other preference too, with an equal tree and the same
predicate.

**Proof sketch.** The lexemes with their bare values written out derive the same tree under the
other preference (`ReadValues.explicit`), and they are the lexemes of the respelled text
(`Tree.ofText_respell`). Predicates do not depend on the preference (`predicate_congr`). -/
theorem ofText_explicit {query : String} {t : Tree} (h : ofText s query = .ok t) :
    ∃ lexemes, Lexeme.ofText query = .ok lexemes ∧ (∃ values, QueryValues s lexemes t values) ∧
      ∀ values, QueryValues s lexemes t values →
        ofText s.otherPreference (respell (explicit (.ofBare s) values) query lexemes) = .ok t ∧
          t.same t = true ∧ t.predicate s.otherPreference = t.predicate s := by
  obtain ⟨lexemes, hlexemes, hderives⟩ := Parser.ofText_eq_ok_iff.1 h
  refine ⟨lexemes, hlexemes, derives_iff_exists_queryValues.1 hderives, fun values hvalues => ?_⟩
  have hpredicate : t.predicate s.otherPreference = t.predicate s :=
    predicate_congr (by rfl) (by rfl) t
  refine ⟨?_, same_self_of_ofText h, hpredicate⟩
  have hword : ∀ l ∈ lexemes, ∀ w, l.token = .word w → l.text = w := by
    intro l hl w hw
    have hspells := spells_of_mem hlexemes hl
    rw [hw] at hspells
    exact String.toList_injective hspells.eq_of_word
  refine Tree.ofText_respell hlexemes (fun l hl => ?_) (explicit_column _ values) ?_
  · rcases explicit_eq_or (.ofBare s) values l with heq | ⟨hbare, heq⟩
    · exact .inl heq
    · rw [heq]
      have hformed := formed_of_mem hlexemes l hl
      exact .inr (Delimited.enclosed_enclose (isWordChar_of_isBare hformed (hword l hl) hbare) _)
  · have hwrites : WritesOut (.ofBare s) (explicit (.ofBare s) values) := explicit_eq_or _ values
    cases hvalues with
    | everything hw =>
      rw [hwrites.map_blanks hw]
      exact .everything hw
    | conjunction hw =>
      have hfits : Fits (.ofBare s) (explicit (.ofBare s) values) values lexemes :=
        ⟨fun l _ => rfl, nodup_of_ofText hlexemes, hword⟩
      exact .conjunction (hw.explicit hwrites hfits Iff.rfl)

/-- The same word is a value, a key, the value of that key and a date. -/
theorem ofText_explicit_and :
    let blank (column : Nat) : Lexeme := ⟨.blank, column, " "⟩
    let and (column : Nat) : Lexeme := ⟨.word "AND", column, "AND"⟩
    let lexemes : List Lexeme := [and 0, blank 3, and 4, ⟨.colon, 7, ":"⟩, and 8, blank 11,
      ⟨.word "before", 12, "before"⟩, ⟨.colon, 18, ":"⟩, and 19]
    let tree : Tree := .joined .and (.anyField (.text "AND"))
      (.joined .and (.field "AND" false (.text "AND")) (.date .before false "AND"))
    ofText {} "AND AND:AND before:AND" = .ok tree ∧
      Lexeme.ofText "AND AND:AND before:AND" = .ok lexemes ∧
      QueryValues {} lexemes tree [and 0, and 8] ∧
      ofText { preferPatterns := true } "\"AND\" AND:\"AND\" before:AND" = .ok tree := by
  intro blank and lexemes tree
  have hlexemes : Lexeme.ofText "AND AND:AND before:AND" = .ok lexemes := by cbv
  have htree : ofText {} "AND AND:AND before:AND" = .ok tree := by cbv
  have hblank (column : Nat) : Blanks [blank column] := by simp [Blanks, blank]
  have hvalue (column : Nat) (after : List Lexeme) (h : ¬SignNext after) :
      IsValue {} after (and column) (.text "AND") := .word rfl h (.text rfl)
  -- a key behind a blank is no joint
  have hkey (column : Nat) (k d : Lexeme) (rest : List Lexeme) (hk : k.token ≠ .blank)
      (hd : d.token = .colon) : ¬JointNext (blank column :: k :: d :: rest) := by
    rw [jointNext_cons_blank rfl, jointNext_cons hk]
    rintro ⟨j, -, hnext⟩
    exact hnext (signNext_cons.2 (.inl hd))
  have hdate : ReadValues {} .conjunction []
      ([] ++ [⟨.word "before", 12, "before"⟩, ⟨.colon, 18, ":"⟩, and 19] ++ [])
      (.date .before false "AND") [] :=
    .single blanks_nil (.date (m := []) .plain rfl rfl rfl (.word rfl)) blanks_nil
  have hfield : ReadValues {} .conjunction []
      ([] ++ [and 4, ⟨.colon, 7, ":"⟩, and 8] ++ [blank 11] ++ _)
      (.joined .and (.field "AND" false (.text "AND")) (.date .before false "AND"))
      ([and 8] ++ []) :=
    .beside blanks_nil
      (.field (m := []) .plain rfl rfl rfl (hvalue 8 _ (by simp [signNext_cons, blank])))
      (hblank 11) (hkey 11 _ _ _ (by simp) rfl) hdate
  have hvalues : ReadValues {} .conjunction [] ([] ++ [and 0] ++ [blank 3] ++ _) tree
      ([and 0] ++ ([and 8] ++ [])) :=
    .beside blanks_nil (.anyField (hvalue 0 _ (by simp [signNext_cons, blank]))) (hblank 3)
      (hkey 3 _ _ _ (by simp [and]) rfl) hfield
  have hquery : QueryValues {} lexemes tree [and 0, and 8] := .conjunction hvalues
  refine ⟨htree, hlexemes, hquery, ?_⟩
  obtain ⟨w, hw, -, hall⟩ := ofText_explicit htree
  obtain rfl : lexemes = w := Except.ok.inj (hlexemes.symm.trans hw)
  have hother := (hall _ hquery).1
  have htext : respell (explicit (.ofBare {}) [and 0, and 8]) "AND AND:AND before:AND" lexemes =
      "\"AND\" AND:\"AND\" before:AND" := by cbv
  rwa [htext] at hother

end Tree

end RecordQuery
