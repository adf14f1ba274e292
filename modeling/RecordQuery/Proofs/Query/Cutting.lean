import Mathlib.Data.List.TakeWhile
import Mathlib.Tactic.NthRewrite
import RecordQuery.Proofs.Except
import RecordQuery.Query.Lexeme

set_option autoImplicit false

/-!
# Cutting texts into lexemes

The ways in which a piece is cut off a text, each with what it takes, and what follows for whole
texts: a text is cut in the same way wherever it starts, and in the same way in front of more text,
unless that text would have made its last lexeme longer.

## Main definitions

* `RecordQuery.Piece.Inside` — what stands inside quotes.
* `RecordQuery.Piece.Cut` — the ways in which a piece is cut off.
* `RecordQuery.Token.extendedBy` — whether a character would have made a lexeme longer.
* `RecordQuery.Lexeme.Closed` — lexemes that a following text does not make longer.

## Main results

* `RecordQuery.Piece.first_eq_ok_iff` — the first piece is cut off in one of these ways.
* `RecordQuery.Lexeme.ofTextFrom_add` — columns count from where the text starts.
* `RecordQuery.Lexeme.ofTextFrom_append` — the lexemes of a text and of the text behind it.
-/

namespace RecordQuery

/-- Whether a character that comes right behind a lexeme would have become part of it. -/
def Token.extendedBy : Token → Char → Bool
  | blank, c => c = ' '
  | number _, c | word _, c => isWordChar c
  | comparison .less, c | comparison .greater, c => c = '='
  | _, _ => false

namespace Piece

/-! ## Quoted texts -/

/-- An escaped quote. -/
theorem unquote?_escape (cs : List Char) :
    unquote? ('\\' :: '"' :: cs) =
      (unquote? cs).map fun r => ('"' :: r.1, '\\' :: '"' :: r.2.1, r.2.2) := by
  simp [unquote?]

/-- The closing quote. -/
theorem unquote?_close (cs : List Char) : unquote? ('"' :: cs) = some ([], ['"'], cs) := by
  simp [unquote?]

/-- Any other character, a backslash included that escapes nothing. -/
theorem unquote?_cons {c : Char} {cs : List Char} (hc : c ≠ '"')
    (hescape : c = '\\' → cs.head? ≠ some '"') :
    unquote? (c :: cs) = (unquote? cs).map fun r => (c :: r.1, c :: r.2.1, r.2.2) := by
  rw [unquote?]
  · simp [hc]
  · rintro cs' rfl rfl
    exact hescape rfl rfl

/-- Behind a backslash that escapes nothing there is no quote. -/
theorem head?_ne_of_not_escape {c : Char} {cs : List Char}
    (h : ∀ cs', c = '\\' → cs = '"' :: cs' → False) (hc : c = '\\') : cs.head? ≠ some '"' := by
  cases cs with
  | nil => simp
  | cons d cs =>
    intro hd
    obtain rfl : d = '"' := by simpa using hd
    exact h cs hc rfl

/-- What stands inside quotes, and how it is written up to and with the closing quote. -/
inductive Inside : List Char → List Char → Prop
  | close : Inside [] ['"']
  | escape {s text : List Char} (h : Inside s text) : Inside ('"' :: s) ('\\' :: '"' :: text)
  | other {c : Char} {s text : List Char} (hc : c ≠ '"')
      (hescape : c = '\\' → text.head? ≠ some '"') (h : Inside s text) :
      Inside (c :: s) (c :: text)

/-- **What is read inside quotes** is what stands there. -/
theorem unquote?_eq_some_iff {cs s text rest : List Char} :
    unquote? cs = some (s, text, rest) ↔ Inside s text ∧ cs = text ++ rest := by
  constructor
  · intro h
    refine ⟨?_, (unquote?_eq h).symm⟩
    fun_induction unquote? cs generalizing s text rest with
    | case1 => cases h
    | case2 cs ih =>
      obtain ⟨⟨s', text', rest'⟩, h', heq⟩ := Option.map_eq_some_iff.1 h
      cases heq
      exact .escape (ih h')
    | case3 cs _ =>
      cases h
      exact .close
    | case4 c cs hescape hc ih =>
      obtain ⟨⟨s', text', rest'⟩, h', heq⟩ := Option.map_eq_some_iff.1 h
      cases heq
      refine .other hc (fun hslash hquote => ?_) (ih h')
      refine head?_ne_of_not_escape hescape hslash ?_
      rw [← unquote?_eq h']
      cases text' with
      | nil => cases hquote
      | cons d text' => exact hquote
  · rintro ⟨h, rfl⟩
    induction h with
    | close => exact unquote?_close rest
    | escape _ ih => simp [unquote?_escape, ih]
    | @other c s text hc hescape h ih =>
      have hescape' : c = '\\' → (text ++ rest).head? ≠ some '"' := fun hslash => by
        have hne := hescape hslash
        cases h with
        | close => exact absurd rfl hne
        | escape => simp
        | other hd => simpa using hd
      rw [List.cons_append, unquote?_cons hc hescape', ih]
      rfl

/-- A quoted text ends where it did if more text follows. -/
theorem unquote?_append {cs s text rest : List Char} (h : unquote? cs = some (s, text, rest))
    (b : List Char) : unquote? (cs ++ b) = some (s, text, rest ++ b) := by
  obtain ⟨hinside, rfl⟩ := unquote?_eq_some_iff.1 h
  exact unquote?_eq_some_iff.2 ⟨hinside, List.append_assoc text rest b⟩

/-! ## The ways in which a piece is cut off -/

/-- A character that starts no lexeme. -/
def Ignored (c : Char) : Prop :=
  c ∉ [' ', '-', '<', '>', ':', '(', ')', '/', '"'] ∧ isWordChar c = false

/-- The ways in which a piece is cut off. -/
inductive Cut : Char → List Char → Piece → Prop
  | blank (cs : List Char) : Cut ' ' cs (run (· = ' ') (fun _ => .blank) ' ' cs)
  | mark {c : Char} {t : Token} (cs : List Char)
      (h : (c, t) ∈ [('-', Token.minus), (':', .colon), ('(', .opening), (')', .closing)]) :
      Cut c cs (one (some t) c cs)
  | comparison {c : Char} {bare extended : Comparison} (cs : List Char)
      (h : (c, bare, extended) ∈
        [('<', Comparison.less, Comparison.atMost), ('>', .greater, .atLeast)]) :
      Cut c cs (comparison bare extended c cs)
  | pattern {source : List Char} (rest : List Char) (h : '/' ∉ source) :
      Cut '/' (source ++ '/' :: rest)
        ⟨some (.pattern (String.ofList source)), '/' :: source ++ ['/'], rest⟩
  | quoted {cs s text rest : List Char} (h : unquote? cs = some (s, text, rest)) :
      Cut '"' cs ⟨some (.quoted (String.ofList s)), '"' :: text, rest⟩
  | word {c : Char} (cs : List Char) (h : isWordChar c = true) (hc : c ≠ '-') :
      Cut c cs (run isWordChar wordToken c cs)
  | ignored {c : Char} (cs : List Char) (h : Ignored c) : Cut c cs (one none c cs)

/-- The first piece is cut off in one of the ways. -/
theorem cut_of_first {c : Char} {cs : List Char} {p : Piece} (h : first c cs = .ok p) :
    Cut c cs p := by
  unfold first at h
  split at h
  · rename_i hc; subst hc; cases h; exact .blank cs
  split at h
  · rename_i hc; subst hc; cases h; exact .mark cs (by simp)
  split at h
  · rename_i hc; subst hc; cases h; exact .comparison cs (by simp)
  split at h
  · rename_i hc; subst hc; cases h; exact .comparison cs (by simp)
  split at h
  · rename_i hc; subst hc; cases h; exact .mark cs (by simp)
  split at h
  · rename_i hc; subst hc; cases h; exact .mark cs (by simp)
  split at h
  · rename_i hc; subst hc; cases h; exact .mark cs (by simp)
  split at h
  · rename_i hc
    subst hc
    split at h
    · cases h
    · rename_i d rest hd
      cases h
      have hcs := List.takeWhile_append_dropWhile (p := fun x => decide (x ≠ '/')) (l := cs)
      have hslash : d = '/' := by
        have := List.head?_dropWhile_not (fun x => decide (x ≠ '/')) cs
        rw [hd] at this
        simpa using this
      subst hslash
      rw [hd] at hcs
      have hsource : '/' ∉ cs.takeWhile (· ≠ '/') := fun hmem => by
        simpa using List.mem_takeWhile_imp hmem
      nth_rewrite 1 [← hcs]
      exact .pattern rest hsource
  split at h
  · rename_i hc
    subst hc
    split at h
    · cases h
    · rename_i hquoted
      cases h
      exact .quoted hquoted
  split at h
  · rename_i hword
    cases h
    exact .word cs hword ‹_›
  · cases h
    exact .ignored cs (by simp_all [Ignored])

/-- What can be cut off in one of the ways is the first piece. -/
theorem first_of_cut {c : Char} {cs : List Char} {p : Piece} (h : Cut c cs p) :
    first c cs = .ok p := by
  cases h with
  | blank => simp [first]
  | mark _ h =>
    simp only [List.mem_cons, Prod.mk.injEq, List.not_mem_nil, or_false] at h
    rcases h with ⟨rfl, rfl⟩ | ⟨rfl, rfl⟩ | ⟨rfl, rfl⟩ | ⟨rfl, rfl⟩ <;> simp [first]
  | comparison _ h =>
    simp only [List.mem_cons, Prod.mk.injEq, List.not_mem_nil, or_false] at h
    rcases h with ⟨rfl, rfl, rfl⟩ | ⟨rfl, rfl, rfl⟩ <;> simp [first]
  | @pattern source rest h =>
    have hall : ∀ x ∈ source, decide (x ≠ '/') = true := fun x hx => by
      simpa using fun heq : x = '/' => h (heq ▸ hx)
    have htake : (source ++ '/' :: rest).takeWhile (fun x => decide (x ≠ '/')) = source := by
      rw [List.takeWhile_append_of_pos hall]
      simp
    have hdrop : (source ++ '/' :: rest).dropWhile (fun x => decide (x ≠ '/')) = '/' :: rest := by
      rw [List.dropWhile_append_of_pos hall]
      simp
    simp only [first, Char.reduceEq, if_false, if_true, htake, hdrop]
  | quoted h => simp [first, h]
  | word cs h hc =>
    have hne : ∀ x, isWordChar x = false → c ≠ x := by
      rintro x hx rfl
      rw [h] at hx
      cases hx
    simp [first, h, hc, hne ' ' (by decide), hne '<' (by decide), hne '>' (by decide),
      hne ':' (by decide), hne '(' (by decide), hne ')' (by decide), hne '/' (by decide),
      hne '"' (by decide)]
  | ignored cs h =>
    obtain ⟨hmem, hword⟩ := h
    simp only [List.mem_cons, List.not_mem_nil, or_false, not_or] at hmem
    simp [first, hmem, hword]

/-- **The first piece is what one of the ways cuts off.** -/
theorem first_eq_ok_iff {c : Char} {cs : List Char} {p : Piece} :
    first c cs = .ok p ↔ Cut c cs p :=
  ⟨cut_of_first, first_of_cut⟩

/-! ## Pieces in front of more text -/

/-- The same piece with more text behind it. -/
def followedBy (p : Piece) (b : List Char) : Piece := { p with rest := p.rest ++ b }

/-- Whether a character right behind a piece would have become part of it. -/
def extendedBy (p : Piece) (c : Char) : Bool := p.token.any (·.extendedBy c)

/-- A run of characters ends where it did if something else follows. -/
theorem takeWhile_append {p : Char → Bool} {cs b : List Char}
    (h : cs.dropWhile p ≠ [] ∨ ∀ x ∈ b.head?, p x = false) :
    (cs ++ b).takeWhile p = cs.takeWhile p ∧ (cs ++ b).dropWhile p = cs.dropWhile p ++ b := by
  induction cs with
  | nil =>
    cases b with
    | nil => simp
    | cons x b =>
      have hx : p x = false := by simpa using h
      simp [hx]
  | cons c cs ih =>
    by_cases hc : p c
    · simp only [List.dropWhile_cons, hc, if_true] at h
      simp [hc, ih h]
    · simp [hc]

/-- A run stays as it is if something else follows. -/
theorem run_append {p : Char → Bool} {token : List Char → Token} {c : Char} {cs b : List Char}
    (h : (run p token c cs).rest ≠ [] ∨ ∀ x ∈ b.head?, p x = false) :
    run p token c (cs ++ b) = (run p token c cs).followedBy b := by
  obtain ⟨htake, hdrop⟩ := takeWhile_append h
  simp only [run, followedBy, htake, hdrop]

/-- A comparison sign stays as it is if no equals sign follows. -/
theorem comparison_append {bare extended : Comparison} {c : Char} {cs b : List Char}
    (h : cs ≠ [] ∨ b.head? ≠ some '=') :
    comparison bare extended c (cs ++ b) = (comparison bare extended c cs).followedBy b := by
  cases cs with
  | cons d cs =>
    by_cases hd : d = '='
    · subst hd
      rfl
    · simp [comparison, followedBy, hd]
  | nil =>
    cases b with
    | nil => rfl
    | cons x b =>
      have hx : x ≠ '=' := by simpa using h
      simp [comparison, followedBy, hx]

/-- A word or number is extended by the characters of words. -/
theorem extendedBy_word (c : Char) (cs : List Char) (x : Char) :
    (run isWordChar wordToken c cs).extendedBy x = isWordChar x := by
  simp only [run, extendedBy, wordToken]
  split <;> simp [Token.extendedBy]

/-- **A piece stays as it is** in front of more text, unless it goes up to the end and is extended
by what follows. -/
theorem first_append {c : Char} {cs b : List Char} {p : Piece} (h : first c cs = .ok p)
    (hb : p.rest ≠ [] ∨ ∀ x ∈ b.head?, p.extendedBy x = false) :
    first c (cs ++ b) = .ok (p.followedBy b) := by
  rw [first_eq_ok_iff] at h ⊢
  cases h with
  | blank =>
    rw [← run_append hb]
    exact .blank _
  | mark _ h => exact .mark (cs ++ b) h
  | @comparison _ bare extended _ h =>
    rw [← comparison_append]
    · exact .comparison (cs ++ b) h
    cases cs with
    | cons d cs => exact .inl (by simp)
    | nil =>
      refine .inr fun heq => ?_
      have hext := hb.resolve_left (fun hrest => hrest rfl) '=' heq
      simp only [List.mem_cons, Prod.mk.injEq, List.not_mem_nil, or_false] at h
      rcases h with ⟨-, rfl, -⟩ | ⟨-, rfl, -⟩ <;> cases hext
  | pattern rest h => simpa [followedBy] using Cut.pattern (rest ++ b) h
  | quoted hquoted => exact .quoted (unquote?_append hquoted b)
  | word _ h hc =>
    rw [← run_append (by simpa only [extendedBy_word] using hb)]
    exact .word _ h hc
  | ignored _ h => exact .ignored (cs ++ b) h

/-! ## One piece after the other -/

/-- The lexeme that a piece behind `column` characters is, if it is one. -/
def lexemes (p : Piece) (column : Nat) : List Lexeme :=
  match p.token with
  | some t => [⟨t, column, String.ofList p.text⟩]
  | none => []

/-- Induction on a text, one piece at a time. -/
theorem induction_on {motive : List Char → Prop} (nil : motive [])
    (piece : ∀ c cs p, first c cs = .ok p → motive p.rest → motive (c :: cs))
    (unclosed : ∀ c cs literal, first c cs = .error literal → motive (c :: cs)) (cs : List Char) :
    motive cs := by
  induction hn : cs.length using Nat.strong_induction_on generalizing cs with
  | _ n ih =>
  subst hn
  cases cs with
  | nil => exact nil
  | cons c cs =>
    cases h : first c cs with
    | error literal => exact unclosed c cs literal h
    | ok p => exact piece c cs p h (ih _ (length_rest h) p.rest rfl)

end Piece

namespace Lexeme

/-- An empty text has no lexemes. -/
theorem ofTextFrom_nil (column : Nat) : ofTextFrom column [] = .ok [] := by
  rw [ofTextFrom]

/-- A literal that is never closed ends the cutting. -/
theorem ofTextFrom_error {c : Char} {cs : List Char} {literal : Delimited}
    (h : Piece.first c cs = .error literal) (column : Nat) :
    ofTextFrom column (c :: cs) = .error ⟨literal, column⟩ := by
  rw [ofTextFrom]
  split
  · rename_i h'
    rw [h] at h'
    cases h'
    rfl
  · rename_i h'
    rw [h] at h'
    cases h'

/-- The lexemes of a text are that of its first piece and those behind it. -/
theorem ofTextFrom_cons {c : Char} {cs : List Char} {p : Piece} (h : Piece.first c cs = .ok p)
    (column : Nat) :
    ofTextFrom column (c :: cs) =
      (ofTextFrom (column + p.text.length) p.rest).map (p.lexemes column ++ ·) := by
  rw [ofTextFrom]
  split
  · rename_i h'
    rw [h] at h'
    cases h'
  · rename_i h'
    rw [h] at h'
    cases h'
    cases ofTextFrom (column + p.text.length) p.rest with
    | error u => rfl
    | ok lexemes =>
      simp only [Except.map, Piece.lexemes]
      cases p.token <;> rfl

/-- Where the lexemes of a text come from. -/
theorem ofTextFrom_cons_eq_ok_iff {c : Char} {cs : List Char} {p : Piece}
    (h : Piece.first c cs = .ok p) {column : Nat} {lexemes : List Lexeme} :
    ofTextFrom column (c :: cs) = .ok lexemes ↔
      ∃ behind, ofTextFrom (column + p.text.length) p.rest = .ok behind ∧
        p.lexemes column ++ behind = lexemes := by
  rw [ofTextFrom_cons h, Except.map_eq_ok_iff]

/-- The same lexeme behind `n` more characters. -/
def shift (n : Nat) (l : Lexeme) : Lexeme := { l with column := l.column + n }

/-- **A text is cut in the same way wherever it starts**, with columns that count from there. -/
theorem ofTextFrom_add (column n : Nat) (cs : List Char) :
    ofTextFrom (column + n) cs =
      ((ofTextFrom column cs).map (·.map (shift n))).mapError fun u =>
        { u with column := u.column + n } := by
  induction cs using Piece.induction_on generalizing column with
  | nil => simp [ofTextFrom_nil, Except.map, Except.mapError]
  | unclosed c cs literal h => simp [ofTextFrom_error h, Except.map, Except.mapError]
  | piece c cs p h ih =>
    have hp : p.lexemes (column + n) = (p.lexemes column).map (shift n) := by
      unfold Piece.lexemes
      cases p.token <;> rfl
    rw [ofTextFrom_cons h, ofTextFrom_cons h, Nat.add_right_comm, ih, hp]
    cases ofTextFrom (column + p.text.length) p.rest <;> simp [Except.map, Except.mapError]

/-- No lexeme that ends behind `stop` characters is extended by the text that follows there. -/
def Closed (lexemes : List Lexeme) (stop : Nat) (b : List Char) : Prop :=
  ∀ l ∈ lexemes, l.column + l.text.length = stop → ∀ x ∈ b.head?, l.token.extendedBy x = false

/-- **A text is cut in the same way in front of more text** that does not extend its last lexeme.

**Proof sketch.** Induction on the text, one piece at a time. A piece that does not go up to the end
of the text stays as it is anyway, and one that does is a lexeme that ends there. -/
theorem ofTextFrom_append {column : Nat} {a b : List Char} {lexemes : List Lexeme}
    (h : ofTextFrom column a = .ok lexemes) (hb : Closed lexemes (column + a.length) b) :
    ofTextFrom column (a ++ b) = (ofTextFrom (column + a.length) b).map (lexemes ++ ·) := by
  induction a using Piece.induction_on generalizing column lexemes with
  | nil =>
    rw [ofTextFrom_nil] at h
    cases h
    cases hb : ofTextFrom column b <;> simp [Except.map, hb]
  | unclosed c cs literal hc => rw [ofTextFrom_error hc] at h; cases h
  | piece c cs p hp ih =>
    obtain ⟨behind, hrest, rfl⟩ := (ofTextFrom_cons_eq_ok_iff hp).1 h
    have hlength : column + (c :: cs).length = column + p.text.length + p.rest.length := by
      rw [← Piece.text_append_rest hp, List.length_append]
      omega
    rw [hlength] at hb ⊢
    have hfirst : Piece.first c (cs ++ b) = .ok (p.followedBy b) := by
      apply Piece.first_append hp
      by_cases hnil : p.rest = []
      · refine .inr fun x hx => ?_
        unfold Piece.extendedBy
        cases ht : p.token with
        | none => rfl
        | some t =>
          refine hb ⟨t, column, String.ofList p.text⟩ ?_ ?_ x hx
          · simp [Piece.lexemes, ht]
          · simp [hnil]
      · exact .inl hnil
    have hbehind := ih hrest fun l hl => hb l (List.mem_append_right _ hl)
    rw [List.cons_append, ofTextFrom_cons hfirst]
    simp only [Piece.followedBy] at hbehind ⊢
    rw [hbehind]
    cases ofTextFrom (column + p.text.length + p.rest.length) b <;>
      simp [Except.map, Piece.lexemes]

end Lexeme

end RecordQuery
