import RecordQuery.Proofs.Query.Spelling

set_option autoImplicit false

/-!
# Tilings of queries

The lexemes of a query and the characters that are passed over lie side by side like tiles: they
leave no gap, none lies over another, and each lexeme is as long as it can be where it lies. These
facts alone already say what the lexemes of a query are.

## Main definitions

* `RecordQuery.Tile` — a lexeme or a character that is passed over.
* `RecordQuery.Tiling` — tiles that are what a query is cut into.
* `RecordQuery.Lexeme.Boundary` — a place where one part of a text ends and another begins.

## Main results

* `RecordQuery.Tile.Laid.ofTextFrom` — tiles that are laid side by side are cut apart again.
* `RecordQuery.Lexeme.exists_split` — a lexeme divides its text into what is in front of it and what
  is behind it.
* `RecordQuery.Tiling.ofText_eq_ok_iff_exists` — a query has the lexemes of its tilings, which meet
  at boundaries and in ascending columns.
-/

namespace RecordQuery

open Lexeme

/-! ## Tiles -/

/-- A lexeme, or a character that is passed over. -/
inductive Tile where
  | lexeme (l : Lexeme)
  | ignored (c : Char)

namespace Tile

/-- The characters of a tile. -/
def text : Tile → List Char
  | lexeme l => l.text.toList
  | ignored c => [c]

/-- The lexeme that a tile is, if it is one. -/
def lexeme? : Tile → Option Lexeme
  | lexeme l => some l
  | ignored _ => none

/-- The characters of some tiles, side by side. -/
def textOf (tiles : List Tile) : List Char := tiles.flatMap text

/-- The lexemes among some tiles. -/
def lexemesOf (tiles : List Tile) : List Lexeme := tiles.filterMap lexeme?

@[simp]
theorem textOf_nil : textOf [] = [] := rfl

@[simp]
theorem textOf_cons (tile : Tile) (tiles : List Tile) :
    textOf (tile :: tiles) = tile.text ++ textOf tiles := rfl

@[simp]
theorem textOf_append (before after : List Tile) :
    textOf (before ++ after) = textOf before ++ textOf after := by simp [textOf]

@[simp]
theorem lexemesOf_nil : lexemesOf [] = [] := rfl

@[simp]
theorem lexemesOf_lexeme (l : Lexeme) (tiles : List Tile) :
    lexemesOf (lexeme l :: tiles) = l :: lexemesOf tiles := rfl

@[simp]
theorem lexemesOf_ignored (c : Char) (tiles : List Tile) :
    lexemesOf (ignored c :: tiles) = lexemesOf tiles := rfl

/-- A lexeme among some tiles lies somewhere between the others. -/
theorem exists_split_of_mem_lexemesOf {tiles : List Tile} {l : Lexeme} (h : l ∈ lexemesOf tiles) :
    ∃ before after, tiles = before ++ lexeme l :: after := by
  obtain ⟨tile, hmem, htile⟩ := List.mem_filterMap.1 h
  cases tile with
  | lexeme k =>
    cases htile
    exact List.append_of_mem hmem
  | ignored c => cases htile

/-! ## Tiles side by side -/

/-- Tiles are laid from a column on: each lexeme counts the characters in front of it, spells its
token and is not extended by what follows it. -/
def Laid (column : Nat) : List Tile → Prop
  | [] => True
  | lexeme l :: tiles => l.column = column ∧ Spells l.text.toList l.token ∧
      (∀ x ∈ (textOf tiles).head?, l.token.extendedBy x = false) ∧
        Laid (column + l.text.length) tiles
  | ignored c :: tiles => Piece.Ignored c ∧ Laid (column + 1) tiles

/-- Of tiles laid in two groups, the first group is laid without the second. -/
theorem Laid.left {column : Nat} {before after : List Tile} (h : Laid column (before ++ after)) :
    Laid column before := by
  induction before generalizing column with
  | nil => trivial
  | cons tile before ih =>
    cases tile with
    | ignored c => exact ⟨h.1, ih h.2⟩
    | lexeme l =>
      obtain ⟨hcolumn, hspells, hmaximal, hrest⟩ := h
      refine ⟨hcolumn, hspells, fun x hx => hmaximal x ?_, ih hrest⟩
      rw [List.append_eq, textOf_append, List.head?_append, hx]
      rfl

/-- Of tiles laid in two groups, the second group is laid behind the first. -/
theorem Laid.right {column : Nat} {before after : List Tile} (h : Laid column (before ++ after)) :
    Laid (column + (textOf before).length) after := by
  induction before generalizing column with
  | nil => exact h
  | cons tile before ih =>
    cases tile with
    | ignored c => simpa [text, Nat.add_assoc, Nat.add_comm 1] using ih h.2
    | lexeme l => simpa [text, Nat.add_assoc, String.length_toList] using ih h.2.2.2

/-- **Tiles that are laid side by side are cut apart again.**

**Proof sketch.** Induction on the tiles. A lexeme is cut off what follows because it spells its
token and is not extended, and any other character because it starts no lexeme. -/
theorem Laid.ofTextFrom {column : Nat} {tiles : List Tile} (h : Laid column tiles) :
    Lexeme.ofTextFrom column (textOf tiles) = .ok (lexemesOf tiles) := by
  induction tiles generalizing column with
  | nil => exact ofTextFrom_nil column
  | cons tile tiles ih =>
    cases tile with
    | ignored c =>
      have hfirst := Piece.first_of_cut (.ignored (textOf tiles) h.1)
      have hrest := ih h.2
      simp only [textOf_cons, text, List.singleton_append, lexemesOf_ignored]
      rw [ofTextFrom_cons hfirst]
      simp only [Piece.one, List.length_singleton, hrest]
      rfl
    | lexeme l =>
      obtain ⟨rfl, hspells, hmaximal, hrest⟩ := h
      simp only [textOf_cons, text, lexemesOf_lexeme]
      rw [hspells.append hmaximal, String.length_toList, ih hrest, String.ofList_toList]
      rfl

end Tile

/-! ## Pieces as tiles -/

namespace Piece

/-- A run ends where the property does. -/
theorem run_maximal {p : Char → Bool} (token : List Char → Token) (c : Char) (cs : List Char) :
    ∀ x ∈ (run p token c cs).rest.head?, p x = false := by
  intro x hx
  have hnot := List.head?_dropWhile_not p cs
  rw [show (cs.dropWhile p).head? = some x from hx] at hnot
  simpa using hnot

/-- A run is all of its own text. -/
theorem run_takeWhile (p : Char → Bool) (token : List Char → Token) (c : Char) (cs : List Char) :
    run p token c (cs.takeWhile p) = { run p token c cs with rest := [] } := by
  have hall : ∀ x ∈ cs.takeWhile p, p x = true := fun x hx => List.mem_takeWhile_imp hx
  have htake : (cs.takeWhile p).takeWhile p = cs.takeWhile p := List.takeWhile_eq_self_iff.2 hall
  have hdrop : (cs.takeWhile p).dropWhile p = [] := List.dropWhile_eq_nil_iff.2 hall
  simp only [run, htake, hdrop]

/-- A comparison sign without an equals sign behind it. -/
theorem comparison_of_head?_ne {bare extended : Comparison} {c : Char} {cs : List Char}
    (h : cs.head? ≠ some '=') :
    comparison bare extended c cs = ⟨some (.comparison bare), [c], cs⟩ := by
  unfold comparison
  split
  · exact absurd rfl h
  · rfl

/-- What follows a piece would not have made its lexeme longer. -/
theorem Cut.extendedBy_eq_false {c : Char} {cs : List Char} {p : Piece} (h : Cut c cs p) :
    ∀ x ∈ p.rest.head?, p.extendedBy x = false := by
  intro x hx
  cases h with
  | blank => exact run_maximal (p := (· = ' ')) (fun _ => .blank) ' ' cs x hx
  | mark _ h =>
    simp only [List.mem_cons, Prod.mk.injEq, List.not_mem_nil, or_false] at h
    rcases h with ⟨-, rfl⟩ | ⟨-, rfl⟩ | ⟨-, rfl⟩ | ⟨-, rfl⟩ <;> rfl
  | @comparison _ bare extended _ h =>
    simp only [List.mem_cons, Prod.mk.injEq, List.not_mem_nil, or_false] at h
    by_cases heq : cs.head? = some '='
    · obtain ⟨rest, rfl⟩ := List.head?_eq_some_iff.1 heq
      rcases h with ⟨-, -, rfl⟩ | ⟨-, -, rfl⟩ <;> rfl
    · rw [comparison_of_head?_ne heq] at hx ⊢
      have hne : x ≠ '=' := by
        rintro rfl
        exact heq hx
      rcases h with ⟨-, rfl, -⟩ | ⟨-, rfl, -⟩ <;> simp [extendedBy, Token.extendedBy, hne]
  | pattern => rfl
  | quoted => rfl
  | word =>
    rw [extendedBy_word]
    exact run_maximal wordToken c cs x hx
  | ignored => rfl

/-- A piece is cut off its own text as well, with nothing left. -/
theorem Cut.alone {c : Char} {cs : List Char} {p : Piece} (h : Cut c cs p) :
    ∃ text, p.text = c :: text ∧ Cut c text { p with rest := [] } := by
  cases h with
  | blank =>
    refine ⟨cs.takeWhile (· = ' '), rfl, ?_⟩
    rw [← run_takeWhile]
    exact .blank _
  | mark _ h => exact ⟨[], rfl, .mark [] h⟩
  | @comparison _ bare extended _ h =>
    by_cases heq : cs.head? = some '='
    · obtain ⟨rest, rfl⟩ := List.head?_eq_some_iff.1 heq
      exact ⟨['='], rfl, .comparison ['='] h⟩
    · rw [comparison_of_head?_ne heq]
      exact ⟨[], rfl, .comparison [] h⟩
  | @pattern source rest h => exact ⟨source ++ ['/'], rfl, .pattern [] h⟩
  | @quoted _ s text rest hquoted =>
    obtain ⟨hinside, -⟩ := unquote?_eq_some_iff.1 hquoted
    exact ⟨text, rfl, .quoted (unquote?_eq_some_iff.2 ⟨hinside, (List.append_nil text).symm⟩)⟩
  | word _ h hc =>
    refine ⟨cs.takeWhile isWordChar, rfl, ?_⟩
    rw [← run_takeWhile]
    exact .word _ h hc
  | ignored _ h => exact ⟨[], rfl, .ignored [] h⟩

/-- The text of a piece spells its token. -/
theorem Cut.spells {c : Char} {cs : List Char} {p : Piece} {t : Token} (h : Cut c cs p)
    (ht : p.token = some t) : Spells p.text t := by
  obtain ⟨text, htext, hcut⟩ := h.alone
  rw [htext]
  exact spells_of_cut hcut ht rfl

/-- A piece that is no lexeme is one character that starts none. -/
theorem Cut.ignored_of_token_eq_none {c : Char} {cs : List Char} {p : Piece} (h : Cut c cs p)
    (ht : p.token = none) : Ignored c ∧ p = one none c cs := by
  cases h with
  | ignored _ h => exact ⟨h, rfl⟩
  | comparison => unfold Piece.comparison at ht; split at ht <;> cases ht
  | blank | mark | pattern | quoted | word => cases ht

end Piece

namespace Tile

/-- **A text that can be cut into lexemes is laid with tiles.** -/
theorem exists_laid {column : Nat} {cs : List Char} {lexemes : List Lexeme}
    (h : Lexeme.ofTextFrom column cs = .ok lexemes) :
    ∃ tiles, Laid column tiles ∧ textOf tiles = cs ∧ lexemesOf tiles = lexemes := by
  induction cs using Piece.induction_on generalizing column lexemes with
  | nil =>
    rw [ofTextFrom_nil] at h
    cases h
    exact ⟨[], trivial, rfl, rfl⟩
  | unclosed c cs literal hc => rw [ofTextFrom_error hc] at h; cases h
  | piece c cs p hp ih =>
    obtain ⟨behind, hrest, rfl⟩ := (ofTextFrom_cons_eq_ok_iff hp).1 h
    obtain ⟨tiles, hlaid, htext, rfl⟩ := ih hrest
    have hcut := Piece.cut_of_first hp
    have happend := Piece.text_append_rest hp
    cases ht : p.token with
    | none =>
      obtain ⟨hc, rfl⟩ := hcut.ignored_of_token_eq_none ht
      exact ⟨.ignored c :: tiles, ⟨hc, hlaid⟩, by rw [textOf_cons, htext]; rfl, rfl⟩
    | some t =>
      refine ⟨.lexeme ⟨t, column, String.ofList p.text⟩ :: tiles, ?_, ?_, ?_⟩
      · refine ⟨rfl, by simpa using hcut.spells ht, ?_, by simpa using hlaid⟩
        rw [htext]
        simpa [Piece.extendedBy, ht] using hcut.extendedBy_eq_false
      · simpa [text, htext] using happend
      · simp [Piece.lexemes, ht]

/-- A lexeme counts the characters in front of it. -/
theorem Laid.column_eq {column : Nat} {before after : List Tile} {l : Lexeme}
    (h : Laid column (before ++ lexeme l :: after)) : l.column = column + (textOf before).length :=
  h.right.1

/-- What follows a lexeme would not have made it longer. -/
theorem Laid.maximal {column : Nat} {before after : List Tile} {l : Lexeme}
    (h : Laid column (before ++ lexeme l :: after)) :
    ∀ x ∈ (textOf after).head?, l.token.extendedBy x = false :=
  h.right.2.2.1

/-- A lexeme is the only one of its own text. -/
theorem Laid.alone {column : Nat} {before after : List Tile} {l : Lexeme}
    (h : Laid column (before ++ lexeme l :: after)) :
    ofText l.text = .ok [{ l with column := 0 }] := by
  have hspells := h.right.2.1 0
  rwa [String.ofList_toList] at hspells

/-- A character that is passed over starts no lexeme. -/
theorem Laid.ignored_of_mem {column : Nat} {tiles : List Tile} {c : Char} (h : Laid column tiles)
    (hc : ignored c ∈ tiles) : Piece.Ignored c := by
  obtain ⟨before, after, rfl⟩ := List.append_of_mem hc
  exact h.right.1

/-- A lexeme has characters. -/
theorem length_pos_of_spells {l : Lexeme} (h : Spells l.text.toList l.token) :
    0 < l.text.length := by
  rw [← String.length_toList, List.length_pos_iff]
  intro hnil
  have hspells := h 0
  rw [hnil, ofTextFrom_nil] at hspells
  cases hspells

/-- The lexemes of tiles lie behind the column where the tiles start. -/
theorem Laid.le_column {column : Nat} {tiles : List Tile} (h : Laid column tiles) :
    ∀ l ∈ lexemesOf tiles, column ≤ l.column := by
  intro l hl
  obtain ⟨before, after, rfl⟩ := exists_split_of_mem_lexemesOf hl
  have := h.column_eq
  omega

/-- Each lexeme ends before the next one begins. -/
theorem Laid.pairwise {column : Nat} {tiles : List Tile} (h : Laid column tiles) :
    (lexemesOf tiles).Pairwise fun l m =>
      l.column < m.column ∧ l.column + l.text.length ≤ m.column := by
  induction tiles generalizing column with
  | nil => exact List.Pairwise.nil
  | cons tile tiles ih =>
    cases tile with
    | ignored c => exact ih h.2
    | lexeme l =>
      obtain ⟨rfl, hspells, -, hrest⟩ := h
      have hpos := length_pos_of_spells hspells
      refine List.pairwise_cons.2 ⟨fun m hm => ?_, ih hrest⟩
      have hle := hrest.le_column m hm
      omega

end Tile

/-! ## Single lexemes -/

/-- The lexemes of a text stand behind the column where it starts. -/
theorem Lexeme.le_column_of_mem {column : Nat} {cs : List Char} {lexemes : List Lexeme}
    (h : ofTextFrom column cs = .ok lexemes) : ∀ l ∈ lexemes, column ≤ l.column := by
  obtain ⟨tiles, hlaid, -, rfl⟩ := Tile.exists_laid h
  exact hlaid.le_column

/-- Characters that spell a token are one piece. -/
theorem Lexeme.Spells.exists_cut {cs : List Char} {t : Token} (h : Spells cs t) :
    ∃ c cs' p, Piece.Cut c cs' p ∧ p.token = some t ∧ p.text = cs := by
  have hcs := h 0
  induction cs using Piece.induction_on with
  | nil => rw [ofTextFrom_nil] at hcs; cases hcs
  | unclosed c cs literal hc => rw [ofTextFrom_error hc] at hcs; cases hcs
  | piece c cs p hp =>
    obtain ⟨behind, hrest, heq⟩ := (ofTextFrom_cons_eq_ok_iff hp).1 hcs
    refine ⟨c, cs, p, Piece.cut_of_first hp, ?_⟩
    cases ht : p.token with
    | some u =>
      simp only [Piece.lexemes, ht, List.cons_append, List.nil_append, List.cons.injEq,
        Lexeme.mk.injEq] at heq
      exact ⟨by rw [heq.1.1], String.ofList_injective heq.1.2.2⟩
    | none =>
      -- the lexeme would stand behind the character that is passed over
      have hbehind : behind = [⟨t, 0, String.ofList (c :: cs)⟩] := by
        simpa [Piece.lexemes, ht] using heq
      have hpos := List.length_pos_iff.2 (Piece.text_ne_nil hp)
      have hle := le_column_of_mem hrest ⟨t, 0, String.ofList (c :: cs)⟩ (by simp [hbehind])
      simp only at hle
      omega

/-- A closing parenthesis is spelled by the character alone. -/
theorem Lexeme.Spells.eq_of_closing {cs : List Char} (h : Spells cs .closing) : cs = [')'] := by
  obtain ⟨c, cs', p, hcut, ht, rfl⟩ := h.exists_cut
  cases hcut with
  | mark _ hmark =>
    cases ht
    have hc : c = ')' := by simpa using hmark
    rw [hc]
    rfl
  | comparison =>
    unfold Piece.comparison at ht
    split at ht <;> cases ht
  | word =>
    have hword := Option.some.inj ht
    unfold wordToken at hword
    split at hword <;> cases hword
  | blank | pattern | quoted | ignored => cases ht

/-- A word is spelled by itself. -/
theorem Lexeme.Spells.eq_of_word {cs : List Char} {w : String} (h : Spells cs (.word w)) :
    cs = w.toList := by
  obtain ⟨c, cs', p, hcut, ht, rfl⟩ := h.exists_cut
  cases hcut with
  | word =>
    have hword := Option.some.inj ht
    unfold wordToken at hword
    split at hword
    · cases hword
    · cases hword
      rw [String.toList_ofList]
      rfl
  | mark _ hmark =>
    cases ht
    simp at hmark
  | comparison =>
    unfold Piece.comparison at ht
    split at ht <;> cases ht
  | blank | pattern | quoted | ignored => cases ht

/-- **A lexeme divides its text**: the characters in front of it are cut into the lexemes in front
of it, and it counts those characters. -/
theorem Lexeme.exists_split {query : String} {w rest : List Lexeme} {l : Lexeme}
    (h : ofText query = .ok (w ++ l :: rest)) :
    ∃ a b, query = a ++ l.text ++ b ∧ a.length = l.column ∧ ofText a = .ok w ∧
      Spells l.text.toList l.token := by
  obtain ⟨tiles, hlaid, htext, hlexemes⟩ := Tile.exists_laid h
  obtain ⟨front, back, rfl, rfl, hback⟩ := List.filterMap_eq_append_iff.1 hlexemes
  obtain ⟨ignored, tile, after, rfl, hignored, htile, -⟩ := List.filterMap_eq_cons_iff.1 hback
  obtain rfl : tile = .lexeme l := by
    cases tile with
    | lexeme k => cases htile; rfl
    | ignored c => cases htile
  rw [← List.append_assoc] at hlaid htext
  have hfront : Tile.lexemesOf (front ++ ignored) = Tile.lexemesOf front := by
    simpa [Tile.lexemesOf] using List.filterMap_eq_nil_iff.2 hignored
  refine ⟨String.ofList (Tile.textOf (front ++ ignored)), String.ofList (Tile.textOf after), ?_, ?_,
    ?_, hlaid.right.2.1⟩
  · apply String.toList_injective
    rw [← htext]
    simp [Tile.text]
  · rw [String.length_ofList, hlaid.column_eq, Nat.zero_add]
  · have hcut := hlaid.left.ofTextFrom
    rw [hfront] at hcut
    rwa [ofText, String.toList_ofList]

/-- A lexeme of a text is spelled by its characters. -/
theorem Lexeme.spells_of_mem {query : String} {lexemes : List Lexeme} {l : Lexeme}
    (h : ofText query = .ok lexemes) (hl : l ∈ lexemes) : Spells l.text.toList l.token := by
  obtain ⟨w, rest, rfl⟩ := List.append_of_mem hl
  obtain ⟨a, b, -, -, -, hspells⟩ := exists_split h
  exact hspells

/-! ## Boundaries -/

/-- A place between two parts of a text where lexemes end: the first part has lexemes on its own,
and the second would not have made the last of them longer. -/
def Lexeme.Boundary (a b : String) : Prop :=
  ∃ lexemes, ofText a = .ok lexemes ∧ Closed lexemes a.length b.toList

/-- Tiles meet at boundaries. -/
theorem Tile.Laid.boundary {before after : List Tile} (h : Laid 0 (before ++ after)) :
    Boundary (String.ofList (textOf before)) (String.ofList (textOf after)) := by
  refine ⟨lexemesOf before, by simpa [ofText] using h.left.ofTextFrom, fun l hl hstop x hx => ?_⟩
  obtain ⟨front, back, rfl⟩ := exists_split_of_mem_lexemesOf hl
  rw [List.append_assoc, List.cons_append] at h
  -- the lexeme goes up to the end, so no characters are left between it and the second part
  have hback : textOf back = [] := by
    rw [← List.length_eq_zero_iff]
    have hcolumn := h.column_eq
    simp only [String.length_ofList, textOf_append, textOf_cons, List.length_append, text,
      String.length_toList] at hstop
    omega
  refine h.maximal x ?_
  simpa [hback] using hx

/-! ## Tilings -/

/-- Tiles that are what a query is cut into. -/
structure Tiling (query : String) (lexemes : List Lexeme) (tiles : List Tile) : Prop where
  /-- Side by side the tiles are the query. -/
  text_eq : Tile.textOf tiles = query.toList
  /-- The lexemes stand in the order in which they lie. -/
  lexemes_eq : Tile.lexemesOf tiles = lexemes
  /-- A lexeme counts the characters in front of it. -/
  column_eq : ∀ before l after, tiles = before ++ .lexeme l :: after →
    l.column = (Tile.textOf before).length
  /-- Each lexeme starts and ends before the next one begins. -/
  apart : lexemes.Pairwise fun l m => l.column < m.column ∧ l.column + l.text.length ≤ m.column
  /-- What follows a lexeme would not have made it longer. -/
  maximal : ∀ before l after, tiles = before ++ .lexeme l :: after →
    ∀ x ∈ (Tile.textOf after).head?, l.token.extendedBy x = false
  /-- A lexeme is the only one of its own text. -/
  alone : ∀ l ∈ lexemes, ofText l.text = .ok [{ l with column := 0 }]
  /-- A character that is passed over starts no lexeme. -/
  ignored : ∀ c, .ignored c ∈ tiles → Piece.Ignored c
  /-- Tiles meet where lexemes end. -/
  boundary : ∀ before after, tiles = before ++ after →
    Boundary (String.ofList (Tile.textOf before)) (String.ofList (Tile.textOf after))

namespace Tiling

variable {query : String} {lexemes : List Lexeme} {tiles : List Tile}

/-- Tiles that are laid side by side are a tiling. -/
theorem of_laid (h : Tile.Laid 0 tiles) (htext : Tile.textOf tiles = query.toList) :
    Tiling query (Tile.lexemesOf tiles) tiles where
  text_eq := htext
  lexemes_eq := rfl
  column_eq before l after heq := by
    subst heq
    simpa using h.column_eq
  apart := h.pairwise
  maximal before l after heq := by
    subst heq
    exact h.maximal
  alone l hl := by
    obtain ⟨before, after, rfl⟩ := Tile.exists_split_of_mem_lexemesOf hl
    exact h.alone
  ignored c hc := h.ignored_of_mem hc
  boundary before after heq := by
    subst heq
    exact h.boundary

/-- The tiles of a tiling are laid side by side.

**Proof sketch.** Induction on the tiles that are still to be laid. What a lexeme is on its own, it
is in any column (`ofTextFrom_add`). -/
theorem laid (h : Tiling query lexemes tiles) : Tile.Laid 0 tiles := by
  suffices hlaid : ∀ after before, tiles = before ++ after →
      Tile.Laid (Tile.textOf before).length after from hlaid tiles [] rfl
  intro after
  induction after with
  | nil => exact fun before heq => trivial
  | cons tile after ih =>
    intro before heq
    have hrest := ih (before ++ [tile]) (by rw [heq, List.append_assoc]; rfl)
    rw [Tile.textOf_append, List.length_append] at hrest
    cases tile with
    | ignored c => exact ⟨h.ignored c (by simp [heq]), hrest⟩
    | lexeme l =>
      have hl : l ∈ lexemes := by
        rw [← h.lexemes_eq, heq]
        simp [Tile.lexemesOf, Tile.lexeme?]
      refine ⟨h.column_eq before l after heq, fun column => ?_, h.maximal before l after heq, ?_⟩
      · have hadd := ofTextFrom_add 0 column l.text.toList
        have halone : ofTextFrom 0 l.text.toList = .ok [{ l with column := 0 }] := h.alone l hl
        rw [Nat.zero_add, halone] at hadd
        simpa [Except.map, Except.mapError, shift] using hadd
      · simpa [Tile.text, String.length_toList] using hrest

/-- **A query has the lexemes of its tilings**, and it can be cut into lexemes exactly if it has
one: side by side the tiles are the query, each lexeme counts the characters in front of it, is the
only one of its own text and is as long as it can be, and any other tile is a character that starts
no lexeme.

**Proof sketch.** A query is cut into tiles piece by piece (`Tile.exists_laid`), and tiles that are
laid side by side are cut apart again (`Tile.Laid.ofTextFrom`). -/
theorem ofText_eq_ok_iff_exists (query : String) (lexemes : List Lexeme) :
    ofText query = .ok lexemes ↔ ∃ tiles, Tiling query lexemes tiles := by
  constructor
  · intro h
    obtain ⟨tiles, hlaid, htext, rfl⟩ := Tile.exists_laid h
    exact ⟨tiles, of_laid hlaid htext⟩
  · rintro ⟨tiles, h⟩
    have hcut := h.laid.ofTextFrom
    rwa [h.text_eq, h.lexemes_eq] at hcut

end Tiling

end RecordQuery
