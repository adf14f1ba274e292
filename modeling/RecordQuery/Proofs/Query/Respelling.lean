import RecordQuery.Proofs.Query.Locality
import RecordQuery.Proofs.Query.Unclosed

set_option autoImplicit false

/-!
# Respelling lexemes

Lexemes of a query are written in another way, each in its place, and all characters between them
stay. If the new ones are literals between marks, no two lexemes run together: a mark extends no
lexeme, and nothing extends a literal that is closed.

## Main definitions

* `RecordQuery.Lexeme.respell` — a query with its lexemes written as others.
* `RecordQuery.Lexeme.Enclosed` — a literal between its marks.

## Main results

* `RecordQuery.Tile.respellFrom_textOf` — a query is respelled tile by tile.
* `RecordQuery.Lexeme.ofText_respell` — a respelled query is cut into the new lexemes.
* `RecordQuery.Tree.ofText_respell` — a respelled query has the tree of the new lexemes.
-/

namespace RecordQuery

open Grammar Lexeme

/-! ## Texts -/

namespace Lexeme

/-- The characters `cs` from a column on, with the lexemes in them written as `f` says. -/
def respellFrom (f : Lexeme → Lexeme) : Nat → List Char → List Lexeme → List Char
  | _, cs, [] => cs
  | column, cs, l :: rest =>
    cs.take (l.column - column) ++ (f l).text.toList ++
      respellFrom f (l.column + l.text.length) (cs.drop (l.column + l.text.length - column)) rest

/-- A query with its lexemes written as `f` says; all other characters stay. -/
def respell (f : Lexeme → Lexeme) (query : String) (lexemes : List Lexeme) : String :=
  String.ofList (respellFrom f 0 query.toList lexemes)

/-- A literal between its marks. -/
structure Enclosed (l : Lexeme) : Prop where
  spells : Spells l.text.toList l.token
  head : ∃ literal : Delimited, l.text.toList.head? = some literal.mark
  maximal : ∀ x, l.token.extendedBy x = false

/-- A character in front of all lexemes stays. -/
theorem respellFrom_cons (f : Lexeme → Lexeme) {column : Nat} {lexemes : List Lexeme}
    (h : ∀ l ∈ lexemes, column < l.column) (c : Char) (cs : List Char) :
    respellFrom f column (c :: cs) lexemes = c :: respellFrom f (column + 1) cs lexemes := by
  cases lexemes with
  | nil => rfl
  | cons l rest =>
    have hlt : column < l.column := h l List.mem_cons_self
    have htake : l.column - column = l.column - (column + 1) + 1 := by omega
    have hdrop : l.column + l.text.length - column =
        l.column + l.text.length - (column + 1) + 1 := by omega
    simp only [respellFrom, htake, hdrop, List.take_succ_cons, List.drop_succ_cons,
      List.cons_append]

end Lexeme

/-! ## Tiles -/

namespace Tile

/-- Tiles with their lexemes as `f` says, laid from a column on. -/
def respell (f : Lexeme → Lexeme) : Nat → List Tile → List Tile
  | _, [] => []
  | column, lexeme l :: tiles =>
    lexeme { f l with column } :: respell f (column + (f l).text.length) tiles
  | column, ignored c :: tiles => ignored c :: respell f (column + 1) tiles

/-- A query is respelled tile by tile. -/
theorem respellFrom_textOf (f : Lexeme → Lexeme) {column : Nat} {tiles : List Tile}
    (h : Laid column tiles) (column' : Nat) :
    respellFrom f column (textOf tiles) (lexemesOf tiles) = textOf (respell f column' tiles) := by
  induction tiles generalizing column column' with
  | nil => rfl
  | cons tile tiles ih =>
    cases tile with
    | ignored c =>
      have hlt : ∀ l ∈ lexemesOf tiles, column < l.column := h.2.le_column
      rw [lexemesOf_ignored, textOf_cons, text, List.singleton_append, respellFrom_cons f hlt,
        ih h.2 (column' + 1)]
      rfl
    | lexeme l =>
      obtain ⟨rfl, -, -, hrest⟩ := h
      have hlength : l.column + l.text.length - l.column = l.text.toList.length := by
        rw [Nat.add_sub_cancel_left, String.length_toList]
      rw [lexemesOf_lexeme, textOf_cons, text, respellFrom, Nat.sub_self, hlength,
        List.drop_left, ih hrest (column' + (f l).text.length)]
      rfl

/-- The new lexemes say what `f` makes of the old ones. -/
theorem lexemesOf_respell (f : Lexeme → Lexeme) (column : Nat) (tiles : List Tile) :
    (lexemesOf (respell f column tiles)).map (fun l => (l.token, l.text)) =
      (lexemesOf tiles).map fun l => ((f l).token, (f l).text) := by
  induction tiles generalizing column with
  | nil => rfl
  | cons tile tiles ih =>
    cases tile with
    | ignored c => exact ih (column + 1)
    | lexeme l => simp [respell, ih]

/-- The first character stays, or it is a mark. -/
theorem head?_textOf_respell {f : Lexeme → Lexeme} {column : Nat} {tiles : List Tile}
    (h : Laid column tiles) (hf : ∀ l ∈ lexemesOf tiles, f l = l ∨ (f l).Enclosed) (column' : Nat) :
    ∀ x ∈ (textOf (respell f column' tiles)).head?,
      x ∈ (textOf tiles).head? ∨ ∃ literal : Delimited, x = literal.mark := by
  intro x hx
  cases tiles with
  | nil => cases hx
  | cons tile tiles =>
    cases tile with
    | ignored c => exact .inl hx
    | lexeme l =>
      simp only [respell, textOf_cons, text] at hx ⊢
      rcases hf l List.mem_cons_self with heq | henclosed
      · have hne : l.text.toList ≠ [] := by
          have hpos := length_pos_of_spells h.2.1
          rwa [← List.length_pos_iff, String.length_toList]
        rw [heq, List.head?_append_of_ne_nil _ hne] at hx
        rw [List.head?_append_of_ne_nil _ hne]
        exact .inl hx
      · obtain ⟨literal, hliteral⟩ := henclosed.head
        have hne : (f l).text.toList ≠ [] := by
          intro hnil
          rw [hnil] at hliteral
          cases hliteral
        rw [List.head?_append_of_ne_nil _ hne, hliteral] at hx
        exact .inr ⟨literal, (Option.some.inj hx).symm⟩

/-- **Respelled tiles are laid side by side**, if each lexeme stays or becomes a literal.

**Proof sketch.** Induction on the tiles. What stands behind a lexeme now is what stood there before
or a mark, and a mark extends no lexeme. -/
theorem Laid.respell {f : Lexeme → Lexeme} {column : Nat} {tiles : List Tile}
    (h : Laid column tiles) (hf : ∀ l ∈ lexemesOf tiles, f l = l ∨ (f l).Enclosed) (column' : Nat) :
    Laid column' (respell f column' tiles) := by
  induction tiles generalizing column column' with
  | nil => trivial
  | cons tile tiles ih =>
    cases tile with
    | ignored c => exact ⟨h.1, ih h.2 hf (column' + 1)⟩
    | lexeme l =>
      obtain ⟨-, hspells, hmaximal, hrest⟩ := h
      have hf' : ∀ m ∈ lexemesOf tiles, f m = m ∨ (f m).Enclosed := fun m hm =>
        hf m (List.mem_cons_of_mem l hm)
      have hbehind := ih hrest hf' (column' + (f l).text.length)
      rcases hf l List.mem_cons_self with heq | henclosed
      · refine ⟨rfl, by rwa [heq], fun x hx => ?_, hbehind⟩
        rw [heq]
        rcases head?_textOf_respell hrest hf' _ x hx with hbefore | ⟨literal, rfl⟩
        · exact hmaximal x hbefore
        · exact l.token.extendedBy_mark literal
      · exact ⟨rfl, henclosed.spells, fun x _ => henclosed.maximal x, hbehind⟩

end Tile

/-! ## Queries -/

namespace Lexeme

/-- **A respelled query is cut into the new lexemes**, if each lexeme stays or becomes a literal. -/
theorem ofText_respell {query : String} {lexemes : List Lexeme} (h : ofText query = .ok lexemes)
    {f : Lexeme → Lexeme} (hf : ∀ l ∈ lexemes, f l = l ∨ (f l).Enclosed) :
    ∃ w, ofText (respell f query lexemes) = .ok w ∧
      w.map (fun l => (l.token, l.text)) = lexemes.map fun l => ((f l).token, (f l).text) := by
  obtain ⟨tiles, hlaid, htext, rfl⟩ := Tile.exists_laid h
  refine ⟨_, ?_, Tile.lexemesOf_respell f 0 tiles⟩
  have hcut := (hlaid.respell hf 0).ofTextFrom
  rwa [respell, ← htext, Tile.respellFrom_textOf f hlaid 0, ofText, String.toList_ofList]

end Lexeme

/-- **A respelled query has the tree of the new lexemes**, if these keep their columns.

**Proof sketch.** The respelled query is cut into lexemes that say what the new ones say
(`Lexeme.ofText_respell`), and trees do not depend on columns. -/
theorem Tree.ofText_respell {s : Settings} {query : String} {lexemes : List Lexeme} {t : Tree}
    (h : Lexeme.ofText query = .ok lexemes) {f : Lexeme → Lexeme}
    (hf : ∀ l ∈ lexemes, f l = l ∨ (f l).Enclosed) (hcolumn : ∀ l, (f l).column = l.column)
    (hderives : Derives s (lexemes.map f) t) :
    Tree.ofText s (respell f query lexemes) = .ok t := by
  obtain ⟨w, hw, hsaid⟩ := Lexeme.ofText_respell h hf
  have hsaid' : ((lexemes.map f).map fun l => (l.token, l.text)) =
      w.map fun l => (l.token, l.text) := by
    rw [hsaid, List.map_map]
    rfl
  obtain ⟨g, hg, rfl⟩ := exists_map_eq (nodup_map_of_ofText h hcolumn) hsaid'
  exact Parser.ofText_eq_ok_iff.2 ⟨_, hw, hderives.map hg⟩

end RecordQuery
