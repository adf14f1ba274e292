import RecordQuery.Proofs.Query.Parsing
import RecordQuery.Proofs.Query.Tiling

set_option autoImplicit false

/-!
# Cutting is local

No lexeme looks past its own end, but for the characters that would have made it longer. So a text
is cut at a boundary as its two parts are cut on their own, faults included, and a character that
starts no lexeme can be put in there without a change to what the query says.

## Main definitions

* `RecordQuery.Unclosed.shift` — an unclosed literal behind more characters.
* `RecordQuery.Lexeme.said` — what the lexemes of a query say and how they are written.

## Main results

* `RecordQuery.Tree.ofText_congr` — texts whose lexemes say the same are the same tree.
* `RecordQuery.Lexeme.ofText_append` — the lexemes of a text are those of its parts.
-/

namespace RecordQuery

open Grammar Lexeme

/-- The same unclosed literal behind `n` more characters. -/
def Unclosed.shift (n : Nat) (u : Unclosed) : Unclosed := { u with column := u.column + n }

namespace Lexeme

/-- What the lexemes of a query say and how they are written, wherever they stand, or the kind of
the literal that is never closed. -/
def said (query : String) : Except Delimited (List (Token × String)) :=
  ((ofText query).map (·.map fun l => (l.token, l.text))).mapError Unclosed.literal

/-! ## Two parts -/

/-- At a boundary a text is cut as its two parts are, with columns of the second that count from the
start of the first. -/
theorem ofText_append_of_closed {a b : String} {lexemes : List Lexeme}
    (ha : ofText a = .ok lexemes) (hb : Closed lexemes a.length b.toList) :
    ofText (a ++ b) = ((ofText b).map fun behind => lexemes ++ behind.map (shift a.length)).mapError
      (Unclosed.shift a.length) := by
  have happend := ofTextFrom_append (b := b.toList) ha
    (by simpa [String.length_toList] using hb)
  have hshift := ofTextFrom_add 0 a.length b.toList
  unfold ofText at ha ⊢
  rw [String.toList_append, happend, String.length_toList, hshift]
  cases ofTextFrom 0 b.toList <;> rfl

/-! ## A character between them -/

/-- A character that starts no lexeme extends none, unless it is an equals sign. -/
theorem extendedBy_ignored {c : Char} (hc : Piece.Ignored c) (heq : c ≠ '=') (t : Token) :
    t.extendedBy c = false := by
  have hspace : c ≠ ' ' := by
    rintro rfl
    exact hc.1 (by simp)
  cases t with
  | blank => simpa [Token.extendedBy] using hspace
  | number x => exact hc.2
  | word s => exact hc.2
  | comparison d => cases d <;> simp [Token.extendedBy, heq]
  | minus | pattern | quoted | colon | opening | closing => rfl

/-- A character that starts no lexeme is passed over in front of a text. -/
theorem ofText_ignored_append {c : Char} (hc : Piece.Ignored c) (b : String) :
    ofText (String.singleton c ++ b) =
      ((ofText b).map (·.map (shift 1))).mapError (Unclosed.shift 1) := by
  have hshift := ofTextFrom_add 0 1 b.toList
  have hcut := Piece.first_of_cut (.ignored b.toList hc)
  unfold ofText
  rw [String.toList_append, String.toList_singleton, List.singleton_append, ofTextFrom_cons hcut]
  simp only [Piece.one, List.length_singleton, hshift]
  cases ofTextFrom 0 b.toList <;> rfl

/-- Behind a character that is passed over, the lexemes of the second part stand one column further
on. -/
theorem ofText_insert {a : String} {c : Char} {lexemes : List Lexeme} (ha : ofText a = .ok lexemes)
    (hc : Piece.Ignored c) (heq : c ≠ '=') (b : String) :
    ofText (a ++ (String.singleton c ++ b)) =
      ((ofText b).map fun behind => lexemes ++ behind.map (shift (a.length + 1))).mapError
        (Unclosed.shift (a.length + 1)) := by
  have hclosed : Closed lexemes a.length (String.singleton c ++ b).toList := by
    intro l hl hstop x hx
    obtain rfl : c = x := by simpa [String.toList_append] using hx
    exact extendedBy_ignored hc heq l.token
  rw [ofText_append_of_closed ha hclosed, ofText_ignored_append hc]
  cases ofText b <;>
    simp [Except.map, Except.mapError, shift, Unclosed.shift, Nat.add_comm a.length, Nat.add_assoc]

/-- A character that is passed over at a boundary changes nothing that the lexemes say. -/
theorem said_insert {a b : String} {c : Char} {lexemes : List Lexeme} (ha : ofText a = .ok lexemes)
    (hb : Closed lexemes a.length b.toList) (hc : Piece.Ignored c) (heq : c ≠ '=') :
    said (a ++ (String.singleton c ++ b)) = said (a ++ b) := by
  unfold said
  rw [ofText_insert ha hc heq, ofText_append_of_closed ha hb]
  cases ofText b <;>
    simp [Except.map, Except.mapError, shift, Unclosed.shift, Function.comp_def]

/-! ## Trees and columns -/

/-- Distinct lexemes can be put in the places of others that say the same. -/
theorem exists_map_eq {w w' : List Lexeme} (hw : w.Nodup)
    (h : (w.map fun l => (l.token, l.text)) = w'.map fun l => (l.token, l.text)) :
    ∃ f : Lexeme → Lexeme, (∀ l, (f l).token = l.token ∧ (f l).text = l.text) ∧ w.map f = w' := by
  induction w generalizing w' with
  | nil =>
    obtain rfl : w' = [] := by simpa using h.symm
    exact ⟨id, fun l => ⟨rfl, rfl⟩, rfl⟩
  | cons l w ih =>
    cases w' with
    | nil => cases h
    | cons l' w' =>
      simp only [List.map_cons, List.cons.injEq, Prod.mk.injEq] at h
      obtain ⟨⟨htoken, htext⟩, htail⟩ := h
      obtain ⟨hl, hw⟩ := List.nodup_cons.1 hw
      obtain ⟨f, hf, rfl⟩ := ih hw htail
      refine ⟨fun k => if k = l then l' else f k, fun k => ?_, ?_⟩
      · by_cases hk : k = l
        · simp [hk, htoken, htext]
        · simpa [hk] using hf k
      · have hmap : (w.map fun k => if k = l then l' else f k) = w.map f := by
          refine List.map_congr_left fun k hk => if_neg ?_
          rintro rfl
          exact hl hk
        rw [List.map_cons, if_pos rfl, hmap]

/-- The lexemes of a text are distinct, also if they are changed but for their columns. -/
theorem nodup_map_of_ofText {query : String} {lexemes : List Lexeme}
    (h : ofText query = .ok lexemes) {f : Lexeme → Lexeme}
    (hf : ∀ l, (f l).column = l.column) : (lexemes.map f).Nodup := by
  obtain ⟨tiles, hlaid, -, rfl⟩ := Tile.exists_laid h
  refine List.pairwise_map.2 (hlaid.pairwise.imp fun {l m} hlm heq => ?_)
  have hcolumn : l.column = m.column := by rw [← hf l, ← hf m, heq]
  omega

/-- The lexemes of a text are distinct. -/
theorem nodup_of_ofText {query : String} {lexemes : List Lexeme} (h : ofText query = .ok lexemes) :
    lexemes.Nodup := by
  simpa using nodup_map_of_ofText h (f := id) fun _ => rfl

end Lexeme

/-- Trees are derived whatever the columns are. -/
theorem Grammar.Derives.map {s : Settings} {f : Lexeme → Lexeme} {w : List Lexeme} {t : Tree}
    (hf : ∀ l, (f l).token = l.token ∧ (f l).text = l.text) (h : Derives s w t) :
    Derives s (w.map f) t := by
  cases h with
  | everything hw => exact .everything (hw.map hf)
  | conjunction hw => exact .conjunction (hw.map_congr hf Iff.rfl)

namespace Tree

/-- A query that says what another does has its tree. -/
theorem ofText_of_said {query other : String} (h : said query = said other) {s : Settings}
    {t : Tree} (ht : ofText s query = .ok t) : ofText s other = .ok t := by
  obtain ⟨w, hw, hderives⟩ := Parser.ofText_eq_ok_iff.1 ht
  unfold said at h
  rw [hw] at h
  cases hother : Lexeme.ofText other with
  | error u => rw [hother] at h; cases h
  | ok w' =>
    rw [hother] at h
    obtain ⟨f, hf, rfl⟩ := exists_map_eq (nodup_of_ofText hw) (Except.ok.inj h)
    exact Parser.ofText_eq_ok_iff.2 ⟨w.map f, hother, hderives.map hf⟩

/-- **A query has the trees of any other that says the same**, in whatever columns. -/
theorem ofText_congr {query other : String} (h : said query = said other) (s : Settings)
    (t : Tree) :
    ofText s query = .ok t ↔ ofText s other = .ok t :=
  ⟨ofText_of_said h, ofText_of_said h.symm⟩

end Tree

/-- **Cutting is local**: where the second part of a text does not extend a lexeme at the end of the
first, the lexemes of the text are those of the first part and behind them those of the second, with
columns raised by the number of characters in front, and an unclosed literal of the second part is
one of the whole. A character that starts no lexeme, other than an equals sign, changes no token and
no tree there.

**Proof sketch.** Pieces stay as they are in front of more text (`ofTextFrom_append`), and a text is
cut in the same way wherever it starts (`ofTextFrom_add`). The character in between extends no
lexeme and is passed over (`said_insert`), and columns do not matter to trees
(`Tree.ofText_congr`). -/
theorem Lexeme.ofText_append {a b : String} {lexemes : List Lexeme} (ha : ofText a = .ok lexemes)
    (hb : Closed lexemes a.length b.toList) :
    (ofText (a ++ b) = match ofText b with
      | .ok behind => .ok (lexemes ++ behind.map (shift a.length))
      | .error u => .error (u.shift a.length)) ∧
    ∀ c, Piece.Ignored c → c ≠ '=' →
      said (a ++ (String.singleton c ++ b)) = said (a ++ b) ∧
        ∀ s t, Tree.ofText s (a ++ (String.singleton c ++ b)) = .ok t ↔
          Tree.ofText s (a ++ b) = .ok t := by
  refine ⟨?_, fun c hc heq => ?_⟩
  · rw [ofText_append_of_closed ha hb]
    cases ofText b <;> rfl
  · have hsaid := said_insert ha hb hc heq
    exact ⟨hsaid, Tree.ofText_congr hsaid⟩

/-- A comparison sign at the end of the first part, and a pattern, which starts with no equals sign,
in the second; a tab between them is passed over. -/
theorem Lexeme.ofText_append_sign :
    let lexemes : List Lexeme := [⟨.quoted "ü", 1, "\"ü\""⟩, ⟨.blank, 4, " "⟩,
      ⟨.word "age", 5, "age"⟩, ⟨.comparison .less, 8, "<"⟩]
    ofText "é\"ü\" age<" = .ok lexemes ∧ Closed lexemes 9 "/(/ -é".toList ∧
      ofText ("é\"ü\" age<" ++ "/(/ -é") =
        .ok (lexemes ++ [⟨.pattern "(", 9, "/(/"⟩, ⟨.blank, 12, " "⟩, ⟨.minus, 13, "-"⟩]) ∧
      said ("é\"ü\" age<" ++ (String.singleton '\t' ++ "/(/ -é")) =
        said ("é\"ü\" age<" ++ "/(/ -é") := by
  intro lexemes
  have ha : ofText "é\"ü\" age<" = .ok lexemes := by cbv
  have hb : Closed lexemes 9 "/(/ -é".toList := by
    intro l hl _ x hx
    obtain rfl : x = '/' := by simpa using hx.symm
    simp only [lexemes, List.mem_cons, List.not_mem_nil, or_false] at hl
    rcases hl with rfl | rfl | rfl | rfl <;> decide
  have hbehind : ofText "/(/ -é" =
      .ok [⟨.pattern "(", 0, "/(/"⟩, ⟨.blank, 3, " "⟩, ⟨.minus, 4, "-"⟩] := by cbv
  obtain ⟨happend, hinsert⟩ := ofText_append (b := "/(/ -é") ha hb
  rw [hbehind] at happend
  exact ⟨ha, hb, happend, (hinsert '\t' ⟨by decide, by decide⟩ (by decide)).1⟩

end RecordQuery
