import RecordQuery.Proofs.Json.RoundTrip
import RecordQuery.Proofs.Number.Shortest
import RecordQuery.Proofs.Query.Interpretation
import RecordQuery.Proofs.Query.Writing
import RecordQuery.Proofs.Text.Lower
import RecordQuery.Query.Compiled

set_option autoImplicit false

/-!
# Queries for whole numbers

What a query that holds a whole number against a field selects, if the field is a whole number of a
JSON text. Both become numbers of binary floating point, so whole numbers that are rounded to the same
number are equal to a comparison. A selection by text takes only the text of the rounded number. Up to
`2 ^ 53` nothing is rounded.

## Main definitions

* `RecordQuery.Json.memberText` — a JSON object with a whole number as its only member.
* `RecordQuery.Comparison.Between` — whether whole numbers stand in a comparison.

## Main results

* `RecordQuery.Json.read_memberText` — the object is read.
* `RecordQuery.Query.selects_wholeNumber` — what queries select among whole numbers.
-/

namespace RecordQuery

open Grammar Lexeme Magnitude

/-! ## A whole number in a JSON text -/

namespace Json

/-- A JSON object with a whole number as its only member. -/
def memberText (key : String) (n : Nat) : String :=
  "\x7b\"" ++ key ++ "\": " ++ Nat.repr n ++ "\x7d"

/-- The characters of words are no control characters. -/
theorem lt_of_isWordChar {c : Char} (h : isWordChar c = true) : 0x20 < c.toNat := by
  by_contra hle
  have hcontrol : ∀ n < 0x21, isWordChar (Char.ofNat n) = false := by decide
  have hc := hcontrol c.toNat (by omega)
  rw [Char.ofNat_toNat, h] at hc
  cases hc

/-- The characters of words stand for themselves in strings. -/
theorem escape_of_isWordChar {c : Char} (h : isWordChar c = true) : escape c = [c] := by
  have hlt := lt_of_isWordChar h
  have hne (d : Char) (hd : isWordChar d = false) : c ≠ d := by
    rintro rfl
    rw [h] at hd
    cases hd
  unfold escape
  iterate 7 rw [if_neg (hne _ (by decide))]
  rw [if_neg (by omega)]

/-- Words stand for themselves in strings. -/
theorem flatMap_escape {cs : List Char} (h : ∀ c ∈ cs, isWordChar c = true) :
    cs.flatMap escape = cs := by
  induction cs with
  | nil => rfl
  | cons c cs ih =>
    rw [List.flatMap_cons, escape_of_isWordChar (h c List.mem_cons_self),
      ih fun d hd => h d (List.mem_cons_of_mem _ hd), List.singleton_append]

/-- A value is read behind white space as it is without. -/
theorem reads_behind_space {depth : Nat} {text rest : List Char} {v : Json}
    (h : Reads (readValue depth) text rest v)
    (hhead : ∀ c ∈ (text ++ rest).head?, Cursor.isSpace c = false) :
    Reads (readValue depth) (' ' :: text) rest v := by
  intro k hk
  have hspace : ∀ c ∈ [' '], Cursor.isSpace c = true := by
    simp [Cursor.isSpace]
  have hskip : k.skipSpace.rest = text ++ rest := Cursor.rest_skipSpace_of_append hspace hhead hk
  obtain ⟨behind, hread, hbehind⟩ := h k.skipSpace hskip
  refine ⟨behind, ?_, hbehind⟩
  unfold readValue at hread ⊢
  rwa [Cursor.skipSpace_skipSpace] at hread

/-- **An object with a whole number is read.** -/
theorem read_memberText {key : String} (hkey : IsWord key) {n : Nat} (hn : n < 2 ^ 64) :
    read (memberText key n).toList = .ok (.object [(key, .integer n)]) := by
  have htext : (memberText key n).toList = '\x7b' :: listed [] ['\x7d'] true
      ([(key, Json.integer n)].map fun m =>
        '"' :: (m.1.toList.flatMap escape ++ '"' :: ':' :: ' ' :: m.2.write)) := by
    rw [List.map_singleton, flatMap_escape hkey.chars]
    simp [memberText, listed, separator, write, Int.repr_eq_if]
  have hmember : ∀ m ∈ [(key, Json.integer n)], ∀ b, EndsNumber b →
      Reads (readMember (readValue 126))
        (m.1.toList.flatMap escape ++ '"' :: ':' :: ' ' :: m.2.write) b m := by
    intro m hm b hb
    rw [List.mem_singleton.1 hm]
    obtain ⟨c, cs, hwrite, hspace, -⟩ := exists_write_eq_cons (v := Json.integer n)
      (by simp [decimals])
    refine reads_named key (reads_behind_space (reads_integer (by omega) ?_ hb 126) ?_)
    · simp only [maxWhole]
      omega
    · simpa [hwrite] using hspace
  have hascending : Entries.Ascending [(key, Json.integer n)] := List.pairwise_singleton _ _
  obtain ⟨behind, hread, hbehind⟩ : ∃ behind,
      readValue (126 + 1) (Cursor.start (memberText key n).toList) =
        .ok (.object [(key, .integer n)], behind) ∧ behind.rest = [] :=
    exists_readObject hascending hmember htext
  have hend : readEnd behind = .ok () := by
    simp [readEnd, Cursor.rest_skipSpace, hbehind]
  have hvalue : readValue maxDepth (Cursor.start (memberText key n).toList) =
      .ok (.object [(key, .integer n)], behind) := hread
  simp only [read, hvalue, hend, bind, Except.bind, pure, Except.pure]

end Json

/-! ## Numbers written in digits -/

/-- The digits of a whole number of `64` bits are read as the number that it is rounded to. -/
theorem isNumeral_repr {n : Nat} (hn : n < 2 ^ 64) :
    IsNumeral (Nat.repr n) (Number.ofNat n) := by
  have hdigits : ∀ c ∈ Nat.toDigits 10 n, isDigit c = true := fun c hc =>
    isDigit_of_mem_toDigits hc
  have hlength : (Nat.repr n).length ≤ 310 := by
    rw [Nat.length_repr_le_iff (by decide)]
    exact hn.trans (by decide +kernel)
  refine ⟨?_, ?_, ?_⟩
  · rw [Nat.toList_repr]
    exact Nat.toDigits_ne_nil
  · rwa [Nat.toList_repr]
  · rw [Nat.toList_repr, Number.read?_digits Nat.toDigits_ne_nil hdigits, digitsValue_toDigits,
      Magnitude.ofDecimal_zero_of_length_le hlength, Number.ofNat]

namespace Text

/-- Digits have no case. -/
theorem lower_repr (n : Nat) : lower (Nat.repr n) = Nat.repr n := by
  have hlower {cs : List Char} (hcs : ∀ c ∈ cs, isDigit c = true) (before : List Char) :
      lowerFrom before cs = cs := by
    induction cs generalizing before with
    | nil => rfl
    | cons c cs ih =>
      have hc := (isDigit_iff c).1 (hcs c List.mem_cons_self)
      rw [lowerFrom, lowerAt_of_lt_letters (by omega),
        ih (fun d hd => hcs d (List.mem_cons_of_mem _ hd)), List.singleton_append]
  have hdigits : ∀ c ∈ (Nat.repr n).toList, isDigit c = true := by
    rw [Nat.toList_repr]
    exact fun c hc => isDigit_of_mem_toDigits hc
  rw [lower, hlower hdigits, String.ofList_toList]

end Text

/-! ## Comparisons of rounded numbers -/

namespace Comparison

/-- Whether whole numbers stand in a comparison. -/
def Between : Comparison → Nat → Nat → Prop
  | less, a, b => a < b
  | greater, a, b => b < a
  | atMost, a, b => a ≤ b
  | atLeast, a, b => b ≤ a

/-- Rounded numbers are compared by their places. -/
theorem holds_ofNat_iff (c : Comparison) (n m : Nat) :
    c.holds (Number.ofNat n) (Number.ofNat m) = true ↔
      c.Between (nearest n 1).rank (nearest m 1).rank := by
  rw [holds_iff_relates]
  cases c <;> simp [Relates, Number.ofNat, Number.order?, Between]

/-- **Whole numbers are compared as they are, unless they are rounded to the same number**, which is
equal to itself. -/
theorem between_rank_iff (c : Comparison) (n m : Nat) :
    c.Between (nearest n 1).rank (nearest m 1).rank ↔
      if nearest n 1 = nearest m 1 then c.Between m m else c.Between n m := by
  split
  · rename_i hsame
    rw [hsame]
    cases c <;> simp [Between]
  · rename_i hne
    have hrank : (nearest n 1).rank ≠ (nearest m 1).rank := by
      intro heq
      exact hne (by rw [← ofRank_rank (nearest n 1), heq, ofRank_rank])
    have hle : n ≤ m → (nearest n 1).rank ≤ (nearest m 1).rank := fun h =>
      rank_nearest_le Nat.one_pos Nat.one_pos (by omega)
    have hge : m ≤ n → (nearest m 1).rank ≤ (nearest n 1).rank := fun h =>
      rank_nearest_le Nat.one_pos Nat.one_pos (by omega)
    have hdifferent : n ≠ m := by
      rintro rfl
      exact hne rfl
    cases c <;> simp only [Between] <;> omega

end Comparison

/-! ## Queries with a whole number -/

section Queries

variable {key : String} {n m : Nat}

/-- The record of an object with a whole number. -/
theorem ofJson?_object_integer (key : String) (n : Nat) :
    Record.ofJson? (.object [(key, .integer n)]) = some [(key, .number (Number.ofNat n))] := by
  simp [Record.ofJson?, Json.toValue?, Number.ofInt, Number.ofNat]

/-- A key, a colon and digits ask for the text of the digits. -/
theorem Tree.ofText_colon_repr (hkey : IsWord key) (hside : Side.ofKey? key = none)
    (hm : m < 2 ^ 64) :
    Tree.ofText {} (key ++ ":" ++ Nat.repr m) = .ok (.field key false (.text (Nat.repr m))) := by
  have hcolon : Spells [':'] .colon := spells_mark (by simp)
  obtain ⟨k, d, l, hlexemes, hk, hd, hl, htext⟩ := ofTextFrom_keyed hkey hcolon
    (by simp; decide) (isNumeral_repr hm).spells (fun _ _ => rfl) 0
  rw [String.ofList_toList] at htext
  have hvalue : IsValue {} [] l (.text (Nat.repr m)) := .number hl (htext ▸ .text rfl)
  refine ofText_of_phrase ?_ (.field .plain hk hd hside hvalue)
  simpa [Lexeme.ofText] using hlexemes

/-- A key, a comparison sign and digits ask for a comparison with the rounded number. -/
theorem Tree.ofText_sign_repr (hkey : IsWord key) (hm : m < 2 ^ 64) (c : Comparison) :
    Tree.ofText {} (key ++ c.sign ++ Nat.repr m) =
      .ok (.number key c false (Number.ofNat m)) := by
  have htext : numberText false key c (Nat.repr m) = key ++ c.sign ++ Nat.repr m := by
    simp [numberText]
  rw [← htext]
  exact ofText_numberText hkey (isNumeral_repr hm) c false

/-- Without regard to case, texts that have none match if they are equal. -/
theorem Matcher.accepts_of_lower {text : String} {v : Value} (htext : Text.lower text = text)
    (hv : Text.lower v.toText = v.toText) :
    (ofLiteral {} (.text text)).accepts v = true ↔ v.toText = text := by
  have hmatcher : ofLiteral {} (.text text) = .lowered (Text.lower text) := rfl
  rw [hmatcher, htext, accepts, hv, beq_iff_eq]

/-- A selection by field takes a record with this field alone if the value is accepted. -/
theorem Tree.predicate_field_singleton (key : String) (literal : Literal) (v : Value)
    (now : Instant) :
    (Tree.field key false literal).predicate {} now [(key, v)] =
      (Matcher.ofLiteral {} literal).accepts v := by
  simp only [predicate, Entries.get?_cons, if_true, Option.any_some, Bool.bne_false]

namespace Query

/-- A selection by text takes the whole numbers with the text of its digits. -/
theorem exists_compile_colon (hkey : IsWord key) (hside : Side.ofKey? key = none)
    (hm : m < 2 ^ 64) (hn : n < 2 ^ 64) :
    ∃ q, compile {} (key ++ ":" ++ Nat.repr m) = .ok q ∧
      ∀ now, q.selects now [(key, .number (Number.ofNat n))] = true ↔
        (Number.ofNat n).text = Nat.repr m := by
  refine ⟨_, by rw [compile, Tree.ofText_colon_repr hkey hside hm], fun now => ?_⟩
  have hlower : Text.lower (Number.ofNat n).text = (Number.ofNat n).text := by
    obtain ⟨w, hw, -, -⟩ := Number.exists_text_ofNat hn
    rw [hw, Text.lower_repr]
  have haccepts := Matcher.accepts_of_lower (v := .number (Number.ofNat n)) (Text.lower_repr m) hlower
  rw [selects]
  dsimp only
  rwa [Tree.predicate_field_singleton]

/-- A selection by comparison takes the whole numbers that stand in it, where those that are rounded to
the same number count as equal. -/
theorem exists_compile_sign (hkey : IsWord key) (hm : m < 2 ^ 64) (c : Comparison) :
    ∃ q, compile {} (key ++ c.sign ++ Nat.repr m) = .ok q ∧
      ∀ now, q.selects now [(key, .number (Number.ofNat n))] = true ↔
        if nearest n 1 = nearest m 1 then c.Between m m else c.Between n m := by
  refine ⟨_, by rw [compile, Tree.ofText_sign_repr hkey hm c], fun now => ?_⟩
  rw [← c.between_rank_iff, ← c.holds_ofNat_iff]
  simp [selects, Tree.predicate, Entries.get?_cons, Value.number?]

/-- **What queries select among whole numbers** of `64` bits in JSON texts, under the standard settings.

A comparison takes the numbers that stand in it, but numbers that are rounded to the same number of
binary floating point count as equal; of different ones that are, none is below `2 ^ 53`. A selection
by text takes a number if the digits are the text of the rounded number. They are then rounded like the
number, and are its own digits if it is at most `2 ^ 53` or they are below.

**Proof sketch.** The object is read as a record with the rounded number (`Json.read_memberText`), and
the digits of the query as another one. Rounding keeps the order (`Comparison.between_rank_iff`), and
the text of a rounded number is that of a number which is rounded in the same way
(`Number.exists_text_ofNat`). -/
theorem selects_wholeNumber (hkey : IsWord key) (hside : Side.ofKey? key = none)
    (hm : m < 2 ^ 64) (hn : n < 2 ^ 64) (now : Instant) :
    ∃ v record, Json.read (Json.memberText key n).toList = .ok v ∧
      Record.ofJson? v = some record ∧
      (∃ q, compile {} (key ++ ":" ++ Nat.repr m) = .ok q ∧
        (q.selects now record = true ↔ (Number.ofNat n).text = Nat.repr m) ∧
        (q.selects now record = true → nearest n 1 = nearest m 1) ∧
        (n ≤ 2 ^ 53 ∨ m < 2 ^ 53 → (q.selects now record = true ↔ m = n))) ∧
      ∀ c : Comparison, ∃ q, compile {} (key ++ c.sign ++ Nat.repr m) = .ok q ∧
        (q.selects now record = true ↔
          if nearest n 1 = nearest m 1 then c.Between m m else c.Between n m) ∧
        (n < 2 ^ 53 ∨ m < 2 ^ 53 ∨ n = m → (q.selects now record = true ↔ c.Between n m)) := by
  refine ⟨_, _, Json.read_memberText hkey hn, ofJson?_object_integer key n, ?_, fun c => ?_⟩
  · obtain ⟨q, hq, hselects⟩ := exists_compile_colon hkey hside hm hn
    obtain ⟨w, hw, hsame, hexact⟩ := Number.exists_text_ofNat hn
    have hdigits : q.selects now [(key, .number (Number.ofNat n))] = true ↔ w = m := by
      rw [hselects, hw, Nat.repr_inj]
    refine ⟨q, hq, hselects now, fun h => ?_, fun hsmall => ?_⟩
    · rw [← hsame, hdigits.1 h]
    · rw [hdigits]
      constructor
      · intro hwm
        rcases hsmall with hn' | hm'
        · rw [← hwm, hexact hn']
        · exact (nearest_eq_nearest_iff (.inl hm')).1 (hwm ▸ hsame)
      · intro hmn
        rw [hexact (by omega), hmn]
  · obtain ⟨q, hq, hselects⟩ := exists_compile_sign hkey hm c
    refine ⟨q, hq, hselects now, fun h => ?_⟩
    rw [hselects]
    split
    · rename_i hsame
      have hnm : n = m := by
        rcases h with h | h | h
        · exact (nearest_eq_nearest_iff (.inl h)).1 hsame
        · exact (nearest_eq_nearest_iff (.inr h)).1 hsame
        · exact h
      rw [hnm]
    · exact Iff.rfl

/-- `2 ^ 53 + 1` is rounded to `2 ^ 53`, and so the digits of `2 ^ 53` take it. -/
theorem selects_wholeNumber_rounded :
    ∃ q v record, compile {} "id:9007199254740992" = .ok q ∧
      Json.read "\x7b\"id\": 9007199254740993\x7d".toList = .ok v ∧
      Record.ofJson? v = some record ∧ q.selects (.ofSeconds 0) record = true := by
  have hkey : IsWord "id" := ⟨by simp, by simp; decide, by simp, by simp; decide⟩
  have hquery : "id" ++ ":" ++ Nat.repr 9007199254740992 = "id:9007199254740992" := by
    decide +kernel
  have hjson : Json.memberText "id" 9007199254740993 = "\x7b\"id\": 9007199254740993\x7d" := by
    decide +kernel
  obtain ⟨v, record, hv, hrecord, ⟨q, hq, hselects, -, -⟩, -⟩ :=
    selects_wholeNumber (m := 9007199254740992) (n := 9007199254740993) hkey (by decide)
      (by decide) (by decide) (.ofSeconds 0)
  rw [hquery] at hq
  rw [hjson] at hv
  exact ⟨q, v, record, hq, hv, hrecord, hselects.2 (by decide +kernel)⟩

/-- The digits of `2 ^ 53 + 1` do not take the number itself. -/
theorem not_selects_wholeNumber_self :
    ∃ q v record, compile {} "k:9007199254740993" = .ok q ∧
      Json.read "\x7b\"k\": 9007199254740993\x7d".toList = .ok v ∧
      Record.ofJson? v = some record ∧ ∀ now, q.selects now record = false := by
  have hkey : IsWord "k" := ⟨by simp, by simp; decide, by simp, by simp; decide⟩
  have hquery : "k" ++ ":" ++ Nat.repr 9007199254740993 = "k:9007199254740993" := by
    decide +kernel
  have hjson : Json.memberText "k" 9007199254740993 = "\x7b\"k\": 9007199254740993\x7d" := by
    decide +kernel
  have hm : 9007199254740993 < 2 ^ 64 := by decide
  obtain ⟨q, hq, hselects⟩ := exists_compile_colon hkey (by decide) hm hm
  have hread := Json.read_memberText hkey hm
  have htext : (Number.ofNat 9007199254740993).text ≠ Nat.repr 9007199254740993 := by
    decide +kernel
  rw [hquery] at hq
  rw [hjson] at hread
  refine ⟨q, _, _, hq, hread, ofJson?_object_integer _ _, fun now => ?_⟩
  exact Bool.eq_false_iff.2 fun h => htext ((hselects now).1 h)

end Query

end Queries

end RecordQuery
