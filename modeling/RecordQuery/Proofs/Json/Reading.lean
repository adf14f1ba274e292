import Mathlib.Tactic.Common
import RecordQuery.Json.Reader
import RecordQuery.Proofs.Entries

set_option autoImplicit false

/-!
# Reading JSON from the front of a text

What a reader makes of the front of a text depends neither on the place where the text stands nor,
as far as the reader does not look ahead, on what follows. So a reader is described by the texts it
reads, what it makes of them and what may follow them, and the text of an array or object is read if
the texts of its parts are.

## Main definitions

* `RecordQuery.Json.Reads` — a reader makes a value of a text wherever some other text follows.
* `RecordQuery.Json.listed` — texts with commas between them.
* `RecordQuery.Json.words` — the words that are values.

## Main results

* `RecordQuery.Json.readValue_cons` — the first character behind white space decides what is read.
* `RecordQuery.Json.exists_readItems`, `RecordQuery.Json.exists_readMembers` — the parts of an array
  or object are read one after the other.
-/

namespace RecordQuery.Json

/-! ## Moving the cursor -/

namespace Cursor

@[simp]
theorem rest_next (k : Cursor) : k.next.rest = k.rest.tail := by
  unfold next
  cases h : k.rest with
  | nil => simp [h]
  | cons c cs => rfl

/-- Behind a character stands what follows it. -/
theorem rest_next_of_cons {k : Cursor} {c : Char} {cs : List Char} (h : k.rest = c :: cs) :
    k.next.rest = cs := by
  rw [rest_next, h, List.tail_cons]

@[simp]
theorem rest_skip (n : Nat) (k : Cursor) : (skip n k).rest = k.rest.drop n := by
  induction n generalizing k with
  | zero => rfl
  | succ n ih => rw [skip, ih, rest_next, List.drop_tail]

theorem rest_skipSpace (k : Cursor) : k.skipSpace.rest = k.rest.dropWhile isSpace := by
  have h := congrArg (List.drop (k.rest.takeWhile isSpace).length)
    (List.takeWhile_append_dropWhile (p := isSpace) (l := k.rest))
  rw [List.drop_left] at h
  rw [skipSpace, rest_skip, h]

/-- White space is passed over up to the first other character. -/
theorem rest_skipSpace_of_append {k : Cursor} {gap text : List Char}
    (hgap : ∀ c ∈ gap, isSpace c = true) (htext : ∀ c ∈ text.head?, isSpace c = false)
    (h : k.rest = gap ++ text) : k.skipSpace.rest = text := by
  rw [rest_skipSpace, h, List.dropWhile_append_of_pos hgap]
  cases text with
  | nil => rfl
  | cons c cs => simp [htext c rfl]

/-- Nothing is passed over in front of a character that is not white space. -/
theorem rest_skipSpace_of_cons {k : Cursor} {c : Char} {cs : List Char} (h : k.rest = c :: cs)
    (hc : isSpace c = false) : k.skipSpace.rest = c :: cs :=
  rest_skipSpace_of_append (List.forall_mem_nil _) (by simpa using hc) h

/-- What white space is passed over up to is none. -/
theorem isSpace_of_rest_skipSpace {k : Cursor} {c : Char} {cs : List Char}
    (h : k.skipSpace.rest = c :: cs) : isSpace c = false := by
  rw [rest_skipSpace] at h
  simpa [h] using List.head?_dropWhile_not isSpace k.rest

/-- Behind white space there is no more of it. -/
theorem skipSpace_skipSpace (k : Cursor) : k.skipSpace.skipSpace = k.skipSpace := by
  have hnone : k.skipSpace.rest.takeWhile isSpace = [] := by
    cases hk : k.skipSpace.rest with
    | nil => rfl
    | cons c cs => simp [isSpace_of_rest_skipSpace hk]
  rw [skipSpace, hnone]
  rfl

end Cursor

/-! ## What is read from a text -/

section Reads

variable {α : Type}

/-- `reader` makes `a` of `text` wherever `rest` follows, and leaves `rest`. -/
def Reads (reader : Cursor → Except Fault (α × Cursor)) (text rest : List Char) (a : α) : Prop :=
  ∀ k : Cursor, k.rest = text ++ rest → ∃ behind, reader k = .ok (a, behind) ∧ behind.rest = rest

end Reads

/-- A word is read. -/
theorem exists_readWord {word rest : List Char} {k : Cursor} (h : k.rest = word ++ rest) :
    ∃ behind, readWord word k = .ok behind ∧ behind.rest = rest := by
  induction word generalizing k with
  | nil => exact ⟨k, rfl, h⟩
  | cons c word ih =>
    rw [List.cons_append] at h
    simp only [readWord, h, if_true]
    exact ih (by simp [h])

/-! ## The first character of a value -/

section Head

variable {depth : Nat} {k : Cursor} {c : Char} {cs : List Char}

/-- The words that are values, behind their first characters. -/
def words : List (Char × List Char × Json) :=
  [('n', "ull".toList, .null), ('t', "rue".toList, .bool true), ('f', "alse".toList, .bool false)]

/-- What a value can begin with. -/
theorem head_cases (c : Char) : (∃ word v, (c, word, v) ∈ words) ∨ c = '-' ∨ isDigit c = true ∨
    c = '"' ∨ (c = '[' ∨ c = '\x7b') ∨
      c ∉ ['n', 't', 'f', '-', '"', '[', '\x7b'] ∧ isDigit c = false := by
  simp only [words, List.mem_cons, List.not_mem_nil, or_false, not_or, ← Bool.not_eq_true, Prod.mk.injEq]
  by_cases hword : c = 'n' ∨ c = 't' ∨ c = 'f'
  · left
    rcases hword with rfl | rfl | rfl <;> simp
  · tauto

theorem readValue_nil (h : k.skipSpace.rest = []) :
    readValue depth k = .error (k.skipSpace.here .endInValue) := by
  unfold readValue
  simp only [h]

/-- The first character behind white space decides what is read. -/
theorem readValue_cons (h : k.skipSpace.rest = c :: cs) : readValue depth k =
    if c = 'n' then (readWord "ull".toList k.skipSpace.next).map fun k => (.null, k)
    else if c = 't' then (readWord "rue".toList k.skipSpace.next).map fun k => (.bool true, k)
    else if c = 'f' then (readWord "alse".toList k.skipSpace.next).map fun k => (.bool false, k)
    else if c = '-' then readNumber true k.skipSpace.next
    else if isDigit c then readNumber false k.skipSpace
    else if c = '"' then (readString [] k.skipSpace.next).map fun r => (.string r.1, r.2)
    else if c = '[' then
      match depth with
      | 0 => .error (k.skipSpace.ahead .tooDeep)
      | depth + 1 =>
        (readItems (readValue depth) true [] k.skipSpace.next).map fun r => (.array r.1, r.2)
    else if c = '\x7b' then
      match depth with
      | 0 => .error (k.skipSpace.ahead .tooDeep)
      | depth + 1 =>
        (readMembers (readValue depth) true [] k.skipSpace.next).map fun r => (.object r.1, r.2)
    else .error (k.skipSpace.ahead .expectedValue) := by
  cases depth <;> (unfold readValue; simp only [h])

theorem readValue_word {word : List Char} {v : Json} (hword : (c, word, v) ∈ words)
    (h : k.skipSpace.rest = c :: cs) :
    readValue depth k = (readWord word k.skipSpace.next).map fun k => (v, k) := by
  rw [readValue_cons h]
  simp only [words, List.mem_cons, Prod.mk.injEq, List.not_mem_nil, or_false] at hword
  rcases hword with ⟨rfl, rfl, rfl⟩ | ⟨rfl, rfl, rfl⟩ | ⟨rfl, rfl, rfl⟩ <;> simp

theorem readValue_quote (h : k.skipSpace.rest = '"' :: cs) : readValue depth k =
    (readString [] k.skipSpace.next).map fun r => (.string r.1, r.2) := by
  simp [readValue_cons h, isDigit]

theorem readValue_bracket (h : k.skipSpace.rest = '[' :: cs) : readValue (depth + 1) k =
    (readItems (readValue depth) true [] k.skipSpace.next).map fun r => (.array r.1, r.2) := by
  simp [readValue_cons h, isDigit]

theorem readValue_brace (h : k.skipSpace.rest = '\x7b' :: cs) : readValue (depth + 1) k =
    (readMembers (readValue depth) true [] k.skipSpace.next).map fun r => (.object r.1, r.2) := by
  simp [readValue_cons h, isDigit]

/-- No array or object is read where none may nest. -/
theorem readValue_zero (h : k.skipSpace.rest = c :: cs) (hc : c = '[' ∨ c = '\x7b') :
    readValue 0 k = .error (k.skipSpace.ahead .tooDeep) := by
  rw [readValue_cons h]
  rcases hc with rfl | rfl <;> simp [isDigit]

/-- Where nothing nests, it does not matter how deep values may nest. -/
theorem readValue_eq_readValue_zero (h : k.skipSpace.rest = c :: cs) (hc : c ∉ ['[', '\x7b']) :
    readValue depth k = readValue 0 k := by
  simp only [List.mem_cons, List.not_mem_nil, or_false, not_or] at hc
  simp only [readValue_cons h, hc, if_false]

theorem readValue_other (h : k.skipSpace.rest = c :: cs)
    (hc : c ∉ ['n', 't', 'f', '-', '"', '[', '\x7b']) (hdigit : isDigit c = false) :
    readValue depth k = .error (k.skipSpace.ahead .expectedValue) := by
  simp only [List.mem_cons, List.not_mem_nil, or_false, not_or] at hc
  simp [readValue_cons h, hc, hdigit]

end Head

/-! ## The marks between parts -/

/-- The closing bracket of an array is found behind white space. -/
theorem nextItem_finished {k : Cursor} {gap rest : List Char}
    (hgap : ∀ c ∈ gap, Cursor.isSpace c = true) (h : k.rest = gap ++ ']' :: rest) (first : Bool) :
    ∃ behind, nextItem first k = .ok (.finished behind) ∧ behind.rest = rest := by
  have hskip := Cursor.rest_skipSpace_of_append hgap (by simp; decide) h
  exact ⟨k.skipSpace.next, by simp only [nextItem, hskip], by simp [hskip]⟩

/-- The closing brace of an object is found behind white space. -/
theorem nextMember_finished {k : Cursor} {gap rest : List Char}
    (hgap : ∀ c ∈ gap, Cursor.isSpace c = true) (h : k.rest = gap ++ '\x7d' :: rest)
    (first : Bool) :
    ∃ behind, nextMember first k = .ok (.finished behind) ∧ behind.rest = rest := by
  have hskip := Cursor.rest_skipSpace_of_append hgap (by simp; decide) h
  exact ⟨k.skipSpace.next, by simp only [nextMember, hskip], by simp [hskip]⟩

/-- The comma in front of a part, which the first one has not. -/
def separator (first : Bool) : List Char := if first then [] else [',']

/-- One more item of an array is found behind a comma and white space. -/
theorem nextItem_another {k : Cursor} {gap cs : List Char} {c : Char} {first : Bool}
    (hgap : ∀ c ∈ gap, Cursor.isSpace c = true) (hspace : Cursor.isSpace c = false) (hc : c ≠ ']')
    (h : k.rest = separator first ++ (gap ++ c :: cs)) :
    ∃ start, nextItem first k = .ok (.another start) ∧ start.rest = c :: cs := by
  have hhead : ∀ d ∈ (c :: cs).head?, Cursor.isSpace d = false := by simpa using hspace
  cases first with
  | true =>
    have hskip := Cursor.rest_skipSpace_of_append hgap hhead h
    refine ⟨k.skipSpace, ?_, hskip⟩
    simp only [nextItem, hskip]
    split <;> simp_all
  | false =>
    have hskip := Cursor.rest_skipSpace_of_cons h (by decide)
    have hnext : k.skipSpace.next.skipSpace.rest = c :: cs :=
      Cursor.rest_skipSpace_of_append hgap hhead (by simp [hskip])
    refine ⟨k.skipSpace.next.skipSpace, ?_, hnext⟩
    simp only [nextItem, hskip]
    simp [hnext, hc]

/-- One more member of an object is found behind a comma and white space. -/
theorem nextMember_another {k : Cursor} {gap cs : List Char} {first : Bool}
    (hgap : ∀ c ∈ gap, Cursor.isSpace c = true)
    (h : k.rest = separator first ++ (gap ++ '"' :: cs)) :
    ∃ start, nextMember first k = .ok (.another start) ∧ start.rest = cs := by
  have hhead : ∀ d ∈ ('"' :: cs).head?, Cursor.isSpace d = false := by simp; decide
  cases first with
  | true =>
    have hskip := Cursor.rest_skipSpace_of_append hgap hhead h
    exact ⟨k.skipSpace.next, by simp [nextMember, hskip], by simp [hskip]⟩
  | false =>
    have hskip := Cursor.rest_skipSpace_of_cons h (by decide)
    have hnext : k.skipSpace.next.skipSpace.rest = '"' :: cs :=
      Cursor.rest_skipSpace_of_append hgap hhead (by simp [hskip])
    exact ⟨k.skipSpace.next.skipSpace.next, by simp [nextMember, hskip, hnext], by simp [hnext]⟩

/-! ## One part after the other -/

/-- Texts with commas between them, each behind `gap`, and `ending` behind them all. -/
def listed (gap ending : List Char) (first : Bool) : List (List Char) → List Char
  | [] => ending
  | text :: texts => separator first ++ (gap ++ (text ++ listed gap ending false texts))

/-- No character that would make a number longer comes first. -/
def EndsNumber (rest : List Char) : Prop :=
  ∀ c ∈ rest.head?, isDigit c = false ∧ c ≠ '.' ∧ c ≠ 'e' ∧ c ≠ 'E'

/-- Behind a text that is listed stands nothing that would make a number longer. -/
theorem endsNumber_listed (gap : List Char) {ending : List Char} (h : EndsNumber ending)
    (texts : List (List Char)) : EndsNumber (listed gap ending false texts) := by
  cases texts with
  | nil => exact h
  | cons text texts => simp [EndsNumber, listed, separator]; decide

section Parts

variable {value : Cursor → Except Fault (Json × Cursor)} {gap ending rest : List Char}

/-- **The items of an array are read one after the other** if each of them is read where no longer
number begins.

**Proof sketch.** Induction on the items. The text of an item is not empty, so every step leaves
less text. -/
theorem exists_readItems {write : Json → List Char} (hgap : ∀ c ∈ gap, Cursor.isSpace c = true)
    (hending : ∀ c ∈ ending, Cursor.isSpace c = true)
    (hends : EndsNumber (ending ++ ']' :: rest)) {items : List Json}
    (hhead : ∀ v ∈ items, ∃ c cs, write v = c :: cs ∧ Cursor.isSpace c = false ∧ c ≠ ']')
    (hvalue : ∀ v ∈ items, ∀ b, EndsNumber b → Reads value (write v) b v) {first : Bool}
    {k : Cursor} (hk : k.rest = listed gap (ending ++ ']' :: rest) first (items.map write)) (read : List Json) :
    ∃ behind, readItems value first read k = .ok (read.reverse ++ items, behind) ∧
      behind.rest = rest := by
  induction items generalizing first read k with
  | nil =>
    obtain ⟨behind, hnext, hrest⟩ := nextItem_finished hending hk first
    exact ⟨behind, by rw [readItems, hnext]; simp, hrest⟩
  | cons v items ih =>
    obtain ⟨c, cs, hwrite, hspace, hc⟩ := hhead v List.mem_cons_self
    rw [List.map_cons, listed] at hk
    obtain ⟨start, hnext, hstart⟩ : ∃ start, nextItem first k = .ok (.another start) ∧
        start.rest = write v ++ listed gap (ending ++ ']' :: rest) false (items.map write) := by
      rw [hwrite, List.cons_append] at hk ⊢
      exact nextItem_another hgap hspace hc hk
    obtain ⟨behind, hread, hbehind⟩ := hvalue v List.mem_cons_self _
      (endsNumber_listed gap hends (items.map write)) start hstart
    have hless : behind.rest.length < k.rest.length := by
      rw [hbehind, hk, hwrite]
      simp
      omega
    obtain ⟨last, hitems, hlast⟩ := ih (fun w hw => hhead w (List.mem_cons_of_mem _ hw))
      (fun w hw => hvalue w (List.mem_cons_of_mem _ hw)) hbehind (v :: read)
    refine ⟨last, ?_, hlast⟩
    rw [readItems, hnext]
    simp only [hread, hless, if_true, hitems, List.reverse_cons, List.append_assoc,
      List.singleton_append]

/-- An entry is inserted behind all names before its own. -/
theorem insert_eq_append {α : Type} {entries : Entries α} {name : String} (a : α)
    (h : ∀ e ∈ entries, e.1 < name) : Entries.insert name a entries = entries ++ [(name, a)] := by
  induction entries with
  | nil => rfl
  | cons e entries ih =>
    have he := h e List.mem_cons_self
    simp [Entries.insert, not_lt_of_gt he, ne_of_gt he,
      ih fun d hd => h d (List.mem_cons_of_mem _ hd)]

/-- **The members of an object are read one after the other** if their names ascend and each of them
is read where no longer number begins. -/
theorem exists_readMembers {write : String × Json → List Char}
    (hgap : ∀ c ∈ gap, Cursor.isSpace c = true) (hending : ∀ c ∈ ending, Cursor.isSpace c = true)
    (hends : EndsNumber (ending ++ '\x7d' :: rest)) {members read : Entries Json}
    (hmember : ∀ m ∈ members, ∀ b, EndsNumber b → Reads (readMember value) (write m) b m)
    (hascending : Entries.Ascending (read ++ members)) {first : Bool} {k : Cursor}
    (hk : k.rest = listed gap (ending ++ '\x7d' :: rest) first
      (members.map fun m => '"' :: write m)) :
    ∃ behind, readMembers value first read k = .ok (read ++ members, behind) ∧
      behind.rest = rest := by
  induction members generalizing first read k with
  | nil =>
    obtain ⟨behind, hnext, hrest⟩ := nextMember_finished hending hk first
    exact ⟨behind, by rw [readMembers, hnext]; simp, hrest⟩
  | cons m members ih =>
    rw [List.map_cons, listed, List.cons_append] at hk
    obtain ⟨start, hnext, hstart⟩ := nextMember_another hgap hk
    obtain ⟨behind, hread, hbehind⟩ := hmember m List.mem_cons_self _
      (endsNumber_listed gap hends _) start hstart
    have hless : behind.rest.length < k.rest.length := by
      rw [hbehind, hk]
      simp
      omega
    have hinsert : Entries.insert m.1 m.2 read = read ++ [m] :=
      insert_eq_append m.2 fun e he =>
        (List.pairwise_append.1 hascending).2.2 e he m List.mem_cons_self
    have hsplit : read ++ m :: members = read ++ [m] ++ members := by simp
    rw [hsplit] at hascending ⊢
    obtain ⟨last, hmembers, hlast⟩ := ih (fun n hn => hmember n (List.mem_cons_of_mem _ hn))
      hascending hbehind
    refine ⟨last, ?_, hlast⟩
    rw [readMembers, hnext]
    simp only [hread, hless, if_true, hinsert, hmembers]

end Parts

end RecordQuery.Json
