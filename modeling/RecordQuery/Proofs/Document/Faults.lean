import Mathlib
import RecordQuery.Document.Reading
import RecordQuery.Proofs.Except
import RecordQuery.Proofs.Json.Reading
import RecordQuery.Proofs.Text.Blank
import RecordQuery.Proofs.Text.Lines

set_option autoImplicit false

/-!
# Faults of documents

A document is read as a whole or not at all. What is wrong with it is said of the first line that is no JSON,
with the number that the line has in the text; only if there is none, of the first value that is no object,
with the number that it has among the values. A document that is an array is one JSON text, whose fault is
its own.

## Main definitions

* `RecordQuery.Behind` — what stands in a list behind elements of one kind.
* `RecordQuery.Document.filled` — the lines that are not blank.
* `RecordQuery.Document.FirstOther` — the number of the first value that is no object.

## Main results

* `RecordQuery.Document.readLines_eq_ok_iff`, `RecordQuery.Document.readLines_eq_error_iff` — what lines are
  read as, and which of them is reported.
* `RecordQuery.Json.read_eq_map_readList` — an array is read like any other value.
* `RecordQuery.Document.read_all_or_nothing` — what a document comes to, in every case.
-/

namespace RecordQuery

/-! ## The first element of another kind -/

section Behind

variable {α : Type} {P : α → Prop} {l : List α} {n : Nat} {a b : α}

/-- `a` stands in a list behind `n` elements, all of which are `P`. -/
def Behind (P : α → Prop) (l : List α) (n : Nat) (a : α) : Prop :=
  ∃ before after, l = before ++ a :: after ∧ before.length = n ∧ ∀ b ∈ before, P b

theorem not_behind_nil : ¬Behind P [] n a := by
  rintro ⟨before, after, h, -⟩
  simp at h

theorem behind_cons_iff :
    Behind P (b :: l) n a ↔ n = 0 ∧ a = b ∨ P b ∧ ∃ m, n = m + 1 ∧ Behind P l m a := by
  constructor
  · rintro ⟨before, after, h, rfl, hbefore⟩
    cases before with
    | nil => exact .inl ⟨rfl, (List.cons.inj h).1.symm⟩
    | cons c before =>
      obtain ⟨rfl, rfl⟩ := List.cons.inj h
      obtain ⟨hb, hbefore⟩ := List.forall_mem_cons.1 hbefore
      exact .inr ⟨hb, before.length, rfl, before, after, rfl, rfl, hbefore⟩
  · rintro (⟨rfl, rfl⟩ | ⟨hb, m, rfl, before, after, rfl, rfl, hbefore⟩)
    · exact ⟨[], l, rfl, rfl, List.forall_mem_nil _⟩
    · exact ⟨b :: before, after, rfl, rfl, List.forall_mem_cons.2 ⟨hb, hbefore⟩⟩

end Behind

/-! ## Values that are objects -/

/-- A value is an object. -/
def Json.IsObject (v : Json) : Prop := ∃ members, v = .object members

theorem Record.ofJson?_eq_none_iff {v : Json} : Record.ofJson? v = none ↔ ¬v.IsObject := by
  cases v <;> simp [Record.ofJson?, Json.IsObject]

namespace Document

/-- Items are values with the records that they are. -/
theorem itemsOf_eq_ok_iff {number : Nat} {values : List Json} {items : List Item} :
    itemsOf number values = .ok items ↔ items.map Item.json = values ∧
      ∀ item ∈ items, Record.ofJson? item.json = some item.record := by
  induction values generalizing number items with
  | nil =>
    rw [itemsOf, List.map_eq_nil_iff]
    constructor
    · intro h
      cases h
      exact ⟨rfl, List.forall_mem_nil _⟩
    · rintro ⟨rfl, -⟩
      rfl
  | cons v values ih =>
    rw [itemsOf]
    constructor
    · intro h
      split at h
      · cases h
      · rename_i record hrecord
        obtain ⟨rest, hrest, rfl⟩ := Except.map_eq_ok_iff.1 h
        obtain ⟨rfl, hall⟩ := ih.1 hrest
        exact ⟨rfl, List.forall_mem_cons.2 ⟨hrecord, hall⟩⟩
    · rintro ⟨hvalues, hall⟩
      obtain ⟨item, rest, rfl, rfl, rfl⟩ := List.map_eq_cons_iff.1 hvalues
      obtain ⟨hitem, hrest⟩ := List.forall_mem_cons.1 hall
      rw [hitem]
      dsimp only
      rw [ih.2 ⟨rfl, hrest⟩]
      rfl

/-- The first of some values that is no object has this number; they are counted from one. -/
def FirstOther (number : Nat) (values : List Json) : Prop :=
  ∃ n v, number = n + 1 ∧ Behind Json.IsObject values n v ∧ ¬v.IsObject

/-- **Of the values that are no objects the first is reported.** -/
theorem itemsOf_eq_error_iff {number : Nat} {values : List Json} {fault : Fault} :
    itemsOf number values = .error fault ↔ ∃ n v, fault = .notAnObject (number + n) ∧
      Behind Json.IsObject values n v ∧ ¬v.IsObject := by
  induction values generalizing number with
  | nil => simp [itemsOf, not_behind_nil]
  | cons u values ih =>
    rw [itemsOf]
    simp only [behind_cons_iff]
    cases hrecord : Record.ofJson? u with
    | none =>
      have hu : ¬u.IsObject := Record.ofJson?_eq_none_iff.1 hrecord
      constructor
      · intro h
        cases h
        exact ⟨0, u, rfl, .inl ⟨rfl, rfl⟩, hu⟩
      · rintro ⟨n, v, rfl, ⟨rfl, rfl⟩ | ⟨hobject, -⟩, -⟩
        · rfl
        · exact absurd hobject hu
    | some record =>
      have hu : u.IsObject := by
        rw [← not_not (a := u.IsObject), ← Record.ofJson?_eq_none_iff, hrecord]
        simp
      simp only [Except.map_eq_error_iff, ih]
      constructor
      · rintro ⟨n, v, rfl, hv, hother⟩
        exact ⟨n + 1, v, by rw [Nat.add_right_comm, Nat.add_assoc], .inr ⟨hu, n, rfl, hv⟩, hother⟩
      · rintro ⟨n, v, rfl, ⟨rfl, rfl⟩ | ⟨-, m, rfl, hv⟩, hother⟩
        · exact absurd hu hother
        · exact ⟨m, v, by rw [Nat.add_right_comm, Nat.add_assoc], hv, hother⟩

theorem itemsOf_one_eq_error_iff {number : Nat} {values : List Json} :
    itemsOf 1 values = .error (.notAnObject number) ↔ FirstOther number values := by
  simp [itemsOf_eq_error_iff, FirstOther, Nat.add_comm]

/-- Values that are read are no fault of a line or of an array. -/
theorem exists_notAnObject_of_itemsOf {number : Nat} {values : List Json} {fault : Fault}
    (h : itemsOf number values = .error fault) : ∃ n, fault = .notAnObject n := by
  obtain ⟨n, v, rfl, -⟩ := itemsOf_eq_error_iff.1 h
  exact ⟨_, rfl⟩

/-! ## Lines -/

/-- The lines that are not blank. -/
def filled (lines : List (List Char)) : List (List Char) :=
  lines.filter fun line => !line.all Text.isBlank

theorem mem_filled {lines : List (List Char)} {line : List Char} :
    line ∈ filled lines ↔ line ∈ lines ∧ line.all Text.isBlank = false := by
  rw [filled, List.mem_filter, Bool.not_eq_true']

/-- A line that is passed over or read as a value. -/
def Accepted (line : List Char) : Prop :=
  line.all Text.isBlank = true ∨ ∃ v, Json.read line = .ok v

theorem forall_accepted_iff {lines : List (List Char)} :
    (∀ line ∈ lines, Accepted line) ↔ ∀ line ∈ filled lines, ∃ v, Json.read line = .ok v := by
  simp only [mem_filled, and_imp, Accepted, or_iff_not_imp_left, Bool.not_eq_true]

/-- The first line of a text that is neither blank nor JSON has this number and this fault. The number of a
line is one more than the number of line feeds in front of it. -/
def FirstUnread (number : Nat) (fault : Json.Fault) (text : List Char) : Prop :=
  ∃ front rest line after, text = front ++ rest ∧ Text.EndsLine front ∧
    number = front.count '\n' + 1 ∧ (∀ l ∈ filled (Text.lines front), ∃ v, Json.read l = .ok v) ∧
    Text.lines rest = line :: after ∧ line.all Text.isBlank = false ∧ Json.read line = .error fault

/-- A line that is reported is the first one of its text. -/
theorem firstUnread_iff {number : Nat} {fault : Json.Fault} {text : List Char} :
    FirstUnread number fault text ↔ ∃ n line, number = n + 1 ∧
      Behind Accepted (Text.lines text) n line ∧ line.all Text.isBlank = false ∧
        Json.read line = .error fault := by
  constructor
  · rintro ⟨front, rest, line, after, rfl, hfront, rfl, hbefore, hrest, hline⟩
    refine ⟨_, line, rfl, ⟨Text.lines front, after, ?_, Text.length_lines hfront, ?_⟩, hline⟩
    · rw [Text.lines_append_of_endsLine hfront, hrest]
    · exact forall_accepted_iff.2 hbefore
  · rintro ⟨n, line, rfl, ⟨before, after, hlines, rfl, hbefore⟩, hline⟩
    obtain ⟨front, rest, rfl, hfront, rfl, hrest⟩ :=
      Text.exists_append_of_lines_eq hlines (List.cons_ne_nil _ _)
    exact ⟨front, rest, line, after, rfl, hfront, by rw [Text.length_lines hfront],
      forall_accepted_iff.1 hbefore, hrest, hline⟩

/-- **The lines that are not blank are the values**, if all of them are read. -/
theorem readLines_eq_ok_iff {number : Nat} {lines : List (List Char)} {values : List Json} :
    readLines number lines = .ok values ↔
      List.Forall₂ (fun line v => Json.read line = .ok v) (filled lines) values := by
  induction lines generalizing number values with
  | nil => simp [readLines, filled, eq_comm]
  | cons line lines ih =>
    rw [readLines]
    split
    · rename_i hblank
      rw [ih, filled, filled, List.filter_cons_of_neg (by simpa using hblank)]
    · rename_i hblank
      rw [filled, List.filter_cons_of_pos (by simpa using hblank), ← filled,
        List.forall₂_cons_left_iff]
      split
      · rename_i fault hread
        simp [hread]
      · rename_i v hread
        simp only [Except.map_eq_ok_iff, ih, hread, Except.ok.injEq]
        constructor
        · rintro ⟨rest, hrest, rfl⟩
          exact ⟨v, rest, rfl, hrest, rfl⟩
        · rintro ⟨w, rest, rfl, hrest, rfl⟩
          exact ⟨rest, hrest, rfl⟩

/-- **Of the lines that are no JSON the first is reported**, with its own fault; blank lines count. -/
theorem readLines_eq_error_iff {number : Nat} {lines : List (List Char)} {fault : Fault} :
    readLines number lines = .error fault ↔ ∃ n line cause, fault = .line (number + n) cause ∧
      Behind Accepted lines n line ∧ line.all Text.isBlank = false ∧
        Json.read line = .error cause := by
  induction lines generalizing number with
  | nil => simp [readLines, not_behind_nil]
  | cons l lines ih =>
    rw [readLines]
    simp only [behind_cons_iff]
    have hpassed (haccepted : Accepted l) (hother : ¬(l.all Text.isBlank = false ∧
        ∃ cause, Json.read l = .error cause)) :
        readLines (number + 1) lines = .error fault ↔ ∃ n line cause,
          fault = .line (number + n) cause ∧
          (n = 0 ∧ line = l ∨ Accepted l ∧ ∃ m, n = m + 1 ∧ Behind Accepted lines m line) ∧
          line.all Text.isBlank = false ∧ Json.read line = .error cause := by
      rw [ih]
      constructor
      · rintro ⟨n, line, cause, rfl, hline, hread⟩
        exact ⟨n + 1, line, cause, by rw [Nat.add_right_comm, Nat.add_assoc],
          .inr ⟨haccepted, n, rfl, hline⟩, hread⟩
      · rintro ⟨n, line, cause, rfl, ⟨rfl, rfl⟩ | ⟨-, m, rfl, hline⟩, hblank, hread⟩
        · exact absurd ⟨hblank, cause, hread⟩ hother
        · exact ⟨m, line, cause, by rw [Nat.add_right_comm, Nat.add_assoc], hline, hblank, hread⟩
    split
    · rename_i hblank
      exact hpassed (.inl hblank) (by simp [hblank])
    rename_i hblank
    split
    · rename_i cause hread
      constructor
      · intro h
        cases h
        exact ⟨0, l, cause, rfl, .inl ⟨rfl, rfl⟩, by simpa using hblank, hread⟩
      · rintro ⟨n, line, cause', rfl, ⟨rfl, rfl⟩ | ⟨hblank' | ⟨v, hv⟩, -⟩, -, hread'⟩
        · rw [hread] at hread'
          cases hread'
          rfl
        · exact absurd hblank' hblank
        · rw [hread] at hv
          cases hv
    · rename_i v hread
      rw [Except.map_eq_error_iff]
      exact hpassed (.inr ⟨v, hread⟩) (by simp [hread])

end Document

/-! ## Arrays -/

namespace Json

/-- The white space of JSON is white space. -/
theorem isBlank_of_isSpace {c : Char} (h : Cursor.isSpace c = true) : Text.isBlank c = true := by
  simp only [Cursor.isSpace, Bool.or_eq_true, decide_eq_true_eq] at h
  rcases h with ((rfl | rfl) | rfl) | rfl <;> decide

/-- White space that is none in JSON begins no value. -/
theorem readValue_of_isBlank {depth : Nat} {k : Cursor} {c : Char} {cs : List Char}
    (hk : k.skipSpace.rest = c :: cs) (hc : Text.isBlank c = true) :
    readValue depth k = .error (k.skipSpace.ahead .expectedValue) := by
  refine readValue_other hk (fun hmem => ?_) ?_
  · have hsolid : ['n', 't', 'f', '-', '"', '[', '\x7b'].all (!Text.isBlank ·) = true := by decide
    have hc' := List.all_eq_true.1 hsolid c hmem
    rw [hc] at hc'
    cases hc'
  · by_contra hdigit
    rw [Text.isBlank_of_isDigit (by simpa using hdigit)] at hc
    cases hc

/-- White space is passed over up to the first character that is none. -/
theorem head?_of_trimStart {text cs : List Char} {c : Char}
    (hcs : text.dropWhile Cursor.isSpace = c :: cs) (hc : Text.isBlank c = false) :
    (Text.trimStart text).head? = some c := by
  have htext := List.takeWhile_append_dropWhile (p := Cursor.isSpace) (l := text)
  rw [hcs] at htext
  rw [← htext, Text.trimStart, List.dropWhile_append_of_pos, List.dropWhile_cons_of_neg]
  · rfl
  · simp [hc]
  · exact fun d hd => isBlank_of_isSpace (List.mem_takeWhile_imp hd)

/-- **A text that begins with a bracket is read as an array is**, with the same faults, though other white
space than that of JSON may stand in front of the bracket. -/
theorem read_eq_map_readList {text : List Char} (h : (Text.trimStart text).head? = some '[') :
    read text = (readList text).map .array := by
  unfold read readList
  cases hk : (Cursor.start text).skipSpace.rest with
  | nil =>
    simp only [readValue_nil hk, hk]
    rfl
  | cons c cs =>
    by_cases hc : c = '['
    · subst hc
      rw [maxDepth, readValue_bracket hk]
      simp only [hk]
      cases readItems (readValue 126) true [] (Cursor.start text).skipSpace.next with
      | error fault => rfl
      | ok r =>
        change (readEnd r.2).bind _ = ((readEnd r.2).bind _).map _
        cases readEnd r.2 <;> rfl
    · have hblank : Text.isBlank c = true := by
        by_contra hblank
        have hrest : text.dropWhile Cursor.isSpace = c :: cs :=
          (Cursor.rest_skipSpace (Cursor.start text)).symm.trans hk
        rw [head?_of_trimStart hrest (by simpa using hblank)] at h
        exact hc (Option.some.inj h)
      simp only [readValue_of_isBlank hk hblank, hk]
      split
      · rename_i hnil
        cases hnil
      · rename_i hcons
        exact absurd (List.cons.inj hcons).1 hc
      · rfl

end Json

/-! ## Documents -/

namespace Document

/-- Values that are items: each has the record that it is. -/
theorem forall₂_item_iff {lines : List (List Char)} {items : List Item} :
    List.Forall₂ (fun line item => Json.read line = .ok item.json ∧
        Record.ofJson? item.json = some item.record) lines items ↔
      List.Forall₂ (fun line v => Json.read line = .ok v) lines (items.map Item.json) ∧
        ∀ item ∈ items, Record.ofJson? item.json = some item.record := by
  induction items generalizing lines with
  | nil => simp
  | cons item items ih =>
    cases lines with
    | nil => simp
    | cons line lines =>
      simp only [List.map_cons, List.forall₂_cons, List.forall_mem_cons, ih]
      tauto

/-- The values of a document are read first, and its items behind them. -/
theorem read_eq (content : String) :
    read content = (readValues content.toList).bind (itemsOf 1) := by
  unfold read
  cases readValues content.toList <;> rfl

/-- What a document on lines comes to. -/
theorem readLines_all_or_nothing (text : List Char) :
    (∀ number fault, (readLines 1 (Text.lines text)).bind (itemsOf 1) =
        .error (.line number fault) ↔ FirstUnread number fault text) ∧
      (∀ number, (readLines 1 (Text.lines text)).bind (itemsOf 1) =
        .error (.notAnObject number) ↔ ∃ values, List.Forall₂
          (fun line v => Json.read line = .ok v) (filled (Text.lines text)) values ∧
            FirstOther number values) ∧
      (∀ items, (readLines 1 (Text.lines text)).bind (itemsOf 1) = .ok items ↔
        List.Forall₂ (fun line item => Json.read line = .ok item.json ∧
          Record.ofJson? item.json = some item.record) (filled (Text.lines text)) items) ∧
      ∀ fault, (readLines 1 (Text.lines text)).bind (itemsOf 1) ≠ .error (.array fault) := by
  refine ⟨fun number fault => ?_, fun number => ?_, fun items => ?_, fun fault h => ?_⟩
  · rw [Except.bind_eq_error_iff, readLines_eq_error_iff, firstUnread_iff]
    constructor
    · rintro (⟨n, line, cause, heq, hline⟩ | ⟨values, -, hitems⟩)
      · cases heq
        exact ⟨n, line, Nat.add_comm _ _, hline⟩
      · obtain ⟨n, heq⟩ := exists_notAnObject_of_itemsOf hitems
        cases heq
    · rintro ⟨n, line, rfl, hline⟩
      exact .inl ⟨n, line, fault, by rw [Nat.add_comm], hline⟩
  · simp only [Except.bind_eq_error_iff, readLines_eq_ok_iff, itemsOf_one_eq_error_iff]
    refine or_iff_right fun h => ?_
    obtain ⟨n, line, cause, heq, -⟩ := readLines_eq_error_iff.1 h
    cases heq
  · simp only [Except.bind_eq_ok_iff, readLines_eq_ok_iff, itemsOf_eq_ok_iff, forall₂_item_iff]
    constructor
    · rintro ⟨values, hvalues, rfl, hrecords⟩
      exact ⟨hvalues, hrecords⟩
    · rintro ⟨hvalues, hrecords⟩
      exact ⟨_, hvalues, rfl, hrecords⟩
  · rcases Except.bind_eq_error_iff.1 h with h | ⟨values, -, h⟩
    · obtain ⟨n, line, cause, heq, -⟩ := readLines_eq_error_iff.1 h
      cases heq
    · obtain ⟨n, heq⟩ := exists_notAnObject_of_itemsOf h
      cases heq

/-- What a document comes to that begins with a bracket. -/
theorem readList_all_or_nothing {text : List Char}
    (h : (Text.trimStart text).head? = some '[') :
    (∀ fault, ((Json.readList text).mapError Fault.array).bind (itemsOf 1) =
        .error (.array fault) ↔ Json.read text = .error fault) ∧
      (∀ number, ((Json.readList text).mapError Fault.array).bind (itemsOf 1) =
        .error (.notAnObject number) ↔
          ∃ values, Json.read text = .ok (.array values) ∧ FirstOther number values) ∧
      (∀ items, ((Json.readList text).mapError Fault.array).bind (itemsOf 1) = .ok items ↔
        Json.read text = .ok (.array (items.map Item.json)) ∧
          ∀ item ∈ items, Record.ofJson? item.json = some item.record) ∧
      ∀ number fault, ((Json.readList text).mapError Fault.array).bind (itemsOf 1) ≠
        .error (.line number fault) := by
  rw [Json.read_eq_map_readList h]
  cases Json.readList text with
  | error fault => simp [Except.mapError, Except.bind, Except.map]
  | ok values =>
    have hbind : ((Except.ok values).mapError Fault.array).bind (itemsOf 1) = itemsOf 1 values := rfl
    rw [hbind]
    refine ⟨fun fault => ?_, fun number => ?_, fun items => ?_, fun number fault h => ?_⟩
    · refine iff_of_false (fun h => ?_) (fun h => by cases h)
      obtain ⟨n, heq⟩ := exists_notAnObject_of_itemsOf h
      cases heq
    · simp [itemsOf_one_eq_error_iff, Except.map]
    · simp only [itemsOf_eq_ok_iff, Except.map, Except.ok.injEq, Json.array.injEq,
        eq_comm (a := values)]
    · obtain ⟨n, heq⟩ := exists_notAnObject_of_itemsOf h
      cases heq

/-- **A document is read as a whole or not at all**, and what is reported is the first thing that is wrong. In
a document on lines these are the lines that are no JSON, or else the values that are no objects; of such a
line the number in the text is told, of such a value the number among the lines that are not blank. Otherwise
every line that is not blank is one item. In a document that begins with a bracket it is the fault of the text
as a whole, or else the first element that is no object; otherwise every element is one item.

**Proof sketch.** The lines are read in one pass and the values turned into records in another, so that what
is wrong with a value is told only if all lines are read. A bracket leaves nothing but an array to be read
(`Json.read_eq_map_readList`). -/
theorem read_all_or_nothing (content : String) :
    ((Text.trimStart content.toList).head? ≠ some '[' →
      (∀ number fault, read content = .error (.line number fault) ↔
        FirstUnread number fault content.toList) ∧
      (∀ number, read content = .error (.notAnObject number) ↔ ∃ values,
        List.Forall₂ (fun line v => Json.read line = .ok v) (filled (Text.lines content.toList))
          values ∧ FirstOther number values) ∧
      (∀ items, read content = .ok items ↔
        List.Forall₂ (fun line item => Json.read line = .ok item.json ∧
          Record.ofJson? item.json = some item.record) (filled (Text.lines content.toList)) items) ∧
      ∀ fault, read content ≠ .error (.array fault)) ∧
    ((Text.trimStart content.toList).head? = some '[' →
      (∀ fault, read content = .error (.array fault) ↔ Json.read content.toList = .error fault) ∧
      ((∃ fault, read content = .error (.array fault)) ↔
        ¬∃ values, Json.read content.toList = .ok (.array values)) ∧
      (∀ number, read content = .error (.notAnObject number) ↔
        ∃ values, Json.read content.toList = .ok (.array values) ∧ FirstOther number values) ∧
      (∀ items, read content = .ok items ↔
        Json.read content.toList = .ok (.array (items.map Item.json)) ∧
          ∀ item ∈ items, Record.ofJson? item.json = some item.record) ∧
      ∀ number fault, read content ≠ .error (.line number fault)) := by
  refine ⟨fun hlines => ?_, fun harray => ?_⟩
  · rw [read_eq, readValues, if_neg hlines]
    exact readLines_all_or_nothing content.toList
  · obtain ⟨hfault, hother, hitems, hline⟩ := readList_all_or_nothing harray
    rw [read_eq, readValues, if_pos harray]
    refine ⟨hfault, ?_, hother, hitems, hline⟩
    simp only [hfault, Json.read_eq_map_readList harray]
    cases Json.readList content.toList <;> simp [Except.map]

/-- A line that is no JSON is reported though one that is no object stands in front of it, and its number
counts the blank line; the number of a value that is no object does not, and is that of an element where the
document is an array. -/
theorem read_all_or_nothing_mixed :
    FirstUnread 4 ⟨.expectedWord, 1, 2⟩ "\x7b\x7d\n[1]\n \nnope\n2".toList ∧
      (∃ values, List.Forall₂ (fun line v => Json.read line = .ok v)
        (filled (Text.lines "\x7b\x7d\n\n[1]\n2".toList)) values ∧ FirstOther 2 values) ∧
      ∃ values, Json.read " [\x7b\x7d, 1, 2]".toList = .ok (.array values) ∧
        FirstOther 2 values := by
  refine ⟨?_, ?_, ?_⟩
  · obtain ⟨hline, -⟩ := (read_all_or_nothing "\x7b\x7d\n[1]\n \nnope\n2").1 (by decide)
    exact (hline 4 ⟨.expectedWord, 1, 2⟩).1 (by cbv)
  · obtain ⟨-, hother, -⟩ := (read_all_or_nothing "\x7b\x7d\n\n[1]\n2").1 (by decide)
    exact (hother 2).1 (by cbv)
  · obtain ⟨-, -, hother, -⟩ := (read_all_or_nothing " [\x7b\x7d, 1, 2]").2 (by cbv)
    exact (hother 2).1 (by cbv)

end Document

end RecordQuery
