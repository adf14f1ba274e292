import Mathlib
import RecordQuery.Document.Selection
import RecordQuery.Proofs.Document.Faults
import RecordQuery.Proofs.Json.RoundTrip

set_option autoImplicit false

/-!
# Documents written and read back

What a query writes is a document again, in either layout: reading it gives the items that were
selected, with the same records, so that the same query selects all of them and writes the same
document once more.

## Main definitions

* `RecordQuery.Item.Rereadable` — items that are read back from what is written for them.

## Main results

* `RecordQuery.Document.read_toText` — a document is read back from its text.
* `RecordQuery.Query.read_writeSelection` — what a query writes, it reads back.
-/

namespace RecordQuery

/-! ## Items -/

/-- Items that are read back from what is written for them. -/
structure Item.Rereadable (item : Item) : Prop where
  canonical : item.json.Canonical
  record_eq : Record.ofJson? item.json = some item.record
  readsBack : ∀ x ∈ item.json.decimals, Json.ReadsBack x
  depth_le : item.json.depth ≤ Json.maxDepth - 1

namespace Document

/-- The values on lines are canonical. -/
theorem canonical_of_readLines {number : Nat} {lines : List (List Char)} {values : List Json}
    (h : readLines number lines = .ok values) : ∀ v ∈ values, v.Canonical := by
  induction lines generalizing number values with
  | nil =>
    cases h
    exact List.forall_mem_nil _
  | cons line lines ih =>
    rw [readLines] at h
    split at h
    · exact ih h
    split at h
    · cases h
    · rename_i v hv
      obtain ⟨rest, hrest, rfl⟩ := Except.map_eq_ok_iff.1 h
      exact List.forall_mem_cons.2 ⟨Json.canonical_of_read hv, ih hrest⟩

/-- The values of a document are canonical. -/
theorem canonical_of_readValues {content : List Char} {values : List Json}
    (h : readValues content = .ok values) : ∀ v ∈ values, v.Canonical := by
  rw [readValues] at h
  split at h
  · cases hlist : Json.readList content with
    | error fault =>
      rw [hlist] at h
      cases h
    | ok items =>
      rw [hlist] at h
      cases h
      exact Json.canonical_of_readList hlist
  · exact canonical_of_readLines h

/-- The items of a document are canonical values with the records that they are. -/
theorem canonical_of_read {content : String} {items : List Item} (h : read content = .ok items) :
    ∀ item ∈ items, item.json.Canonical ∧ Record.ofJson? item.json = some item.record := by
  rw [read] at h
  split at h
  · cases h
  · rename_i values hvalues
    obtain ⟨rfl, hrecords⟩ := itemsOf_eq_ok_iff.1 h
    exact fun item hitem => ⟨canonical_of_readValues hvalues _ (List.mem_map_of_mem hitem),
      hrecords item hitem⟩

/-! ## Documents -/

/-- The text of an item begins and ends with a brace. -/
theorem exists_write_eq {item : Item} (h : item.Rereadable) :
    ∃ inner, item.json.write = '\x7b' :: inner ++ ['\x7d'] := by
  have hrecord := h.record_eq
  unfold Record.ofJson? at hrecord
  split at hrecord
  · rename_i members heq
    exact ⟨Json.writeMembers members, by rw [heq, Json.write]⟩
  · cases hrecord

/-- The text of an array lists the texts of its items. -/
theorem writeItems_append (first : Bool) (values : List Json) (ending : List Char) :
    Layout.writeItems first values ++ ending =
      Json.listed ['\n', ' ', ' '] ending first (values.map Json.write) := by
  induction values generalizing first with
  | nil => rfl
  | cons v values ih =>
    cases first <;> simp [Layout.writeItems, Json.listed, Json.separator, ih]

/-- An array of items is read back. -/
theorem readList_write {items : List Item} (h : ∀ item ∈ items, item.Rereadable) :
    Json.readList (Layout.array.write (items.map Item.json)) = .ok (items.map Item.json) := by
  have htext : Layout.array.write (items.map Item.json) =
      '[' :: Json.listed ['\n', ' ', ' '] (['\n'] ++ ']' :: ['\n']) true
        ((items.map Item.json).map Json.write) := by
    rw [← writeItems_append]
    rfl
  have hgap : ∀ c ∈ ['\n', ' ', ' '], Json.Cursor.isSpace c = true := by
    simp [Json.Cursor.isSpace]
  have hending : ∀ c ∈ ['\n'], Json.Cursor.isSpace c = true := by simp [Json.Cursor.isSpace]
  have hends : Json.EndsNumber (['\n'] ++ ']' :: ['\n']) := by simp [Json.EndsNumber]; decide
  generalize Layout.array.write (items.map Item.json) = text at htext ⊢
  have hskip : (Json.Cursor.start text).skipSpace.rest = _ :=
    Json.Cursor.rest_skipSpace_of_cons htext (by decide)
  have hstart : (Json.Cursor.start text).skipSpace.next.rest = _ :=
    (Json.Cursor.rest_next _).trans (congrArg List.tail hskip)
  obtain ⟨behind, hread, hbehind⟩ := Json.exists_readItems hgap hending hends
    (List.forall_mem_map.2 fun item hitem => Json.exists_write_eq_cons (h item hitem).readsBack)
    (List.forall_mem_map.2 fun item hitem b hb =>
      (h item hitem).canonical.reads (h item hitem).depth_le (h item hitem).readsBack hb) hstart []
  have hend : Json.readEnd behind = .ok () := by
    simp only [Json.readEnd, Json.Cursor.rest_skipSpace, hbehind]
    rfl
  unfold Json.readList
  simp only [hskip, hread, hend, bind, Except.bind, pure, Except.pure, List.reverse_nil,
    List.nil_append]

/-- Items on lines are read back. -/
theorem readLines_write {items : List Item} (h : ∀ item ∈ items, item.Rereadable) (number : Nat) :
    readLines number (Text.lines (Layout.lines.write (items.map Item.json))) =
      .ok (items.map Item.json) := by
  induction items generalizing number with
  | nil => simp [Layout.write, Text.lines, readLines]
  | cons item items ih =>
    obtain ⟨hitem, hitems⟩ := List.forall_mem_cons.1 h
    obtain ⟨inner, hwrite⟩ := exists_write_eq hitem
    have htext : Layout.lines.write ((item :: items).map Item.json) =
        item.json.write ++ '\n' :: Layout.lines.write (items.map Item.json) := by
      simp [Layout.write]
    have hline : Text.dropReturn item.json.write = item.json.write := by
      rw [hwrite]
      exact Text.dropReturn_concat (by decide) _
    have hblank : item.json.write.all Text.isBlank = false := by
      have hbrace : Text.isBlank '\x7b' = false := by decide
      simp [hwrite, hbrace]
    have hread : Json.read item.json.write = .ok item.json :=
      hitem.canonical.read_write (hitem.depth_le.trans (Nat.sub_le _ _)) hitem.readsBack
    rw [htext, Text.lines_append hitem.canonical.newline_not_mem_write, hline, readLines,
      if_neg (by simp [hblank]), hread]
    dsimp only
    rw [ih hitems]
    rfl

/-- The layout that was written is recognized, and the values are read back. -/
theorem readValues_write {items : List Item} (h : ∀ item ∈ items, item.Rereadable)
    (layout : Layout) :
    readValues (layout.write (items.map Item.json)) = .ok (items.map Item.json) := by
  cases layout with
  | array =>
    have hbracket : Text.isBlank '[' = false := by decide
    rw [readValues, if_pos, readList_write h]
    · rfl
    · simp [Layout.write, Text.trimStart, hbracket]
  | lines =>
    rw [readValues, if_neg, readLines_write h]
    cases items with
    | nil => simp [Layout.write, Text.trimStart]
    | cons item items =>
      obtain ⟨inner, hwrite⟩ := exists_write_eq (List.forall_mem_cons.1 h).1
      have hbrace : Text.isBlank '\x7b' = false := by decide
      simp [Layout.write, Text.trimStart, hwrite, hbrace]

/-- **A document is read back from its text**, in either layout. -/
theorem read_toText {items : List Item} (h : ∀ item ∈ items, item.Rereadable) (layout : Layout) :
    read (layout.toText (items.map Item.json)) = .ok items := by
  rw [read, Layout.toText, String.toList_ofList, readValues_write h]
  exact itemsOf_eq_ok_iff.2 ⟨rfl, fun item hitem => (h item hitem).record_eq⟩

end Document

/-! ## Selections -/

namespace Query

/-- **What a query writes, it reads back.** Of every document whose numbers are read back and whose
items leave one level for an array around them, the query reads what it has selected, item by item
and with the same records, in either layout. So it selects all of it, and writes the same document
again. -/
theorem read_writeSelection {content : String} {items : List Item}
    (hread : Document.read content = .ok items)
    (hnumbers : ∀ item ∈ items, ∀ x ∈ item.json.decimals, Json.ReadsBack x)
    (hdepth : ∀ item ∈ items, item.json.depth ≤ 126) (q : Query) (now : Instant)
    (layout : Layout) :
    Document.read (q.writeSelection now layout items) = .ok (q.selection now items) ∧
      q.selection now (q.selection now items) = q.selection now items ∧
      q.filterDocument now layout (q.writeSelection now layout items) =
        .ok (q.writeSelection now layout items) := by
  have hitems : ∀ item ∈ q.selection now items, item.Rereadable := by
    intro item hselected
    have hitem : item ∈ items := List.mem_of_mem_filter hselected
    obtain ⟨hcanonical, hrecord⟩ := Document.canonical_of_read hread item hitem
    exact ⟨hcanonical, hrecord, hnumbers item hitem, hdepth item hitem⟩
  have hagain : Document.read (q.writeSelection now layout items) = .ok (q.selection now items) :=
    Document.read_toText hitems layout
  have hall : q.selection now (q.selection now items) = q.selection now items := by
    simp [selection]
  refine ⟨hagain, hall, ?_⟩
  rw [filterDocument, hagain]
  simp [Except.map, writeSelection, hall]

/-- A document on lines, with a text of two lines, a zero with a sign and two members of one name in
the item that a query selects. -/
theorem read_writeSelection_lines :
    let content :=
      "\x7b\"k\":1,\"n\":-0,\"k\":\"a\\nb\",\"a\":[null,-7,\x7b\x7d]\x7d\n\n\x7b\"k\":\"c\"\x7d"
    let zero : Number := .real true Magnitude.zero
    let selected : Item :=
      ⟨.object [("a", .array [.null, .integer (-7), .object []]), ("k", .string "a\nb"),
          ("n", .decimal zero)],
        [("a", .text "[null,-7,\x7b\x7d]"), ("k", .text "a\nb"), ("n", .number zero)]⟩
    let items : List Item :=
      [selected, ⟨.object [("k", .string "c")], [("k", .text "c")]⟩]
    let q : Query := ⟨"k:\"a\nb\"", (Tree.field "k" false (.text "a\nb")).predicate {}, []⟩
    let now : Instant := ⟨0, 0, 0, by decide⟩
    Document.read content = .ok items ∧
      (∀ item ∈ items, ∀ x ∈ item.json.decimals, Json.ReadsBack x) ∧
      (∀ item ∈ items, item.json.depth ≤ 126) ∧
      Document.read (q.writeSelection now .lines items) = .ok (q.selection now items) ∧
      q.selection now (q.selection now items) = q.selection now items ∧
      q.filterDocument now .lines (q.writeSelection now .lines items) =
        .ok (q.writeSelection now .lines items) ∧
      q.selection now items = [selected] := by
  intro content zero selected items q now
  have hread : Document.read content = .ok items := by cbv
  have hnumbers : ∀ item ∈ items, ∀ x ∈ item.json.decimals, Json.ReadsBack x := by
    have hdecimals : ∀ item ∈ items, ∀ x ∈ item.json.decimals, x = zero := by
      simp [items, selected, Json.decimals, Json.decimalsOfItems, Json.decimalsOfMembers]
    intro item hitem x hx
    rw [hdecimals item hitem x hx]
    exact Json.readsBack_zero
  have hdepth : ∀ item ∈ items, item.json.depth ≤ 126 := by
    simp [items, selected, Json.depth, Json.depthOfItems, Json.depthOfMembers]
  obtain ⟨hagain, hall, hwrite⟩ := read_writeSelection hread hnumbers hdepth q now .lines
  exact ⟨hread, hnumbers, hdepth, hagain, hall, hwrite, by cbv⟩

end Query

end RecordQuery
