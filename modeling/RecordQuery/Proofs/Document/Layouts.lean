import RecordQuery.Proofs.Document.Faults
import RecordQuery.Proofs.Json.Grammar
import RecordQuery.Text.Split

set_option autoImplicit false

/-!
# One document in two layouts

Objects on lines are read as the same items as the same objects in one array, whatever the endings of the
lines, the blank lines between them and the white space around the brackets are. The depth alone tells the
layouts apart: the array is a level of its own, and what counts is how deep the text nests, with members that
are replaced by later ones and so are in no value.

## Main definitions

* `RecordQuery.Json.NestsWithin` — how deep a text nests.
* `RecordQuery.Document.ObjectLine` — texts of objects that can stand on a line and in an array.
* `RecordQuery.Document.OnLines`, `RecordQuery.Document.InArray` — the two layouts of some texts.

## Main results

* `RecordQuery.Json.nestsWithin_iff` — a text nests as deep as a reader has to go.
* `RecordQuery.Document.read_lines_eq_read_array` — both layouts are read as the same items.
* `RecordQuery.Document.read_array_of_replaced` — members that are replaced count for the depth.
-/

namespace RecordQuery

namespace Json

/-! ## How deep a text nests -/

/-- Arrays and objects nest at most `depth` deep in a text, those in members that do not stay among them. -/
def NestsWithin (depth : Nat) (text : List Char) : Prop :=
  ∃ s : Source, s.Lays text ∧ s.depth ≤ depth

/-- **A text nests no deeper than a reader goes** exactly if the reader comes to its end. -/
theorem nestsWithin_iff {depth : Nat} {text : List Char} : NestsWithin depth text ↔
    ∃ v behind, readValue depth (Cursor.start text) = .ok (v, behind) ∧ IsGap behind.rest := by
  constructor
  · rintro ⟨s, ⟨gap, hgap, hspaced⟩, hdepth⟩
    have hread := obeys_readValue depth s (k := Cursor.start text) hgap.endsValue.endsNumber hspaced
    rw [if_pos hdepth, outcome_eq_some_iff] at hread
    obtain ⟨behind, hread, rfl⟩ := hread
    exact ⟨s.value, behind, hread, hgap⟩
  · rintro ⟨v, behind, hread, hgap⟩
    obtain ⟨s, hdepth, -, hspaced⟩ := finds_readValue depth hread hgap.endsValue
    exact ⟨s, ⟨behind.rest, hgap, hspaced⟩, hdepth⟩

/-! ## Texts of objects and arrays -/

namespace Source

/-- The last token of an object is its closing brace. -/
theorem exists_tokensOfMembers_eq (first : Bool) (members : List (Label × Source)) :
    ∃ tokens, tokensOfMembers first members = tokens ++ [['\x7d']] := by
  induction members generalizing first with
  | nil => exact ⟨[], rfl⟩
  | cons m members ih =>
    obtain ⟨tokens, htokens⟩ := ih false
    refine ⟨comma first ++ (m.1.text :: [':'] :: (m.2.tokens ++ tokens)), ?_⟩
    simp [tokensOfMembers, htokens]

section Lays

variable {members : List (Label × Source)} {text : List Char}

/-- A text of an object begins with a brace behind white space. -/
theorem Lays.exists_opening (h : (object members).Lays text) :
    ∃ gap behind, text = gap ++ '\x7b' :: behind ∧ IsGap gap := by
  obtain ⟨_, -, gap, behind, hgap, rfl, -⟩ := h
  exact ⟨gap, behind, rfl, hgap⟩

/-- A text of an object ends with a brace in front of white space, and it does not matter which. -/
theorem Lays.exists_closing (h : (object members).Lays text) :
    ∃ front gap, text = front ++ '\x7d' :: gap ∧ IsGap gap ∧
      ∀ gap', IsGap gap' → (object members).Lays (front ++ '\x7d' :: gap') := by
  obtain ⟨gap, hgap, hspaced⟩ := h
  obtain ⟨inner, hinner⟩ := exists_tokensOfMembers_eq true members
  have htokens : (object members).tokens = (['\x7b'] :: inner) ++ [['\x7d']] := by
    rw [tokens, hinner, List.cons_append]
  rw [htokens, spaced_append] at hspaced
  obtain ⟨middle, hfront, space, behind, hspace, rfl, rfl⟩ := hspaced
  obtain ⟨front, rfl, hlocal⟩ := hfront.exists_append
  refine ⟨front ++ space, behind, by simp, hgap, fun gap' hgap' => ⟨gap', hgap', ?_⟩⟩
  rw [htokens, spaced_append, List.append_assoc]
  exact ⟨_, hlocal _, space, gap', hspace, rfl, rfl⟩

/-- A text of an object is still one when white space ends its line and the line loses a carriage return. -/
theorem Lays.dropReturn (h : (object members).Lays text) {ending : List Char}
    (hending : IsGap ending) : (object members).Lays (Text.dropReturn (text ++ ending)) := by
  obtain ⟨front, gap, rfl, hgap, hlays⟩ := h.exists_closing
  have hspace : IsGap (gap ++ ending) := List.forall_mem_append.2 ⟨hgap, hending⟩
  rw [List.append_assoc, List.cons_append, Text.dropReturn_append (List.cons_ne_nil _ _),
    Text.dropReturn_cons (by decide)]
  exact hlays _ fun c hc => hspace c (Text.mem_of_mem_dropReturn hc)

/-- A tree is written in front of other tokens as it is alone. -/
theorem Lays.spaced_append {s : Source} (h : s.Lays text) {token rest behind : List Char}
    {tokens : List (List Char)} (hbehind : Spaced (token :: tokens) rest behind) :
    Spaced (s.tokens ++ token :: tokens) rest (text ++ behind) := by
  obtain ⟨gap, hgap, hspaced⟩ := h
  obtain ⟨front, rfl, hfront⟩ := hspaced.exists_append
  rw [List.append_assoc]
  exact Json.spaced_append.2 ⟨_, hfront _, hbehind.gap_append hgap⟩

/-- **Texts with commas between them are the items of an array.** -/
theorem spaced_join {texts : List (List Char)} {sources : List Source}
    (h : List.Forall₂ (fun text s => Lays s text) texts sources) {gap : List Char}
    (hgap : IsGap gap) (rest : List Char) :
    Spaced (tokensOfItems true sources) rest (Text.join ',' texts ++ (gap ++ ']' :: rest)) := by
  have hclosing : Spaced [[']']] rest (gap ++ ']' :: rest) := ⟨gap, rest, hgap, rfl, rfl⟩
  induction h with
  | nil => exact hclosing
  | cons hs htexts ih =>
    cases htexts with
    | nil => exact hs.spaced_append hclosing
    | cons =>
      rw [Text.join, List.append_assoc, List.cons_append]
      exact hs.spaced_append ⟨[], _, List.forall_mem_nil _, rfl, ih⟩

/-- White space may stand in front of the items of an array. -/
theorem spaced_gap_items {sources : List Source} {gap rest : List Char} (hgap : IsGap gap)
    (h : Spaced (tokensOfItems true sources) rest text) :
    Spaced (tokensOfItems true sources) rest (gap ++ text) := by
  cases sources with
  | nil => exact h.gap_append hgap
  | cons s sources =>
    rw [tokensOfItems, comma, if_pos rfl, List.nil_append] at h ⊢
    obtain ⟨middle, hs, hsources⟩ := Json.spaced_append.1 h
    exact Json.spaced_append.2 ⟨middle, spaced_gap hgap hs, hsources⟩

end Lays

end Source

end Json

namespace Document

/-! ## Texts in two layouts -/

/-- A text without line feeds that is read as an object and nests no deeper than it may in an array. -/
structure ObjectLine (text : List Char) : Prop where
  single : '\n' ∉ text
  reads : ∃ v, Json.read text = .ok v ∧ v.IsObject
  nests : Json.NestsWithin 126 text

/-- Texts on lines. Every line ends with a line feed, in front of which a carriage return may stand; the last
one may do without. Blank lines may stand anywhere. -/
inductive OnLines : List (List Char) → List Char → Prop where
  | none {blank : List Char} (hblank : blank.all Text.isBlank = true) (hline : '\n' ∉ blank) :
      OnLines [] blank
  | last (text : List Char) : OnLines [text] text
  | blank {blank rest : List Char} {texts : List (List Char)}
      (hblank : blank.all Text.isBlank = true) (hline : '\n' ∉ blank) (h : OnLines texts rest) :
      OnLines texts (blank ++ '\n' :: rest)
  | line (text : List Char) {ending rest : List Char} {texts : List (List Char)}
      (hending : ending = [] ∨ ending = ['\r']) (h : OnLines texts rest) :
      OnLines (text :: texts) (text ++ (ending ++ '\n' :: rest))

/-- Texts in one array, with white space around its brackets. -/
def InArray (texts : List (List Char)) (content : List Char) : Prop :=
  ∃ front before after back, Json.IsGap front ∧ Json.IsGap before ∧ Json.IsGap after ∧
    Json.IsGap back ∧
      content = front ++ '[' :: (before ++ (Text.join ',' texts ++ (after ++ ']' :: back)))

/-- A text of an object that nests at most `depth` deep, and the item that it is. -/
def Fits (depth : Nat) (text : List Char) (item : Item) : Prop :=
  ∃ members, (Json.Source.object members).Lays text ∧ (Json.Source.object members).depth ≤ depth ∧
    (Json.Source.object members).value = item.json ∧ Record.ofJson? item.json = some item.record

section Fits

variable {depth : Nat} {text : List Char} {item : Item}

theorem ObjectLine.exists_fits (h : ObjectLine text) : ∃ item, Fits 126 text item := by
  obtain ⟨s, hlays, hdepth⟩ := h.nests
  obtain ⟨v, hread, entries, rfl⟩ := h.reads
  obtain ⟨-, hvalue⟩ := hlays.read_eq_ok_iff.1 hread
  obtain ⟨members, rfl⟩ := Json.Source.exists_members_of_value hvalue
  exact ⟨⟨.object entries, _⟩, members, hlays, hdepth, hvalue, rfl⟩

theorem Fits.read_eq (h : Fits depth text item) (hmax : depth ≤ Json.maxDepth) :
    Json.read text = .ok item.json ∧ Record.ofJson? item.json = some item.record := by
  obtain ⟨members, hlays, hdepth, hvalue, hrecord⟩ := h
  exact ⟨hlays.read_eq_ok_iff.2 ⟨hdepth.trans hmax, hvalue⟩, hrecord⟩

/-- The ending of a line changes no item. -/
theorem Fits.dropReturn (h : Fits depth text item) {ending : List Char}
    (hending : ending = [] ∨ ending = ['\r']) :
    Fits depth (Text.dropReturn (text ++ ending)) item := by
  obtain ⟨members, hlays, hitem⟩ := h
  refine ⟨members, hlays.dropReturn ?_, hitem⟩
  rcases hending with rfl | rfl <;> simp [Json.IsGap, Json.Cursor.isSpace]

theorem Fits.exists_opening (h : Fits depth text item) :
    ∃ gap behind, text = gap ++ '\x7b' :: behind ∧ ∀ c ∈ gap, Text.isBlank c = true := by
  obtain ⟨members, hlays, -⟩ := h
  obtain ⟨gap, behind, rfl, hgap⟩ := hlays.exists_opening
  exact ⟨gap, behind, rfl, fun c hc => Json.isBlank_of_isSpace (hgap c hc)⟩

theorem Fits.not_blank (h : Fits depth text item) : text.all Text.isBlank = false := by
  have hbrace : Text.isBlank '\x7b' = false := by decide
  obtain ⟨gap, behind, rfl, -⟩ := h.exists_opening
  simp [hbrace]

theorem Fits.ne_nil (h : Fits depth text item) : text ≠ [] := by
  rintro rfl
  exact absurd h.not_blank (by decide)

end Fits

/-- Texts of objects are items, one by one. -/
theorem exists_forall₂_fits {texts : List (List Char)} (h : ∀ text ∈ texts, ObjectLine text) :
    ∃ items, List.Forall₂ (Fits 126) texts items := by
  induction texts with
  | nil => exact ⟨[], .nil⟩
  | cons text texts ih =>
    obtain ⟨htext, htexts⟩ := List.forall_mem_cons.1 h
    obtain ⟨item, hitem⟩ := htext.exists_fits
    obtain ⟨items, hitems⟩ := ih htexts
    exact ⟨item :: items, .cons hitem hitems⟩

/-! ## Lines -/

/-- A blank line is passed over. -/
theorem filled_lines_blank {blank : List Char} (hblank : blank.all Text.isBlank = true)
    (hline : '\n' ∉ blank) (rest : List Char) :
    filled (Text.lines (blank ++ '\n' :: rest)) = filled (Text.lines rest) := by
  have hall : (Text.dropReturn blank).all Text.isBlank = true :=
    List.all_eq_true.2 fun c hc => List.all_eq_true.1 hblank c (Text.mem_of_mem_dropReturn hc)
  rw [Text.lines_append hline, filled, List.filter_cons_of_neg (by simp [hall]), filled]

/-- **The lines that are not blank are the items**, each with what its ending leaves of it. -/
theorem forall₂_filled_of_onLines {texts : List (List Char)} {content : List Char}
    (h : OnLines texts content) (hsingle : ∀ text ∈ texts, '\n' ∉ text) {depth : Nat}
    {items : List Item} (hitems : List.Forall₂ (Fits depth) texts items) :
    List.Forall₂ (Fits depth) (filled (Text.lines content)) items := by
  induction h generalizing items with
  | @none blank hblank hline =>
    cases hitems
    rcases eq_or_ne blank [] with rfl | hne
    · rw [Text.lines]
      exact .nil
    · rw [Text.lines_of_not_mem hne hline, filled, List.filter_cons_of_neg (by simp [hblank])]
      exact .nil
  | last text =>
    obtain _ | ⟨hitem, ⟨⟩⟩ := hitems
    rw [Text.lines_of_not_mem hitem.ne_nil (hsingle text List.mem_cons_self), filled,
      List.filter_cons_of_pos (by simp [hitem.not_blank])]
    exact .cons hitem .nil
  | blank hblank hline _ ih =>
    rw [filled_lines_blank hblank hline]
    exact ih hsingle hitems
  | @line text ending rest texts hending _ ih =>
    obtain _ | ⟨hitem, hitems⟩ := hitems
    obtain ⟨htext, htexts⟩ := List.forall_mem_cons.1 hsingle
    have hline : '\n' ∉ text ++ ending := by
      rcases hending with rfl | rfl <;> simpa using htext
    have hitem' := hitem.dropReturn hending
    rw [← List.append_assoc, Text.lines_append hline, filled,
      List.filter_cons_of_pos (by simp [hitem'.not_blank])]
    exact .cons hitem' (ih htexts hitems)

/-- Objects on lines do not look like an array. -/
theorem head?_trimStart_of_onLines {texts : List (List Char)} {content : List Char}
    (h : OnLines texts content) {depth : Nat} {items : List Item}
    (hitems : List.Forall₂ (Fits depth) texts items) :
    (Text.trimStart content).head? ≠ some '[' := by
  have hbrace : Text.isBlank '\x7b' = false := by decide
  have htext {text : List Char} {item : Item} (hitem : Fits depth text item) (rest : List Char) :
      (Text.trimStart (text ++ rest)).head? ≠ some '[' := by
    obtain ⟨gap, behind, rfl, hgap⟩ := hitem.exists_opening
    rw [Text.trimStart, List.append_assoc, List.dropWhile_append_of_pos hgap, List.cons_append,
      List.dropWhile_cons_of_neg (by simp [hbrace])]
    simp
  induction h with
  | none hblank =>
    rw [Text.trimStart, List.dropWhile_eq_nil_iff.2 (List.all_eq_true.1 hblank)]
    decide
  | last text =>
    obtain _ | ⟨hitem, -⟩ := hitems
    simpa using htext hitem []
  | blank hblank _ _ ih =>
    rw [Text.trimStart, List.dropWhile_append_of_pos (List.all_eq_true.1 hblank),
      List.dropWhile_cons_of_pos (by decide)]
    exact ih hitems
  | line text =>
    obtain _ | ⟨hitem, -⟩ := hitems
    exact htext hitem _

/-- **Objects on lines are read**, however deep they nest. -/
theorem read_of_onLines {texts : List (List Char)} {content : String}
    (h : OnLines texts content.toList) (hsingle : ∀ text ∈ texts, '\n' ∉ text) {depth : Nat}
    (hmax : depth ≤ Json.maxDepth) {items : List Item}
    (hitems : List.Forall₂ (Fits depth) texts items) : read content = .ok items := by
  obtain ⟨-, -, hlist, -⟩ := readLines_all_or_nothing content.toList
  rw [read_eq, readValues, if_neg (head?_trimStart_of_onLines h hitems), hlist]
  exact (forall₂_filled_of_onLines h hsingle hitems).imp fun _ _ hitem => hitem.read_eq hmax

/-! ## Arrays -/

/-- Items come from the trees of their texts. -/
theorem exists_sources_of_fits {depth : Nat} {texts : List (List Char)} {items : List Item}
    (h : List.Forall₂ (Fits depth) texts items) :
    ∃ sources, List.Forall₂ (fun text s => Json.Source.Lays s text) texts sources ∧
      Json.Source.depthOfItems sources ≤ depth ∧
      Json.Source.values sources = items.map Item.json := by
  induction h with
  | nil => exact ⟨[], .nil, Nat.zero_le _, rfl⟩
  | cons hitem _ ih =>
    obtain ⟨members, hlays, hdepth, hvalue, -⟩ := hitem
    obtain ⟨sources, hsources, hdepths, hvalues⟩ := ih
    refine ⟨.object members :: sources, .cons hlays hsources, max_le hdepth hdepths, ?_⟩
    rw [Json.Source.values, hvalue, hvalues, List.map_cons]

/-- A text in one array is the text of the array. -/
theorem InArray.lays {texts : List (List Char)} {content : List Char} (h : InArray texts content)
    {sources : List Json.Source}
    (hsources : List.Forall₂ (fun text s => Json.Source.Lays s text) texts sources) :
    (Json.Source.array sources).Lays content := by
  obtain ⟨front, before, after, back, hfront, hbefore, hafter, hback, rfl⟩ := h
  exact ⟨back, hback, front, _, hfront, rfl,
    Json.Source.spaced_gap_items hbefore (Json.Source.spaced_join hsources hafter back)⟩

/-- What stands in an array looks like one. -/
theorem InArray.head?_trimStart {texts : List (List Char)} {content : List Char}
    (h : InArray texts content) : (Text.trimStart content).head? = some '[' := by
  have hbracket : Text.isBlank '[' = false := by decide
  obtain ⟨front, before, after, back, hfront, -, -, -, rfl⟩ := h
  rw [Text.trimStart, List.dropWhile_append_of_pos fun c hc => Json.isBlank_of_isSpace (hfront c hc),
    List.dropWhile_cons_of_neg (by simp [hbracket])]
  rfl

/-- **Objects in one array are read** if they leave a level for the array. -/
theorem read_of_inArray {texts : List (List Char)} {content : String}
    (h : InArray texts content.toList) {items : List Item}
    (hitems : List.Forall₂ (Fits 126) texts items) : read content = .ok items := by
  obtain ⟨sources, hsources, hdepth, hvalues⟩ := exists_sources_of_fits hitems
  obtain ⟨-, -, hlist, -⟩ := readList_all_or_nothing h.head?_trimStart
  have hread := hitems.imp fun _ _ hitem => hitem.read_eq (by decide)
  rw [read_eq, readValues, if_pos h.head?_trimStart, hlist]
  refine ⟨(h.lays hsources).read_eq_ok_iff.2 ⟨Nat.succ_le_succ hdepth, ?_⟩,
    (forall₂_item_iff.1 hread).2⟩
  rw [Json.Source.value, hvalues]

/-- **An array is a fault if one of its texts leaves it no level.** -/
theorem exists_read_error_of_inArray {texts : List (List Char)} {content : String}
    (h : InArray texts content.toList) {sources : List Json.Source}
    (hsources : List.Forall₂ (fun text s => Json.Source.Lays s text) texts sources)
    (hdepth : 126 < Json.Source.depthOfItems sources) :
    ∃ fault, read content = .error (.array fault) := by
  obtain ⟨hfault, -⟩ := readList_all_or_nothing h.head?_trimStart
  simp only [read_eq, readValues, if_pos h.head?_trimStart, hfault]
  cases hread : Json.read content.toList with
  | error fault => exact ⟨fault, rfl⟩
  | ok v =>
    obtain ⟨hle, -⟩ := (h.lays hsources).read_eq_ok_iff.1 hread
    exact absurd (Nat.le_of_succ_le_succ hle) (Nat.not_le_of_lt hdepth)

/-! ## Both layouts -/

/-- **Both layouts are read as the same items**, one for each text and in their order: objects on lines, and
the same objects in one array.

**Proof sketch.** Each text is written as the tree of an object (`Json.read_eq_ok_iff`). What the ending of a
line takes from it is white space behind its closing brace (`read_of_onLines`). In an array it is an item,
since white space around a tree is none of it, and the array is one level deeper (`read_of_inArray`). -/
theorem read_lines_eq_read_array {texts : List (List Char)} {lines array : String}
    (htexts : ∀ text ∈ texts, ObjectLine text) (hlines : OnLines texts lines.toList)
    (harray : InArray texts array.toList) :
    ∃ items, read lines = .ok items ∧ read array = .ok items ∧
      List.Forall₂ (fun text item => Json.read text = .ok item.json ∧
        Record.ofJson? item.json = some item.record) texts items := by
  obtain ⟨items, hitems⟩ := exists_forall₂_fits htexts
  refine ⟨items, ?_, read_of_inArray harray hitems, ?_⟩
  · exact read_of_onLines hlines (fun text htext => (htexts text htext).single) (by decide) hitems
  · exact hitems.imp fun _ _ hitem => hitem.read_eq (by decide)

/-- An object with a bracket in a text and one with white space around it, on two lines between blank ones,
with different endings and no last one. -/
theorem read_lines_eq_read_array_endings :
    let texts := ["\x7b\"k\":\"]\"\x7d".toList, " \x7b\"n\":\x7b\x7d\x7d\r".toList]
    let lines := "\u00a0\n\x7b\"k\":\"]\"\x7d\r\n\n \x7b\"n\":\x7b\x7d\x7d\r"
    let array := " [\x7b\"k\":\"]\"\x7d, \x7b\"n\":\x7b\x7d\x7d\r\n]\t"
    (∀ text ∈ texts, ObjectLine text) ∧ OnLines texts lines.toList ∧ InArray texts array.toList ∧
      ∃ items, read lines = .ok items ∧ read array = .ok items ∧
        List.Forall₂ (fun text item => Json.read text = .ok item.json ∧
          Record.ofJson? item.json = some item.record) texts items := by
  intro texts lines array
  have hfirst : ObjectLine "\x7b\"k\":\"]\"\x7d".toList :=
    ⟨by decide, ⟨_, by cbv, _, rfl⟩, Json.nestsWithin_iff.2 ⟨_, _, by cbv, by decide⟩⟩
  have hsecond : ObjectLine " \x7b\"n\":\x7b\x7d\x7d\r".toList :=
    ⟨by decide, ⟨_, by cbv, _, rfl⟩, Json.nestsWithin_iff.2 ⟨_, _, by cbv, by decide⟩⟩
  have htexts : ∀ text ∈ texts, ObjectLine text :=
    List.forall_mem_cons.2 ⟨hfirst, List.forall_mem_singleton.2 hsecond⟩
  have hlines : OnLines texts lines.toList := by
    have hcut : lines.toList = ['\u00a0'] ++ '\n' :: ("\x7b\"k\":\"]\"\x7d".toList ++
        (['\r'] ++ '\n' :: ([] ++ '\n' :: " \x7b\"n\":\x7b\x7d\x7d\r".toList))) := by decide
    rw [hcut]
    refine .blank (by decide) (by decide) (.line _ (.inr rfl) ?_)
    exact .blank (by decide) (by decide) (.last _)
  have harray : InArray texts array.toList :=
    ⟨[' '], [], ['\n'], ['\t'], by decide, by decide, by decide, by decide, by decide⟩
  exact ⟨htexts, hlines, harray, read_lines_eq_read_array htexts hlines harray⟩

/-! ## Members that are replaced -/

end Document

namespace Json

/-- An empty array in `n` arrays. -/
def Source.nested : Nat → Source
  | 0 => array []
  | n + 1 => array [nested n]

theorem Source.depth_nested (n : Nat) : (nested n).depth = n + 1 := by
  induction n with
  | zero => rfl
  | succ n ih => simp [nested, depth, depthOfItems, ih]

theorem Source.flatten_tokens_nested (n : Nat) :
    (nested n).tokens.flatten = List.replicate (n + 1) '[' ++ List.replicate (n + 1) ']' := by
  induction n with
  | zero => rfl
  | succ n ih =>
    rw [List.replicate_succ, List.replicate_succ' (n := n + 1)]
    simp [nested, tokens, tokensOfItems, comma, ih]

/-- Tokens without white space between them are a text. -/
theorem Source.lays_flatten (s : Source) : s.Lays s.tokens.flatten := by
  have hspaced := spaced_flatMap (s.tokens.map ([], ·)) (by simp [IsGap]) []
  refine ⟨[], List.forall_mem_nil _, ?_⟩
  simpa [List.flatMap_map, List.flatMap_id'] using hspaced

/-- A text of two members of one name, the first of which is `n` arrays in each other and does not stay. -/
def replacingText (n : Nat) : List Char :=
  "\x7b\"a\":".toList ++ (List.replicate n '[' ++ (List.replicate n ']' ++ ",\"a\":1\x7d".toList))

theorem newline_not_mem_replacingText (n : Nat) : '\n' ∉ replacingText n := by
  simp [replacingText]

theorem exists_lays_replacingText (n : Nat) : ∃ members,
    (Source.object members).Lays (replacingText (n + 1)) ∧ (Source.object members).depth = n + 2 ∧
      (Source.object members).value = .object [("a", .integer 1)] := by
  let a : Label := ⟨"a\"".toList, "a", ⟨[], 1, 2⟩, by cbv, rfl⟩
  let one : Scalar := ⟨"1".toList, .integer 1, by rintro _ ⟨⟩; decide, ⟨[], 1, 1⟩, by cbv, rfl⟩
  have htext : (Source.object [(a, .nested n), (a, .scalar one)]).tokens.flatten =
      replacingText (n + 1) := by
    simp [Source.tokens, Source.tokensOfMembers, comma, Label.text, Source.flatten_tokens_nested,
      replacingText, a, one]
  refine ⟨[(a, .nested n), (a, .scalar one)], htext ▸ Source.lays_flatten _, ?_, ?_⟩
  · simp [Source.depth, Source.depthOfMembers, Source.depth_nested]
  · simp [Source.value, Source.pairs, Entries.ofList, Entries.insert, a, one]

end Json

namespace Document

/-- An object of one level whose text nests 127 levels, since its member replaces another one: it is read on a
line, and an array has no room for it. -/
theorem read_array_of_replaced :
    let text := Json.replacingText 126
    let v := Json.object [("a", .integer 1)]
    let array := String.ofList ('[' :: (text ++ [']']))
    '\n' ∉ text ∧ Json.read text = .ok v ∧ v.IsObject ∧ v.depth ≤ 126 ∧
      OnLines [text] (String.ofList text).toList ∧ InArray [text] array.toList ∧
      read (String.ofList text) = .ok [⟨v, [("a", .number (.ofInt 1))]⟩] ∧
      ∃ fault, read array = .error (.array fault) := by
  intro text v array
  obtain ⟨members, hlays, hdepth, hvalue⟩ := Json.exists_lays_replacingText 125
  have hsingle : '\n' ∉ text := Json.newline_not_mem_replacingText 126
  have hlines : OnLines [text] (String.ofList text).toList := by
    rw [String.toList_ofList]
    exact .last text
  have harray : InArray [text] array.toList := by
    rw [String.toList_ofList]
    exact ⟨[], [], [], [], by decide, by decide, by decide, by decide, rfl⟩
  have hfits : Fits 127 text ⟨v, [("a", .number (.ofInt 1))]⟩ :=
    ⟨members, hlays, hdepth.le, hvalue, rfl⟩
  refine ⟨hsingle, (hfits.read_eq le_rfl).1, ⟨_, rfl⟩, by decide, hlines, harray, ?_, ?_⟩
  · exact read_of_onLines hlines (List.forall_mem_singleton.2 hsingle) le_rfl (.cons hfits .nil)
  · refine exists_read_error_of_inArray harray (.cons hlays .nil) ?_
    simp [Json.Source.depthOfItems, hdepth]

end Document

end RecordQuery
