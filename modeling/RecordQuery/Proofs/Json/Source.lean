import RecordQuery.Proofs.Json.Canonical
import RecordQuery.Proofs.Json.Locality

set_option autoImplicit false

/-!
# Texts of JSON values

A JSON value is written as tokens with white space between them. The tokens make a tree: words, numbers and
strings are its leaves, and arrays and objects have their parts in the order of the text. A leaf is a text
that is read as a value when nothing else stands there, and then it is read so wherever it stands.

## Main definitions

* `RecordQuery.Json.Scalar`, `RecordQuery.Json.Label` — tokens that are values, and those that are names.
* `RecordQuery.Json.Source` — the tree of the tokens of a text, with its value and its depth.
* `RecordQuery.Json.Spaced` — a text begins with some tokens and white space.

## Main results

* `RecordQuery.Json.Scalar.reads`, `RecordQuery.Json.Label.reads` — tokens are read wherever they stand.
-/

namespace RecordQuery.Json

/-! ## Tokens that are values -/

/-- A token that is a word, a number or a string: nothing nests in its value, and it is read to its end. -/
structure Scalar where
  text : List Char
  value : Json
  solid : ∀ c ∈ text.head?, Cursor.isSpace c = false
  readsAll : ∃ behind, readValue 0 (Cursor.start text) = .ok (value, behind) ∧ behind.rest = []

/-- A string in front of a colon, with the name that it is read as; `inner` is what follows the opening quote,
and it is read to its end. -/
structure Label where
  inner : List Char
  name : String
  readsAll : ∃ behind, readString [] (Cursor.start inner) = .ok (name, behind) ∧ behind.rest = []

/-- The token of a name. -/
def Label.text (l : Label) : List Char := '"' :: l.inner

/-- How a value is written: its tokens, with the parts of arrays and objects in the order of the text. -/
inductive Source where
  | scalar (s : Scalar)
  | array (items : List Source)
  | object (members : List (Label × Source))

/-- The comma in front of a part, which the first one has not. -/
def comma (first : Bool) : List (List Char) := if first then [] else [[',']]

namespace Source

mutual

/-- The tokens of a value. -/
def tokens : Source → List (List Char)
  | scalar s => [s.text]
  | array items => ['['] :: tokensOfItems true items
  | object members => ['\x7b'] :: tokensOfMembers true members

/-- The tokens of the items of an array, up to its closing bracket. -/
def tokensOfItems (first : Bool) : List Source → List (List Char)
  | [] => [[']']]
  | s :: items => comma first ++ (s.tokens ++ tokensOfItems false items)

/-- The tokens of the members of an object, up to its closing brace. -/
def tokensOfMembers (first : Bool) : List (Label × Source) → List (List Char)
  | [] => [['\x7d']]
  | (l, s) :: members =>
    comma first ++ (l.text :: [':'] :: (s.tokens ++ tokensOfMembers false members))

end

mutual

/-- The value that is written. Of several members of one name the last stays. -/
def value : Source → Json
  | scalar s => s.value
  | array items => .array (values items)
  | object members => .object (Entries.ofList (pairs members))

/-- The values of the items of an array. -/
def values : List Source → List Json
  | [] => []
  | s :: items => s.value :: values items

/-- The members of an object in the order of the text. -/
def pairs : List (Label × Source) → List (String × Json)
  | [] => []
  | (l, s) :: members => (l.name, s.value) :: pairs members

end

mutual

/-- How deep arrays and objects nest, those in members that do not stay among them. -/
def depth : Source → Nat
  | scalar _ => 0
  | array items => depthOfItems items + 1
  | object members => depthOfMembers members + 1

/-- How deep arrays and objects nest in the items of an array. -/
def depthOfItems : List Source → Nat
  | [] => 0
  | s :: items => max s.depth (depthOfItems items)

/-- How deep arrays and objects nest in the members of an object. -/
def depthOfMembers : List (Label × Source) → Nat
  | [] => 0
  | (_, s) :: members => max s.depth (depthOfMembers members)

end

theorem depthOfItems_le_iff {items : List Source} {depth : Nat} :
    depthOfItems items ≤ depth ↔ ∀ s ∈ items, s.depth ≤ depth := by
  induction items with
  | nil => simp [depthOfItems]
  | cons s items ih => rw [depthOfItems, max_le_iff, ih, List.forall_mem_cons]

theorem depthOfMembers_le_iff {members : List (Label × Source)} {depth : Nat} :
    depthOfMembers members ≤ depth ↔ ∀ m ∈ members, m.2.depth ≤ depth := by
  induction members with
  | nil => simp [depthOfMembers]
  | cons m members ih => rw [depthOfMembers, max_le_iff, ih, List.forall_mem_cons]

theorem values_eq (items : List Source) : values items = items.map value := by
  induction items with
  | nil => rfl
  | cons s items ih => rw [values, ih, List.map_cons]

theorem pairs_eq (members : List (Label × Source)) :
    pairs members = members.map fun m => (m.1.name, m.2.value) := by
  induction members with
  | nil => rfl
  | cons m members ih => rw [pairs, ih, List.map_cons]

end Source

/-! ## Tokens and white space -/

/-- A text of white space. -/
def IsGap (gap : List Char) : Prop := ∀ c ∈ gap, Cursor.isSpace c = true

instance (gap : List Char) : Decidable (IsGap gap) :=
  List.decidableBAll _ gap

/-- The text `text` begins with some tokens, each behind white space or none, and `rest` follows them. -/
def Spaced : List (List Char) → List Char → List Char → Prop
  | [], rest, text => text = rest
  | token :: tokens, rest, text =>
    ∃ gap behind, IsGap gap ∧ text = gap ++ (token ++ behind) ∧ Spaced tokens rest behind

theorem spaced_append {tokens more : List (List Char)} {rest text : List Char} :
    Spaced (tokens ++ more) rest text ↔
      ∃ middle, Spaced tokens middle text ∧ Spaced more rest middle := by
  induction tokens generalizing text with
  | nil => simp [Spaced]
  | cons token tokens ih =>
    simp only [List.cons_append, Spaced, ih]
    constructor
    · rintro ⟨gap, behind, hgap, htext, middle, htokens, hmore⟩
      exact ⟨middle, ⟨gap, behind, hgap, htext, htokens⟩, hmore⟩
    · rintro ⟨middle, ⟨gap, behind, hgap, htext, htokens⟩, hmore⟩
      exact ⟨gap, behind, hgap, htext, middle, htokens, hmore⟩

/-- A text of tokens, each behind its own white space. -/
theorem spaced_flatMap (parts : List (List Char × List Char)) (h : ∀ p ∈ parts, IsGap p.1)
    (rest : List Char) :
    Spaced (parts.map (·.2)) rest (parts.flatMap (fun p => p.1 ++ p.2) ++ rest) := by
  induction parts with
  | nil => rfl
  | cons p parts ih =>
    obtain ⟨hp, hparts⟩ := List.forall_mem_cons.1 h
    exact ⟨p.1, _, hp, by simp, ih hparts⟩

/-- White space may stand in front of the first token. -/
theorem Spaced.gap_append {token gap rest text : List Char} {tokens : List (List Char)}
    (hgap : IsGap gap) (h : Spaced (token :: tokens) rest text) :
    Spaced (token :: tokens) rest (gap ++ text) := by
  obtain ⟨gap', behind, hgap', rfl, hbehind⟩ := h
  refine ⟨gap ++ gap', behind, ?_, by rw [List.append_assoc], hbehind⟩
  exact List.forall_mem_append.2 ⟨hgap, hgap'⟩

/-- Behind white space the first token is found. -/
theorem Spaced.exists_skipSpace {c : Char} {cs rest : List Char} {tokens : List (List Char)}
    {k : Cursor} (h : Spaced ((c :: cs) :: tokens) rest k.rest) (hc : Cursor.isSpace c = false) :
    ∃ behind, k.skipSpace.rest = c :: (cs ++ behind) ∧ Spaced tokens rest behind := by
  obtain ⟨gap, behind, hgap, htext, hbehind⟩ := h
  refine ⟨behind, ?_, hbehind⟩
  exact Cursor.rest_skipSpace_of_append hgap (by simpa using hc) (by rw [htext, List.cons_append])

/-- What follows some tokens is left as it is, and anything else may stand there. -/
theorem Spaced.exists_append {tokens : List (List Char)} {rest text : List Char}
    (h : Spaced tokens rest text) :
    ∃ front, text = front ++ rest ∧ ∀ more, Spaced tokens more (front ++ more) := by
  induction tokens generalizing text with
  | nil => exact ⟨[], h, fun _ => rfl⟩
  | cons token tokens ih =>
    obtain ⟨gap, behind, hgap, rfl, hbehind⟩ := h
    obtain ⟨front, rfl, hfront⟩ := ih hbehind
    refine ⟨gap ++ (token ++ front), by simp, fun more => ?_⟩
    exact ⟨gap, front ++ more, hgap, by simp, hfront more⟩

/-- What follows some tokens is no longer than the text. -/
theorem Spaced.length_le {tokens : List (List Char)} {rest text : List Char}
    (h : Spaced tokens rest text) : rest.length ≤ text.length := by
  obtain ⟨front, rfl, -⟩ := h.exists_append
  rw [List.length_append]
  exact Nat.le_add_left _ _

theorem Spaced.length_lt {c : Char} {cs rest text : List Char} {tokens : List (List Char)}
    (h : Spaced ((c :: cs) :: tokens) rest text) : rest.length < text.length := by
  obtain ⟨gap, behind, -, rfl, hbehind⟩ := h
  have hlength := hbehind.length_le
  simp only [List.length_append, List.length_cons]
  omega

/-- A mark behind white space ends a value. -/
theorem Spaced.endsValue {c : Char} {cs rest text : List Char} {tokens : List (List Char)}
    (h : Spaced ((c :: cs) :: tokens) rest text) (hc : c = ',' ∨ c = ']' ∨ c = '\x7d') :
    EndsValue text := by
  obtain ⟨gap, behind, hgap, rfl, -⟩ := h
  intro d hd
  cases gap with
  | nil =>
    obtain rfl : c = d := by simpa using hd
    exact .inr hc
  | cons e gap =>
    obtain rfl : e = d := by simpa using hd
    exact .inl (hgap e List.mem_cons_self)

/-- White space at the end of a text ends a value. -/
theorem IsGap.endsValue {gap : List Char} (h : IsGap gap) : EndsValue gap :=
  fun c hc => .inl (h c (List.mem_of_mem_head? hc))

/-! ## First tokens -/

/-- A token that is a value begins with a character that begins no other token. -/
theorem Scalar.exists_text_eq (s : Scalar) : ∃ c cs, s.text = c :: cs ∧ Cursor.isSpace c = false ∧
    c ∉ [']', '[', '\x7b'] := by
  obtain ⟨behind, hread, -⟩ := s.readsAll
  cases htext : s.text with
  | nil =>
    rw [htext, readValue_nil rfl] at hread
    cases hread
  | cons c cs =>
    have hc : Cursor.isSpace c = false := s.solid c (by rw [htext]; rfl)
    have hskip : (Cursor.start s.text).skipSpace.rest = c :: cs :=
      Cursor.rest_skipSpace_of_cons htext hc
    refine ⟨c, cs, rfl, hc, ?_⟩
    intro hmem
    simp only [List.mem_cons, List.not_mem_nil, or_false] at hmem
    rcases hmem with rfl | hmem
    · rw [readValue_other hskip (by decide) (by decide)] at hread
      cases hread
    · rw [readValue_zero hskip hmem] at hread
      cases hread

/-- The first token of a value is no closing bracket. -/
theorem Source.exists_tokens_eq (s : Source) : ∃ c cs tokens, s.tokens = (c :: cs) :: tokens ∧
    Cursor.isSpace c = false ∧ c ≠ ']' := by
  cases s with
  | scalar s =>
    obtain ⟨c, cs, htext, hc, hmark⟩ := s.exists_text_eq
    refine ⟨c, cs, [], by rw [tokens, htext], hc, ?_⟩
    rintro rfl
    exact hmark (by decide)
  | array items => exact ⟨'[', [], _, by rw [tokens], by decide, by decide⟩
  | object members => exact ⟨'\x7b', [], _, by rw [tokens], by decide, by decide⟩

/-- Nothing nests in a word. -/
theorem depth_of_mem_words {c : Char} {word : List Char} {v : Json} (h : (c, word, v) ∈ words) :
    v.depth = 0 := by
  simp only [words, List.mem_cons, Prod.mk.injEq, List.not_mem_nil, or_false] at h
  rcases h with ⟨-, -, rfl⟩ | ⟨-, -, rfl⟩ | ⟨-, -, rfl⟩ <;> rfl

/-- Nothing nests in a value that is read where nothing may. -/
theorem depth_eq_zero_of_readValue {k behind : Cursor} {v : Json}
    (h : readValue 0 k = .ok (v, behind)) : v.depth = 0 := by
  cases hk : k.skipSpace.rest with
  | nil =>
    rw [readValue_nil hk] at h
    cases h
  | cons c cs =>
    rcases head_cases c with ⟨word, w, hword⟩ | rfl | hdigit | rfl | hnested | ⟨hother, hdigit⟩
    · rw [readValue_word hword hk] at h
      obtain ⟨_, -, h⟩ := Except.map_eq_ok_iff.1 h
      cases h
      exact depth_of_mem_words hword
    · rw [readValue_minus hk] at h
      exact depth_eq_zero_of_readNumber h
    · rw [readValue_digit hk hdigit] at h
      exact depth_eq_zero_of_readNumber h
    · rw [readValue_quote hk] at h
      obtain ⟨_, -, h⟩ := Except.map_eq_ok_iff.1 h
      cases h
      rfl
    · rw [readValue_zero hk hnested] at h
      cases h
    · rw [readValue_other hk hother hdigit] at h
      cases h

/-- The tree of an object is that of its members. -/
theorem Source.exists_members_of_value {s : Source} {entries : Entries Json}
    (h : s.value = .object entries) : ∃ members, s = .object members := by
  cases s with
  | scalar s =>
    obtain ⟨behind, hread, -⟩ := s.readsAll
    have hdepth := depth_eq_zero_of_readValue hread
    rw [value] at h
    rw [h, Json.depth] at hdepth
    cases hdepth
  | array items => cases h
  | object members => exact ⟨members, rfl⟩

/-! ## Tokens wherever they stand -/

/-- **A token that is a value is read as it**, wherever no longer number begins behind it. -/
theorem Scalar.reads (s : Scalar) {rest : List Char} (hrest : EndsNumber rest) (depth : Nat) :
    Reads (readValue depth) s.text rest s.value := by
  intro k hk
  obtain ⟨c, cs, htext, hc, hmark⟩ := s.exists_text_eq
  obtain ⟨behind, hread, hbehind⟩ := s.readsAll
  obtain ⟨raw, hraw, hreads⟩ := reads_of_readValue hread (by rw [hbehind]; exact fun _ h => by cases h)
  have hstart : (Cursor.start s.text).skipSpace.rest = s.text := by
    rw [htext]
    exact Cursor.rest_skipSpace_of_cons rfl hc
  rw [hstart, hbehind, List.append_nil] at hraw
  obtain ⟨last, hlast⟩ := hreads rest hrest k (by rw [hk, hraw])
  have hskip : k.skipSpace.rest = c :: (cs ++ rest) :=
    Cursor.rest_skipSpace_of_cons (by rw [hk, htext, List.cons_append]) hc
  rw [← readValue_eq_readValue_zero hskip fun h => hmark (List.mem_cons_of_mem _ h)] at hlast
  exact ⟨last, hlast⟩

/-- **A name is read** wherever it stands. -/
theorem Label.reads (l : Label) (rest : List Char) : Reads (readString []) l.inner rest l.name := by
  obtain ⟨behind, hread, hbehind⟩ := l.readsAll
  obtain ⟨raw, hraw, hreads⟩ := local_readString [] hread
  rw [hbehind, List.append_nil] at hraw
  obtain rfl : l.inner = raw := hraw
  exact hreads rest

end RecordQuery.Json
