import RecordQuery.Proofs.Json.Source

set_option autoImplicit false

/-!
# Reading what is written

What is read from a text depends on the tree of its tokens alone, and not on the white space between them: it
is the value of the tree if the tree nests no deeper than the reader goes, and a fault otherwise. And nothing
else is read: wherever a value comes of a text, the text is written as a tree with this value says.

## Main definitions

* `RecordQuery.Json.outcome` — what a reader makes of a text and what it leaves of it.
* `RecordQuery.Json.Source.Lays` — a text is written as a tree says.

## Main results

* `RecordQuery.Json.obeys_readValue` — what is read where a tree is written.
* `RecordQuery.Json.finds_readValue` — what is written where a value is read.
* `RecordQuery.Json.Source.Lays.read_eq_ok_iff`, `RecordQuery.Json.read_eq_ok_iff` — both for whole texts.
-/

namespace RecordQuery.Json

variable {α β : Type}

/-! ## What a reader comes to -/

/-- What a reader comes to: what it makes of the text and what it leaves of it, if it is no fault. -/
def outcome (r : Except Fault (α × Cursor)) : Option (α × List Char) :=
  r.toOption.map fun p => (p.1, p.2.rest)

theorem outcome_eq_some_iff {r : Except Fault (α × Cursor)} {a : α} {rest : List Char} :
    outcome r = some (a, rest) ↔ ∃ behind, r = .ok (a, behind) ∧ behind.rest = rest := by
  cases r with
  | error fault => simp [outcome, Except.toOption]
  | ok p =>
    obtain ⟨b, k⟩ := p
    simp [outcome, Except.toOption]

theorem outcome_eq_none_iff {r : Except Fault (α × Cursor)} :
    outcome r = none ↔ ∃ fault, r = .error fault := by
  cases r <;> simp [outcome, Except.toOption]

theorem outcome_map (r : Except Fault (α × Cursor)) (f : α → β) :
    outcome (r.map fun p => (f p.1, p.2)) = (outcome r).map fun p => (f p.1, p.2) := by
  cases r <;> rfl

/-! ## Parts of arrays and objects -/

theorem Cursor.length_skipSpace_le (k : Cursor) : k.skipSpace.rest.length ≤ k.rest.length := by
  rw [rest_skipSpace]
  exact (List.dropWhile_suffix _).length_le

theorem nextItem_skipSpace (first : Bool) (k : Cursor) :
    nextItem first k.skipSpace = nextItem first k := by
  unfold nextItem
  rw [Cursor.skipSpace_skipSpace]

theorem nextMember_skipSpace (first : Bool) (k : Cursor) :
    nextMember first k.skipSpace = nextMember first k := by
  unfold nextMember
  rw [Cursor.skipSpace_skipSpace]

/-- A part is found behind its comma and white space. -/
theorem Spaced.exists_separator {first : Bool} {c : Char} {cs rest : List Char}
    {tokens : List (List Char)} {k : Cursor} (hc : Cursor.isSpace c = false)
    (h : Spaced (comma first ++ (c :: cs) :: tokens) rest k.rest) :
    ∃ gap behind, IsGap gap ∧ k.skipSpace.rest = separator first ++ (gap ++ c :: (cs ++ behind)) ∧
      Spaced tokens rest behind := by
  cases first with
  | true =>
    obtain ⟨behind, hskip, hbehind⟩ := Spaced.exists_skipSpace h hc
    exact ⟨[], behind, List.forall_mem_nil _, hskip, hbehind⟩
  | false =>
    obtain ⟨middle, hskip, gap, behind, hgap, rfl, hbehind⟩ :=
      Spaced.exists_skipSpace h (by decide)
    exact ⟨gap, behind, hgap, hskip, hbehind⟩

theorem Spaced.exists_nextItem {first : Bool} {c : Char} {cs rest : List Char}
    {tokens : List (List Char)} {k : Cursor} (hc : Cursor.isSpace c = false) (hmark : c ≠ ']')
    (h : Spaced (comma first ++ (c :: cs) :: tokens) rest k.rest) :
    ∃ start, nextItem first k = .ok (.another start) ∧ start.rest.length ≤ k.rest.length ∧
      Spaced ((c :: cs) :: tokens) rest start.rest := by
  obtain ⟨gap, behind, hgap, hskip, hbehind⟩ := h.exists_separator hc
  obtain ⟨start, hnext, hstart⟩ := nextItem_another hgap hc hmark hskip
  rw [nextItem_skipSpace] at hnext
  refine ⟨start, hnext, ?_, [], behind, List.forall_mem_nil _, hstart, hbehind⟩
  have hlength := k.length_skipSpace_le
  rw [hskip, ← hstart, List.length_append, List.length_append] at hlength
  omega

theorem Spaced.exists_nextMember {first : Bool} {inner rest : List Char}
    {tokens : List (List Char)} {k : Cursor}
    (h : Spaced (comma first ++ ('"' :: inner) :: tokens) rest k.rest) :
    ∃ start behind, nextMember first k = .ok (.another start) ∧ start.rest = inner ++ behind ∧
      behind.length < k.rest.length ∧ Spaced tokens rest behind := by
  obtain ⟨gap, behind, hgap, hskip, hbehind⟩ := h.exists_separator (by decide)
  obtain ⟨start, hnext, hstart⟩ := nextMember_another hgap hskip
  rw [nextMember_skipSpace] at hnext
  refine ⟨start, behind, hnext, hstart, ?_, hbehind⟩
  have hlength := k.length_skipSpace_le
  simp only [hskip, List.length_append, List.length_cons] at hlength
  omega

theorem Spaced.exists_nextItem_finished {rest : List Char} {k : Cursor}
    (h : Spaced [[']']] rest k.rest) (first : Bool) :
    ∃ behind, nextItem first k = .ok (.finished behind) ∧ behind.rest = rest := by
  obtain ⟨gap, behind, hgap, htext, rfl⟩ := h
  exact nextItem_finished hgap htext first

theorem Spaced.exists_nextMember_finished {rest : List Char} {k : Cursor}
    (h : Spaced [['\x7d']] rest k.rest) (first : Bool) :
    ∃ behind, nextMember first k = .ok (.finished behind) ∧ behind.rest = rest := by
  obtain ⟨gap, behind, hgap, htext, rfl⟩ := h
  exact nextMember_finished hgap htext first

/-- Behind an item stands its comma or the closing bracket. -/
theorem Source.endsValue_of_spaced_items {items : List Source} {rest text : List Char}
    (h : Spaced (tokensOfItems false items) rest text) : EndsValue text := by
  cases items with
  | nil => exact Spaced.endsValue h (.inr (.inl rfl))
  | cons s items => exact Spaced.endsValue h (.inl rfl)

/-- Behind a member stands its comma or the closing brace. -/
theorem Source.endsValue_of_spaced_members {members : List (Label × Source)}
    {rest text : List Char} (h : Spaced (tokensOfMembers false members) rest text) :
    EndsValue text := by
  cases members with
  | nil => exact Spaced.endsValue h (.inr (.inr rfl))
  | cons m members => exact Spaced.endsValue h (.inl rfl)

/-! ## What is read where a tree is written -/

section Outcome

variable {value : Cursor → Except Fault (Json × Cursor)} {depth : Nat}

/-- `value` reads the value of a tree that nests at most `depth` deep, and no other tree. -/
def Obeys (value : Cursor → Except Fault (Json × Cursor)) (depth : Nat) (s : Source) : Prop :=
  ∀ ⦃k : Cursor⦄ ⦃rest : List Char⦄, EndsNumber rest → Spaced s.tokens rest k.rest →
    outcome (value k) = if s.depth ≤ depth then some (s.value, rest) else none

/-- **The items of an array are read if all of them are.** -/
theorem outcome_readItems {items : List Source} (hvalue : ∀ s ∈ items, Obeys value depth s)
    {first : Bool} {k : Cursor} {rest : List Char}
    (hk : Spaced (Source.tokensOfItems first items) rest k.rest) (read : List Json) :
    outcome (readItems value first read k) =
      if Source.depthOfItems items ≤ depth then some (read.reverse ++ Source.values items, rest)
      else none := by
  induction items generalizing first read k with
  | nil =>
    obtain ⟨behind, hnext, hbehind⟩ := Spaced.exists_nextItem_finished hk first
    rw [readItems, hnext]
    simp [outcome, Except.toOption, Source.depthOfItems, Source.values, hbehind]
  | cons s items ih =>
    obtain ⟨hs, hitems⟩ := List.forall_mem_cons.1 hvalue
    obtain ⟨c, cs, tokens, htokens, hc, hmark⟩ := s.exists_tokens_eq
    rw [Source.tokensOfItems, htokens, List.cons_append] at hk
    obtain ⟨start, hnext, hlength, hstart⟩ := Spaced.exists_nextItem hc hmark hk
    rw [← List.cons_append, ← htokens, spaced_append] at hstart
    obtain ⟨middle, hsource, hmiddle⟩ := hstart
    have hread := hs (Source.endsValue_of_spaced_items hmiddle).endsNumber hsource
    rw [readItems, hnext, Source.depthOfItems]
    by_cases hdepth : s.depth ≤ depth
    · rw [if_pos hdepth, outcome_eq_some_iff] at hread
      obtain ⟨behind, hread, rfl⟩ := hread
      have hless : behind.rest.length < k.rest.length := by
        rw [htokens] at hsource
        exact lt_of_lt_of_le hsource.length_lt hlength
      simp only [hread, hless, if_true, ih hitems hmiddle, max_le_iff, hdepth, true_and,
        Source.values, List.reverse_cons, List.append_assoc, List.singleton_append]
    · rw [if_neg hdepth, outcome_eq_none_iff] at hread
      obtain ⟨fault, hread⟩ := hread
      simp [hread, hdepth, outcome, Except.toOption]

/-- A colon is found behind white space. -/
theorem Spaced.exists_readColon {tokens : List (List Char)} {k : Cursor} {rest : List Char}
    (h : Spaced ([':'] :: tokens) rest k.rest) :
    ∃ behind, readColon k = .ok behind ∧ Spaced tokens rest behind.rest := by
  obtain ⟨behind, hskip, hbehind⟩ := Spaced.exists_skipSpace h (by decide)
  refine ⟨k.skipSpace.next, by simp only [readColon, hskip], ?_⟩
  rw [Cursor.rest_next_of_cons hskip]
  exact hbehind

/-- A member is read if its value is. -/
theorem outcome_readMember {l : Label} {s : Source} (hs : Obeys value depth s) {k : Cursor}
    {behind rest : List Char} (hrest : EndsNumber rest) (hk : k.rest = l.inner ++ behind)
    (hbehind : Spaced ([':'] :: s.tokens) rest behind) :
    outcome (readMember value k) =
      if s.depth ≤ depth then some ((l.name, s.value), rest) else none := by
  obtain ⟨k', hname, hk'⟩ := l.reads behind k hk
  obtain ⟨start, hcolon, hstart⟩ := Spaced.exists_readColon (hk' ▸ hbehind)
  have hread : readMember value k = (value start).map fun p => ((l.name, p.1), p.2) := by
    simp only [readMember, hname, hcolon, bind, Except.bind]
    cases value start <;> rfl
  rw [hread, outcome_map (value start) fun v => (l.name, v), hs hrest hstart]
  split <;> rfl

/-- **The members of an object are read if all of them are**, and inserted one after the other. -/
theorem outcome_readMembers {members : List (Label × Source)}
    (hvalue : ∀ m ∈ members, Obeys value depth m.2) {first : Bool} {k : Cursor} {rest : List Char}
    (hk : Spaced (Source.tokensOfMembers first members) rest k.rest) (read : Entries Json) :
    outcome (readMembers value first read k) =
      if Source.depthOfMembers members ≤ depth then
        some ((Source.pairs members).foldl (fun entries p => Entries.insert p.1 p.2 entries) read,
          rest)
      else none := by
  induction members generalizing first read k with
  | nil =>
    obtain ⟨behind, hnext, hbehind⟩ := Spaced.exists_nextMember_finished hk first
    rw [readMembers, hnext]
    simp [outcome, Except.toOption, Source.depthOfMembers, Source.pairs, hbehind]
  | cons m members ih =>
    obtain ⟨l, s⟩ := m
    obtain ⟨hs, hmembers⟩ := List.forall_mem_cons.1 hvalue
    rw [Source.tokensOfMembers, Label.text] at hk
    obtain ⟨start, behind, hnext, hstart, hlength, hbehind⟩ := Spaced.exists_nextMember hk
    rw [← List.cons_append, spaced_append] at hbehind
    obtain ⟨middle, hmember, hmiddle⟩ := hbehind
    have hread := outcome_readMember hs
      (Source.endsValue_of_spaced_members hmiddle).endsNumber hstart hmember
    rw [readMembers, hnext, Source.depthOfMembers]
    by_cases hdepth : s.depth ≤ depth
    · rw [if_pos hdepth, outcome_eq_some_iff] at hread
      obtain ⟨last, hread, rfl⟩ := hread
      have hless : last.rest.length < k.rest.length := lt_of_le_of_lt hmember.length_le hlength
      simp only [hread, hless, if_true, ih hmembers hmiddle, max_le_iff, hdepth, true_and,
        Source.pairs, List.foldl_cons]
    · rw [if_neg hdepth, outcome_eq_none_iff] at hread
      obtain ⟨fault, hread⟩ := hread
      simp [hread, hdepth, outcome, Except.toOption]

theorem readValue_skipSpace (depth : Nat) (k : Cursor) :
    readValue depth k.skipSpace = readValue depth k := by
  unfold readValue
  rw [Cursor.skipSpace_skipSpace]

theorem obeys_scalar (depth : Nat) (s : Scalar) : Obeys (readValue depth) depth (.scalar s) := by
  intro k rest hrest hk
  rw [Source.tokens] at hk
  obtain ⟨c, cs, htext, hc, -⟩ := s.exists_text_eq
  rw [htext] at hk
  obtain ⟨behind, hskip, rfl⟩ := Spaced.exists_skipSpace hk hc
  have hread := s.reads hrest depth k.skipSpace (by rw [hskip, htext, List.cons_append])
  rw [readValue_skipSpace] at hread
  rw [outcome_eq_some_iff.2 hread, Source.depth, if_pos (Nat.zero_le _), Source.value]

/-- **What is read where a tree is written** is its value if it nests no deeper than it may, whatever the white
space between its tokens is, and a fault otherwise.

**Proof sketch.** Induction on the depth that is left. A token that is a value is read as it
(`Scalar.reads`), and the parts of an array or object are read one after the other with one level less. -/
theorem obeys_readValue (depth : Nat) (s : Source) : Obeys (readValue depth) depth s := by
  induction depth generalizing s with
  | zero =>
    intro k rest hrest hk
    cases s with
    | scalar s => exact obeys_scalar 0 s hrest hk
    | array items =>
      rw [Source.tokens] at hk
      obtain ⟨behind, hskip, -⟩ := Spaced.exists_skipSpace hk (by decide)
      rw [readValue_zero hskip (.inl rfl), Source.depth, if_neg (Nat.not_succ_le_zero _)]
      rfl
    | object members =>
      rw [Source.tokens] at hk
      obtain ⟨behind, hskip, -⟩ := Spaced.exists_skipSpace hk (by decide)
      rw [readValue_zero hskip (.inr rfl), Source.depth, if_neg (Nat.not_succ_le_zero _)]
      rfl
  | succ depth ih =>
    intro k rest hrest hk
    cases s with
    | scalar s => exact obeys_scalar _ s hrest hk
    | array items =>
      rw [Source.tokens] at hk
      obtain ⟨behind, hskip, hbehind⟩ := Spaced.exists_skipSpace hk (by decide)
      have hitems : Spaced (Source.tokensOfItems true items) rest k.skipSpace.next.rest := by
        rw [Cursor.rest_next_of_cons hskip]
        exact hbehind
      rw [readValue_bracket hskip, outcome_map, outcome_readItems (fun s _ => ih s) hitems,
        Source.depth, Source.value]
      simp only [Nat.add_le_add_iff_right]
      split <;> rfl
    | object members =>
      rw [Source.tokens] at hk
      obtain ⟨behind, hskip, hbehind⟩ := Spaced.exists_skipSpace hk (by decide)
      have hmembers : Spaced (Source.tokensOfMembers true members) rest k.skipSpace.next.rest := by
        rw [Cursor.rest_next_of_cons hskip]
        exact hbehind
      rw [readValue_brace hskip, outcome_map, outcome_readMembers (fun m _ => ih m.2) hmembers,
        Source.depth, Source.value]
      simp only [Nat.add_le_add_iff_right]
      split <;> rfl

end Outcome

/-! ## What is written where a value is read -/

/-- White space that is passed over is a gap. -/
theorem Cursor.exists_gap (k : Cursor) : ∃ gap, IsGap gap ∧ k.rest = gap ++ k.skipSpace.rest := by
  refine ⟨k.rest.takeWhile isSpace, fun c hc => List.mem_takeWhile_imp hc, ?_⟩
  rw [rest_skipSpace, List.takeWhile_append_dropWhile]

/-- A character is a token behind the white space that is passed over. -/
theorem spaced_of_rest_skipSpace {k : Cursor} {c : Char} {cs : List Char}
    (h : k.skipSpace.rest = c :: cs) : Spaced [[c]] k.skipSpace.next.rest k.rest := by
  obtain ⟨gap, hgap, hk⟩ := k.exists_gap
  refine ⟨gap, k.skipSpace.next.rest, hgap, ?_, rfl⟩
  rw [hk, Cursor.rest_next_of_cons h, h, List.singleton_append]

theorem spaced_of_nextItem_finished {first : Bool} {k behind : Cursor}
    (h : nextItem first k = .ok (.finished behind)) : Spaced [[']']] behind.rest k.rest := by
  unfold nextItem at h
  dsimp only at h
  split at h
  · cases h
  · rename_i hk
    cases h
    exact spaced_of_rest_skipSpace hk
  · split at h
    · cases h
    split at h
    · split at h <;> cases h
    · cases h

theorem exists_gap_of_nextItem {first : Bool} {k start : Cursor}
    (h : nextItem first k = .ok (.another start)) :
    ∃ gap, IsGap gap ∧ Spaced (comma first) (gap ++ start.rest) k.rest := by
  unfold nextItem at h
  dsimp only at h
  split at h
  · cases h
  · cases h
  · rename_i c cs hnone hk
    split at h
    · rename_i hfirst
      cases h
      obtain ⟨gap, hgap, hgap'⟩ := k.exists_gap
      subst hfirst
      exact ⟨gap, hgap, hgap'⟩
    rename_i hfirst
    split at h
    · rename_i hc
      subst hc
      split at h
      · cases h
      · cases h
      · cases h
        obtain ⟨gap, hgap, hgap'⟩ := k.skipSpace.next.exists_gap
        have hcomma := spaced_of_rest_skipSpace hk
        rw [hgap'] at hcomma
        refine ⟨gap, hgap, ?_⟩
        simpa [comma, hfirst] using hcomma
    · cases h

theorem spaced_of_nextMember_finished {first : Bool} {k behind : Cursor}
    (h : nextMember first k = .ok (.finished behind)) : Spaced [['\x7d']] behind.rest k.rest := by
  unfold nextMember at h
  dsimp only at h
  split at h
  · cases h
  · rename_i hk
    cases h
    exact spaced_of_rest_skipSpace hk
  · split at h
    · split at h <;> cases h
    split at h
    · split at h <;> cases h
    · cases h

theorem exists_gap_of_nextMember {first : Bool} {k start : Cursor}
    (h : nextMember first k = .ok (.another start)) :
    ∃ gap, IsGap gap ∧ Spaced (comma first) (gap ++ '"' :: start.rest) k.rest := by
  unfold nextMember at h
  dsimp only at h
  split at h
  · cases h
  · cases h
  · rename_i c cs hnone hk
    split at h
    · rename_i hfirst
      split at h
      · rename_i hc
        cases h
        subst hc hfirst
        obtain ⟨gap, hgap, hgap'⟩ := k.exists_gap
        refine ⟨gap, hgap, ?_⟩
        rw [Cursor.rest_next_of_cons hk, ← hk]
        exact hgap'
      · cases h
    rename_i hfirst
    split at h
    · rename_i hc
      subst hc
      split at h
      · cases h
      · rename_i hquote
        cases h
        obtain ⟨gap, hgap, hgap'⟩ := k.skipSpace.next.exists_gap
        have hcomma := spaced_of_rest_skipSpace hk
        rw [hgap'] at hcomma
        refine ⟨gap, hgap, ?_⟩
        rw [Cursor.rest_next_of_cons hquote, ← hquote]
        simpa [comma, hfirst] using hcomma
      · cases h
      · cases h
    · cases h

theorem spaced_of_readColon {k behind : Cursor} (h : readColon k = .ok behind) :
    Spaced [[':']] behind.rest k.rest := by
  unfold readColon at h
  dsimp only at h
  split at h
  · cases h
  · rename_i hk
    cases h
    exact spaced_of_rest_skipSpace hk
  · cases h

section Sources

variable {value : Cursor → Except Fault (Json × Cursor)} {depth : Nat}

/-- What `value` reads is the value of a tree that is written there and nests at most `depth` deep. -/
def Finds (value : Cursor → Except Fault (Json × Cursor)) (depth : Nat) : Prop :=
  ∀ ⦃k : Cursor⦄ ⦃v : Json⦄ ⦃behind : Cursor⦄, value k = .ok (v, behind) → EndsValue behind.rest →
    ∃ s : Source, s.depth ≤ depth ∧ s.value = v ∧ Spaced s.tokens behind.rest k.rest

/-- White space may stand in front of a tree. -/
theorem Source.spaced_gap {s : Source} {gap rest text : List Char} (hgap : IsGap gap)
    (h : Spaced s.tokens rest text) : Spaced s.tokens rest (gap ++ text) := by
  obtain ⟨c, cs, tokens, htokens, -⟩ := s.exists_tokens_eq
  rw [htokens] at h ⊢
  exact h.gap_append hgap

/-- **The items that are read are those of some trees** that are written one after the other. -/
theorem exists_sources_of_readItems (hvalue : Finds value depth) {first : Bool} {read : List Json}
    {k behind : Cursor} {values : List Json}
    (h : readItems value first read k = .ok (values, behind)) :
    ∃ items, Source.depthOfItems items ≤ depth ∧ values = read.reverse ++ Source.values items ∧
      Spaced (Source.tokensOfItems first items) behind.rest k.rest := by
  fun_induction readItems value first read k with
  | case1 | case3 | case5 => cases h
  | case2 first read k last hnext =>
    cases h
    exact ⟨[], Nat.zero_le _, (List.append_nil _).symm, spaced_of_nextItem_finished hnext⟩
  | case4 first read k start hnext v next hread hless ih =>
    obtain ⟨items, hdepth, hvalues, hspaced⟩ := ih h
    obtain ⟨s, hs, rfl, hsource⟩ := hvalue hread (Source.endsValue_of_spaced_items hspaced)
    obtain ⟨gap, hgap, hcomma⟩ := exists_gap_of_nextItem hnext
    refine ⟨s :: items, max_le hs hdepth, by simp [hvalues, Source.values], ?_⟩
    exact spaced_append.2 ⟨_, hcomma, spaced_append.2 ⟨_, Source.spaced_gap hgap hsource, hspaced⟩⟩

/-- The member that is read is a name, a colon and a tree. -/
theorem exists_source_of_readMember (hvalue : Finds value depth) {k behind : Cursor}
    {m : String × Json} (h : readMember value k = .ok (m, behind))
    (hbehind : EndsValue behind.rest) :
    ∃ (l : Label) (s : Source) (middle : List Char), s.depth ≤ depth ∧ m = (l.name, s.value) ∧
      k.rest = l.inner ++ middle ∧ Spaced ([':'] :: s.tokens) behind.rest middle := by
  unfold readMember at h
  obtain ⟨⟨name, k'⟩, hname, h⟩ := Except.bind_eq_ok_iff.1 h
  obtain ⟨start, hcolon, h⟩ := Except.bind_eq_ok_iff.1 h
  obtain ⟨⟨v, last⟩, hread, h⟩ := Except.bind_eq_ok_iff.1 h
  cases h
  obtain ⟨raw, hraw, hreads⟩ := local_readString [] hname
  obtain ⟨s, hs, rfl, hsource⟩ := hvalue hread hbehind
  have hl := hreads [] (Cursor.start raw) (List.append_nil raw).symm
  refine ⟨⟨raw, name, hl⟩, s, k'.rest, hs, rfl, hraw, ?_⟩
  exact spaced_append.2 ⟨_, spaced_of_readColon hcolon, hsource⟩

/-- **The members that are read are those of some trees** that are written one after the other. -/
theorem exists_sources_of_readMembers (hvalue : Finds value depth) {first : Bool}
    {read : Entries Json} {k behind : Cursor} {entries : Entries Json}
    (h : readMembers value first read k = .ok (entries, behind)) :
    ∃ members, Source.depthOfMembers members ≤ depth ∧
      entries = (Source.pairs members).foldl (fun entries p => Entries.insert p.1 p.2 entries) read ∧
      Spaced (Source.tokensOfMembers first members) behind.rest k.rest := by
  fun_induction readMembers value first read k with
  | case1 | case3 | case5 => cases h
  | case2 first read k last hnext =>
    cases h
    exact ⟨[], Nat.zero_le _, rfl, spaced_of_nextMember_finished hnext⟩
  | case4 first read k start hnext name v next hread hless ih =>
    obtain ⟨members, hdepth, hentries, hspaced⟩ := ih h
    obtain ⟨l, s, middle, hs, hm, hstart, hmember⟩ :=
      exists_source_of_readMember hvalue hread (Source.endsValue_of_spaced_members hspaced)
    obtain ⟨rfl, rfl⟩ := Prod.mk.inj hm
    obtain ⟨gap, hgap, hcomma⟩ := exists_gap_of_nextMember hnext
    refine ⟨(l, s) :: members, max_le hs hdepth, hentries, ?_⟩
    have htail : Spaced (l.text :: [':'] :: (s.tokens ++ Source.tokensOfMembers false members))
        behind.rest (gap ++ '"' :: start.rest) := by
      refine ⟨gap, middle, hgap, by rw [hstart, Label.text, List.cons_append], ?_⟩
      exact spaced_append.2 ⟨_, hmember, hspaced⟩
    exact spaced_append.2 ⟨_, hcomma, htail⟩

/-- A value in which nothing nests is a token. -/
theorem finds_readValue_zero : Finds (readValue 0) 0 := by
  intro k v behind h hbehind
  obtain ⟨raw, hraw, hreads⟩ := reads_of_readValue h hbehind
  have hsolid : ∀ c ∈ raw.head?, Cursor.isSpace c = false := by
    intro c hc
    obtain ⟨cs, rfl⟩ := List.head?_eq_some_iff.1 hc
    exact Cursor.isSpace_of_rest_skipSpace hraw
  have hall := hreads [] (fun _ h => by cases h) (Cursor.start raw) (List.append_nil raw).symm
  obtain ⟨gap, hgap, hk⟩ := k.exists_gap
  exact ⟨.scalar ⟨raw, v, hsolid, hall⟩, Nat.le_refl _, rfl, gap, behind.rest, hgap,
    by rw [hk, hraw], rfl⟩

/-- **What is read is the value of a tree that is written there**, and the tree nests no deeper than the
reader goes.

**Proof sketch.** Induction on the depth that is left. A value in which nothing nests is read by itself
(`reads_of_readValue`), so that it is a token; the parts of an array or object are trees, one after the
other. -/
theorem finds_readValue (depth : Nat) : Finds (readValue depth) depth := by
  induction depth with
  | zero => exact finds_readValue_zero
  | succ depth ih =>
    intro k v behind h hbehind
    cases hk : k.skipSpace.rest with
    | nil =>
      rw [readValue_nil hk] at h
      cases h
    | cons c cs =>
      have hopening := spaced_of_rest_skipSpace hk
      by_cases hbracket : c = '['
      · subst hbracket
        rw [readValue_bracket hk] at h
        obtain ⟨⟨values, last⟩, hread, heq⟩ := Except.map_eq_ok_iff.1 h
        cases heq
        obtain ⟨items, hdepth, rfl, hitems⟩ := exists_sources_of_readItems ih hread
        exact ⟨.array items, Nat.succ_le_succ hdepth, rfl,
          spaced_append.2 ⟨_, hopening, hitems⟩⟩
      by_cases hbrace : c = '\x7b'
      · subst hbrace
        rw [readValue_brace hk] at h
        obtain ⟨⟨entries, last⟩, hread, heq⟩ := Except.map_eq_ok_iff.1 h
        cases heq
        obtain ⟨members, hdepth, rfl, hmembers⟩ := exists_sources_of_readMembers ih hread
        exact ⟨.object members, Nat.succ_le_succ hdepth, rfl,
          spaced_append.2 ⟨_, hopening, hmembers⟩⟩
      · rw [readValue_eq_readValue_zero hk (by simp [hbracket, hbrace])] at h
        obtain ⟨s, hs, hv, hsource⟩ := finds_readValue_zero h hbehind
        exact ⟨s, hs.trans (Nat.zero_le _), hv, hsource⟩

end Sources

/-! ## Whole texts -/

/-- A text is written as a tree says: its tokens in order, with white space between, before and behind them
or none. -/
def Source.Lays (s : Source) (text : List Char) : Prop :=
  ∃ gap, IsGap gap ∧ Spaced s.tokens gap text

/-- What is left behind the value of a whole text is white space. -/
theorem read_eq_ok_iff_outcome {text : List Char} {v : Json} : read text = .ok v ↔
    ∃ gap, IsGap gap ∧ outcome (readValue maxDepth (Cursor.start text)) = some (v, gap) := by
  constructor
  · intro h
    obtain ⟨behind, hread, hgap⟩ := exists_readValue_of_read h
    exact ⟨behind.rest, hgap, outcome_eq_some_iff.2 ⟨behind, hread, rfl⟩⟩
  · rintro ⟨gap, hgap, h⟩
    obtain ⟨behind, hread, rfl⟩ := outcome_eq_some_iff.1 h
    have hskip : behind.skipSpace.rest = [] := by
      rw [Cursor.rest_skipSpace]
      exact List.dropWhile_eq_nil_iff.2 hgap
    simp only [read, hread, readEnd, hskip, bind, Except.bind, pure, Except.pure]

/-- **A text that is written as a tree says is read as its value** if the tree nests no deeper than it may,
and as nothing otherwise. -/
theorem Source.Lays.read_eq_ok_iff {s : Source} {text : List Char} (h : s.Lays text) {v : Json} :
    read text = .ok v ↔ s.depth ≤ maxDepth ∧ s.value = v := by
  obtain ⟨gap, hgap, hspaced⟩ := h
  have hread := obeys_readValue maxDepth s (k := Cursor.start text) hgap.endsValue.endsNumber hspaced
  simp only [read_eq_ok_iff_outcome, hread]
  split
  · rename_i hdepth
    simp only [Option.some.injEq, Prod.mk.injEq, hdepth, true_and]
    exact ⟨fun ⟨_, _, hv, _⟩ => hv, fun hv => ⟨gap, hgap, hv, rfl⟩⟩
  · rename_i hdepth
    simp [hdepth]

/-- **A text is read as a value exactly if it is written as some tree says** that has this value and nests no
deeper than it may. -/
theorem read_eq_ok_iff {text : List Char} {v : Json} :
    read text = .ok v ↔ ∃ s : Source, s.Lays text ∧ s.depth ≤ maxDepth ∧ s.value = v := by
  constructor
  · intro h
    obtain ⟨gap, hgap, houtcome⟩ := read_eq_ok_iff_outcome.1 h
    obtain ⟨behind, hread, rfl⟩ := outcome_eq_some_iff.1 houtcome
    obtain ⟨s, hdepth, hv, hspaced⟩ := finds_readValue maxDepth hread hgap.endsValue
    exact ⟨s, ⟨behind.rest, hgap, hspaced⟩, hdepth, hv⟩
  · rintro ⟨s, hlays, h⟩
    exact hlays.read_eq_ok_iff.2 h

end RecordQuery.Json
