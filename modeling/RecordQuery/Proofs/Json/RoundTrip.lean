import RecordQuery.Proofs.Json.Canonical
import RecordQuery.Proofs.Json.Quoting

set_option autoImplicit false

/-!
# JSON values written and read back

A canonical value is read back from its text, wherever the text stands and whatever follows it, if
its numbers are. The text of a value stands on one line and begins with no white space.

## Main results

* `RecordQuery.Json.Canonical.reads` — a canonical value is read back.
* `RecordQuery.Json.Canonical.newline_not_mem_write` — the text of a value stands on one line.
-/

namespace RecordQuery.Json

/-! ## Texts of arrays and objects -/

/-- The text of a member behind the opening quote of its name. -/
def writeMember (m : String × Json) : List Char :=
  m.1.toList.flatMap escape ++ '"' :: ':' :: m.2.write

theorem cons_writeMember (m : String × Json) :
    '"' :: writeMember m = quote m.1 ++ ':' :: m.2.write := by
  simp [writeMember, quote]

/-- The text of some items lists their texts. -/
theorem writeItems_append (items : List Json) (ending : List Char) :
    writeItems items ++ ending = listed [] ending true (items.map write) := by
  have hcons (items : List Json) : ∀ v, writeItems (v :: items) ++ ending =
      v.write ++ listed [] ending false (items.map write) := by
    induction items with
    | nil => simp [writeItems, listed]
    | cons w items ih => simp [writeItems, listed, separator, ih w]
  cases items with
  | nil => rfl
  | cons v items => simp [hcons, listed, separator]

/-- The text of some members lists their texts. -/
theorem writeMembers_append (members : Entries Json) (ending : List Char) :
    writeMembers members ++ ending =
      listed [] ending true (members.map fun m => '"' :: writeMember m) := by
  have hcons (members : Entries Json) : ∀ m, writeMembers (m :: members) ++ ending =
      '"' :: (writeMember m ++
        listed [] ending false (members.map fun m => '"' :: writeMember m)) := by
    induction members with
    | nil => simp [writeMembers, writeMember, quote, listed]
    | cons n members ih => simp [writeMembers, writeMember, quote, listed, separator, ih n]
  cases members with
  | nil => rfl
  | cons m members => simp [hcons, listed, separator]

/-! ## Reading values back -/

/-- The text of a number begins with a minus sign or a digit if it is read back. -/
theorem ReadsBack.exists_write_eq_cons {x : Number} (h : ReadsBack x) :
    ∃ c cs, write (.decimal x) = c :: cs ∧ (c = '-' ∨ isDigit c = true) := by
  obtain ⟨behind, hread, -⟩ := exists_readValue_of_read h
  have hskip : (Cursor.start (write (.decimal x))).skipSpace.rest = write (.decimal x) := by
    have hsolid := solid_toText x
    refine Cursor.rest_skipSpace_of_append (List.forall_mem_nil _) (fun c hc => ?_) rfl
    rw [write] at hc
    exact hsolid.isSpace_eq_false (List.mem_of_mem_head? hc)
  rcases readNumber_of_readValue hread with ⟨cs, hcs, -⟩ | ⟨c, cs, hcs, hdigit, -⟩
  · exact ⟨'-', cs, hskip ▸ hcs, .inl rfl⟩
  · exact ⟨c, cs, hskip ▸ hcs, .inr hdigit⟩

/-- The text of a whole number begins with a minus sign or a digit. -/
theorem exists_write_integer_eq_cons (n : Int) :
    ∃ c cs, write (.integer n) = c :: cs ∧ (c = '-' ∨ isDigit c = true) := by
  rw [write, Int.toString_eq_repr, Int.repr_eq_if]
  split
  · obtain ⟨c, cs, hdigits, hc, -⟩ := exists_toDigits_eq_cons n.toNat
    exact ⟨c, cs, by rw [Nat.toList_repr, hdigits], .inr hc⟩
  · exact ⟨'-', _, by rw [String.toList_append]; rfl, .inl rfl⟩

/-- The text of a value begins with a character that is no white space. -/
theorem exists_write_eq_cons {v : Json} (h : ∀ x ∈ v.decimals, ReadsBack x) :
    ∃ c cs, v.write = c :: cs ∧ Cursor.isSpace c = false ∧ c ≠ ']' := by
  have hnumber {c : Char} (hc : c = '-' ∨ isDigit c = true) :
      Cursor.isSpace c = false ∧ c ≠ ']' := by
    rcases hc with rfl | hc
    · decide
    · exact ⟨isSpace_of_lt (lt_of_isDigit hc), by rintro rfl; cases hc⟩
  cases v with
  | null => exact ⟨'n', _, rfl, by decide⟩
  | bool b => cases b with
    | true => exact ⟨'t', _, rfl, by decide⟩
    | false => exact ⟨'f', _, rfl, by decide⟩
  | integer n =>
    obtain ⟨c, cs, hwrite, hc⟩ := exists_write_integer_eq_cons n
    exact ⟨c, cs, hwrite, hnumber hc⟩
  | decimal x =>
    obtain ⟨c, cs, hwrite, hc⟩ := (h x (by simp [decimals])).exists_write_eq_cons
    exact ⟨c, cs, hwrite, hnumber hc⟩
  | string s => exact ⟨'"', _, rfl, by decide⟩
  | array items => exact ⟨'[', _, rfl, by decide⟩
  | object members => exact ⟨'\x7b', _, rfl, by decide⟩

/-- The words of JSON are read as what they stand for. -/
theorem reads_word (c : Char) (word : String) {v : Json}
    (h : (c, word, v) ∈
      [('n', "ull", Json.null), ('t', "rue", .bool true), ('f', "alse", .bool false)])
    (depth : Nat) (rest : List Char) :
    Reads (readValue depth) (c :: word.toList) rest v := by
  intro k hk
  have hspace : Cursor.isSpace c = false := by
    simp only [List.mem_cons, Prod.mk.injEq, List.not_mem_nil, or_false] at h
    rcases h with ⟨rfl, -⟩ | ⟨rfl, -⟩ | ⟨rfl, -⟩ <;> rfl
  have hskip := Cursor.rest_skipSpace_of_cons hk hspace
  obtain ⟨behind, hword, hbehind⟩ := exists_readWord
    (show k.skipSpace.next.rest = word.toList ++ rest by rw [Cursor.rest_next, hskip]; rfl)
  refine ⟨behind, ?_, hbehind⟩
  simp only [List.mem_cons, Prod.mk.injEq, List.not_mem_nil, or_false] at h
  rcases h with ⟨rfl, rfl, rfl⟩ | ⟨rfl, rfl, rfl⟩ | ⟨rfl, rfl, rfl⟩ <;>
  · unfold readValue
    simp only [hskip, hword]
    rfl

/-- A name in quotes, a colon and the text of a value are read as a member. -/
theorem reads_named {value : Cursor → Except Fault (Json × Cursor)} (name : String) {v : Json}
    {text rest : List Char} (h : Reads value text rest v) :
    Reads (readMember value) (name.toList.flatMap escape ++ '"' :: ':' :: text) rest (name, v) := by
  intro k hk
  obtain ⟨colon, hname, hcolon⟩ := reads_string name (':' :: (text ++ rest)) k (by rw [hk]; simp)
  have hskip := Cursor.rest_skipSpace_of_cons hcolon (by decide)
  have hread : readColon colon = .ok colon.skipSpace.next := by simp only [readColon, hskip]
  obtain ⟨behind, hvalue, hbehind⟩ := h colon.skipSpace.next (by simp [hskip])
  refine ⟨behind, ?_, hbehind⟩
  simp [readMember, hname, hread, hvalue, bind, Except.bind, pure, Except.pure]

/-- A member is read back if its value is. -/
theorem reads_member {value : Cursor → Except Fault (Json × Cursor)} {m : String × Json}
    {rest : List Char} (h : Reads value m.2.write rest m.2) :
    Reads (readMember value) (writeMember m) rest m :=
  reads_named m.1 h

/-- An array is read back if its items are. -/
theorem reads_array {items : List Json} {depth : Nat}
    (hnumbers : ∀ v ∈ items, ∀ x ∈ v.decimals, ReadsBack x)
    (hitems : ∀ v ∈ items, ∀ b, EndsNumber b → Reads (readValue depth) v.write b v)
    (rest : List Char) :
    Reads (readValue (depth + 1)) (write (.array items)) rest (.array items) := by
  intro k hk
  have htext : write (.array items) ++ rest =
      '[' :: listed [] (']' :: rest) true (items.map write) := by
    rw [← writeItems_append]
    simp [write]
  rw [htext] at hk
  have hskip := Cursor.rest_skipSpace_of_cons hk (by decide)
  obtain ⟨behind, hread, hbehind⟩ := exists_readItems (List.forall_mem_nil _)
    (List.forall_mem_nil _) (by simp [EndsNumber]; decide)
    (fun v hv => exists_write_eq_cons (hnumbers v hv)) hitems
    (show k.skipSpace.next.rest = _ by rw [Cursor.rest_next, hskip]; rfl) []
  refine ⟨behind, ?_, hbehind⟩
  unfold readValue
  simp only [hskip, hread]
  rfl

/-- The members of an object are read up to its closing brace, however each of them is written. -/
theorem exists_readObject {write : String × Json → List Char} {members : Entries Json} {depth : Nat}
    (hascending : members.Ascending)
    (hmembers : ∀ m ∈ members, ∀ b, EndsNumber b →
      Reads (readMember (readValue depth)) (write m) b m)
    {rest : List Char} {k : Cursor}
    (hk : k.rest = '\x7b' :: listed [] ('\x7d' :: rest) true (members.map fun m => '"' :: write m)) :
    ∃ behind, readValue (depth + 1) k = .ok (.object members, behind) ∧ behind.rest = rest := by
  have hskip := Cursor.rest_skipSpace_of_cons hk (by decide)
  obtain ⟨behind, hread, hbehind⟩ := exists_readMembers (List.forall_mem_nil _)
    (List.forall_mem_nil _) (by simp [EndsNumber]; decide) hmembers
    (show Entries.Ascending ([] ++ members) from hascending)
    (show k.skipSpace.next.rest = _ by rw [Cursor.rest_next, hskip]; rfl)
  refine ⟨behind, ?_, hbehind⟩
  unfold readValue
  simp only [hskip, hread]
  rfl

/-- An object is read back if its members are, and their names ascend. -/
theorem reads_object {members : Entries Json} {depth : Nat} (hascending : members.Ascending)
    (hmembers : ∀ m ∈ members, ∀ b, EndsNumber b → Reads (readValue depth) m.2.write b m.2)
    (rest : List Char) :
    Reads (readValue (depth + 1)) (write (.object members)) rest (.object members) := by
  intro k hk
  have htext : write (.object members) ++ rest = '\x7b' ::
      listed [] ('\x7d' :: rest) true (members.map fun m => '"' :: writeMember m) := by
    rw [← writeMembers_append]
    simp [write]
  rw [htext] at hk
  exact exists_readObject hascending (fun m hm b hb => reads_member (hmembers m hm b hb)) hk

/-- **A canonical value is read back** where no longer number begins, if its numbers are and it
nests no deeper than it may.

**Proof sketch.** Induction on the value. The parts of arrays and objects are read one after the
other, and a member has the last name so far, so that it is inserted at the end. -/
theorem Canonical.reads {v : Json} (hv : v.Canonical) {depth : Nat} (hdepth : v.depth ≤ depth)
    (hnumbers : ∀ x ∈ v.decimals, ReadsBack x) {rest : List Char} (hrest : EndsNumber rest) :
    Reads (readValue depth) v.write rest v := by
  induction hv generalizing depth rest with
  | null => exact reads_word 'n' "ull" (by simp) depth rest
  | bool b => cases b with
    | true => exact reads_word 't' "rue" (by simp) depth rest
    | false => exact reads_word 'f' "alse" (by simp) depth rest
  | integer hlow hhigh => exact reads_integer hlow hhigh hrest depth
  | decimal x => exact reads_decimal (hnumbers x (by simp [decimals])) hrest depth
  | string s =>
    intro k hk
    have hskip : k.skipSpace.rest = '"' :: (s.toList.flatMap escape ++ ['"'] ++ rest) :=
      Cursor.rest_skipSpace_of_cons hk (by decide)
    obtain ⟨behind, hread, hbehind⟩ := reads_string s rest k.skipSpace.next (by simp [hskip])
    refine ⟨behind, ?_, hbehind⟩
    unfold readValue
    simp only [hskip, hread]
    rfl
  | @array items hitems ih =>
    rw [Json.depth] at hdepth
    obtain ⟨depth, rfl⟩ := Nat.exists_eq_add_of_le' (Nat.le_of_add_left_le hdepth)
    have hnumbers' : ∀ v ∈ items, ∀ x ∈ v.decimals, ReadsBack x := fun v hv x hx =>
      hnumbers x (decimals_subset_decimalsOfItems hv hx)
    refine reads_array hnumbers' (fun v hv b hb => ih v hv ?_ (hnumbers' v hv) hb) rest
    exact (depth_le_depthOfItems hv).trans (Nat.le_of_succ_le_succ hdepth)
  | @object members hascending hmembers ih =>
    rw [Json.depth] at hdepth
    obtain ⟨depth, rfl⟩ := Nat.exists_eq_add_of_le' (Nat.le_of_add_left_le hdepth)
    refine reads_object hascending (fun m hm b hb => ih m hm ?_ (fun x hx => ?_) hb) rest
    · exact (depth_le_depthOfMembers hm).trans (Nat.le_of_succ_le_succ hdepth)
    · exact hnumbers x (decimals_subset_decimalsOfMembers hm hx)

/-- **A canonical value is read back from its text**, alone. -/
theorem Canonical.read_write {v : Json} (hv : v.Canonical) (hdepth : v.depth ≤ maxDepth)
    (hnumbers : ∀ x ∈ v.decimals, ReadsBack x) : read v.write = .ok v := by
  have hends : EndsNumber [] := by simp [EndsNumber]
  obtain ⟨behind, hread, hbehind⟩ := hv.reads hdepth hnumbers hends (Cursor.start v.write)
    (by simp [Cursor.start])
  have hend : readEnd behind = .ok () := by
    simp [readEnd, Cursor.rest_skipSpace, hbehind]
  simp [read, hread, hend, bind, Except.bind, pure, Except.pure]

/-! ## Lines -/

/-- A list of texts stands on one line if each of them does. -/
theorem newline_not_mem_listed {texts : List (List Char)} (h : ∀ text ∈ texts, '\n' ∉ text)
    (first : Bool) : '\n' ∉ listed [] [] first texts := by
  induction texts generalizing first with
  | nil => simp [listed]
  | cons text texts ih =>
    have htext := h text List.mem_cons_self
    have htexts := ih (fun t ht => h t (List.mem_cons_of_mem _ ht)) false
    cases first <;> simp [listed, separator, htext, htexts]

/-- **The text of a value stands on one line.** -/
theorem Canonical.newline_not_mem_write {v : Json} (hv : v.Canonical) : '\n' ∉ v.write := by
  induction hv with
  | null => decide
  | bool b => cases b <;> decide
  | @integer n _ _ =>
    rw [write, Int.toString_eq_repr, Int.repr_eq_if]
    intro hmem
    split at hmem
    · exact absurd (solid_repr _ _ hmem) (by decide)
    · rw [String.toList_append] at hmem
      exact absurd ((Solid.append (by decide) (solid_repr _)) _ hmem) (by decide)
  | decimal x =>
    rw [write]
    exact fun hmem => absurd (solid_toText x _ hmem) (by decide)
  | string s => exact newline_not_mem_quote s
  | @array items hitems ih =>
    have hlist : '\n' ∉ writeItems items := by
      rw [← List.append_nil (writeItems items), writeItems_append]
      exact newline_not_mem_listed (by simpa using ih) true
    simp [write, hlist]
  | @object members hascending hmembers ih =>
    have hlist : '\n' ∉ writeMembers members := by
      rw [← List.append_nil (writeMembers members), writeMembers_append]
      refine newline_not_mem_listed (List.forall_mem_map.2 fun m hm => ?_) true
      rw [cons_writeMember]
      simp [newline_not_mem_quote, ih m hm]
    simp [write, hlist]

end RecordQuery.Json
