import RecordQuery.Proofs.Json.Decimal

set_option autoImplicit false

/-!
# What readers of JSON return

Every value that is read is canonical: its whole numbers have at most 64 bits, and the members of
its objects stand in the order of their names, no name twice, however the text had them.

## Main definitions

* `RecordQuery.Json.Canonical` — canonical values.
* `RecordQuery.Json.depth` — how deep arrays and objects nest in a value.
* `RecordQuery.Json.decimals` — the numbers in a value that are not whole numbers of 64 bits.

## Main results

* `RecordQuery.Json.canonical_of_read`, `RecordQuery.Json.canonical_of_readList` — what is read is
  canonical.
-/

namespace RecordQuery.Json

/-! ## Canonical values -/

/-- Values with whole numbers of 64 bits and members in ascending order. -/
inductive Canonical : Json → Prop where
  | null : Canonical .null
  | bool (b : Bool) : Canonical (.bool b)
  | integer {n : Int} (hlow : -0x8000000000000000 ≤ n) (hhigh : n ≤ maxWhole) :
      Canonical (.integer n)
  | decimal (x : Number) : Canonical (.decimal x)
  | string (s : String) : Canonical (.string s)
  | array {items : List Json} (hitems : ∀ v ∈ items, Canonical v) : Canonical (.array items)
  | object {members : Entries Json} (hascending : members.Ascending)
      (hmembers : ∀ m ∈ members, Canonical m.2) : Canonical (.object members)

mutual

/-- How deep arrays and objects nest in a value. -/
def depth : Json → Nat
  | array items => depthOfItems items + 1
  | object members => depthOfMembers members + 1
  | _ => 0

/-- How deep arrays and objects nest in the items of an array. -/
def depthOfItems : List Json → Nat
  | [] => 0
  | v :: items => max v.depth (depthOfItems items)

/-- How deep arrays and objects nest in the members of an object. -/
def depthOfMembers : List (String × Json) → Nat
  | [] => 0
  | (_, v) :: members => max v.depth (depthOfMembers members)

end

mutual

/-- The numbers in a value that are not whole numbers of 64 bits. -/
def decimals : Json → List Number
  | decimal x => [x]
  | array items => decimalsOfItems items
  | object members => decimalsOfMembers members
  | _ => []

/-- Such numbers in the items of an array. -/
def decimalsOfItems : List Json → List Number
  | [] => []
  | v :: items => v.decimals ++ decimalsOfItems items

/-- Such numbers in the members of an object. -/
def decimalsOfMembers : List (String × Json) → List Number
  | [] => []
  | (_, v) :: members => v.decimals ++ decimalsOfMembers members

end

theorem depthOfMembers_eq (members : List (String × Json)) :
    depthOfMembers members = depthOfItems (members.map (·.2)) := by
  induction members with
  | nil => rfl
  | cons m members ih => rw [depthOfMembers, List.map_cons, depthOfItems, ih]

theorem decimalsOfMembers_eq (members : List (String × Json)) :
    decimalsOfMembers members = decimalsOfItems (members.map (·.2)) := by
  induction members with
  | nil => rfl
  | cons m members ih => rw [decimalsOfMembers, List.map_cons, decimalsOfItems, ih]

/-- An item nests no deeper than the items together. -/
theorem depth_le_depthOfItems {items : List Json} {v : Json} (h : v ∈ items) :
    v.depth ≤ depthOfItems items := by
  induction items with
  | nil => cases h
  | cons w items ih =>
    rw [depthOfItems]
    rcases List.mem_cons.1 h with rfl | h
    · exact le_max_left _ _
    · exact (ih h).trans (le_max_right _ _)

/-- A member nests no deeper than the members together. -/
theorem depth_le_depthOfMembers {members : List (String × Json)} {m : String × Json}
    (h : m ∈ members) : m.2.depth ≤ depthOfMembers members := by
  rw [depthOfMembers_eq]
  exact depth_le_depthOfItems (List.mem_map_of_mem h)

/-- The numbers in an item are among those of the items together. -/
theorem decimals_subset_decimalsOfItems {items : List Json} {v : Json} (h : v ∈ items) :
    v.decimals ⊆ decimalsOfItems items := by
  induction items with
  | nil => cases h
  | cons w items ih =>
    rw [decimalsOfItems]
    rcases List.mem_cons.1 h with rfl | h
    · exact List.subset_append_left _ _
    · exact List.Subset.trans (ih h) (List.subset_append_right _ _)

/-- The numbers in a member are among those of the members together. -/
theorem decimals_subset_decimalsOfMembers {members : List (String × Json)} {m : String × Json}
    (h : m ∈ members) : m.2.decimals ⊆ decimalsOfMembers members := by
  rw [decimalsOfMembers_eq]
  exact decimals_subset_decimalsOfItems (List.mem_map_of_mem h)

/-! ## Numbers that are read -/

section Numbers

variable {negative : Bool} {digits : Nat} {exponent : Int} {k behind : Cursor} {v : Json}

theorem exists_decimal_of_finishNumber
    (h : finishNumber negative digits exponent k = .ok (v, behind)) : ∃ x, v = .decimal x := by
  unfold finishNumber at h
  split at h
  · cases h
    exact ⟨_, rfl⟩
  · cases h

theorem exists_decimal_of_readExponent
    (h : readExponent negative digits exponent k = .ok (v, behind)) : ∃ x, v = .decimal x := by
  rw [readExponent_eq] at h
  dsimp only at h
  unfold readSigned readPower finishPower at h
  split at h
  · cases h
  split at h
  swap
  · cases h
  split at h
  · exact exists_decimal_of_finishNumber h
  split at h
  · cases h
  · cases h
    exact ⟨_, rfl⟩

theorem exists_decimal_of_readFraction
    (h : readFraction negative digits exponent k = .ok (v, behind)) : ∃ x, v = .decimal x := by
  rw [readFraction_eq] at h
  dsimp only at h
  unfold readDigits at h
  split at h
  · cases h
  split at h
  swap
  · cases h
  rw [readTail_eq] at h
  split at h
  · exact exists_decimal_of_readExponent h
  · exact exists_decimal_of_finishNumber h

/-- What is read as a number is a whole number of at most 64 bits, or a number of the other kind. -/
theorem readNumber_cases (h : readNumber negative k = .ok (v, behind)) :
    (∃ x, v = .decimal x) ∨ ∃ n ≤ maxWhole, v = wholeNumber negative n := by
  cases hk : k.rest with
  | nil => simp [readNumber, hk] at h
  | cons c cs =>
    obtain ⟨hc, hzero⟩ := isDigit_of_readNumber hk h
    rw [readNumber_eq negative hk hc hzero, readBehind_eq] at h
    split at h
    · exact .inl (exists_decimal_of_readFraction h)
    split at h
    · exact .inl (exists_decimal_of_readExponent h)
    split at h
    · cases h
      exact .inr ⟨_, takeDigits_le (Nat.zero_le _) _, rfl⟩
    · exact .inl (exists_decimal_of_finishNumber h)

/-- A whole number of at most 64 bits is kept as such, or as a number of the other kind. -/
theorem canonical_wholeNumber (hdigits : digits ≤ maxWhole) :
    (wholeNumber negative digits).Canonical := by
  unfold wholeNumber
  split
  · exact .integer (by omega) (by exact_mod_cast hdigits)
  split
  · exact .decimal _
  · exact .integer (by omega) (by simp only [maxWhole]; omega)

/-- A number that is read is canonical. -/
theorem canonical_of_readNumber (h : readNumber negative k = .ok (v, behind)) : v.Canonical := by
  rcases readNumber_cases h with ⟨x, rfl⟩ | ⟨n, hn, rfl⟩
  · exact .decimal x
  · exact canonical_wholeNumber hn

/-- Nothing nests in a number. -/
theorem depth_eq_zero_of_readNumber (h : readNumber negative k = .ok (v, behind)) :
    v.depth = 0 := by
  rcases readNumber_cases h with ⟨x, rfl⟩ | ⟨n, -, rfl⟩
  · rfl
  · unfold wholeNumber
    split
    · rfl
    split <;> rfl

end Numbers

/-! ## Arrays and objects that are read -/

section Parts

variable {value : Cursor → Except Fault (Json × Cursor)} {first : Bool} {k behind : Cursor}

/-- What holds of every value that is read holds of the items of an array. -/
theorem forall_mem_of_readItems {P : Json → Prop}
    (hvalue : ∀ {k v behind}, value k = .ok (v, behind) → P v) {read items : List Json}
    (hread : ∀ v ∈ read, P v) (h : readItems value first read k = .ok (items, behind)) :
    ∀ v ∈ items, P v := by
  fun_induction readItems value first read k with
  | case1 first read k fault hnext => cases h
  | case2 first read k last hnext =>
    cases h
    simpa using hread
  | case3 first read k start hnext fault hstart => cases h
  | case4 first read k start hnext v next hstart hless ih =>
    exact ih (List.forall_mem_cons.2 ⟨hvalue hstart, hread⟩) h
  | case5 first read k start hnext v next hstart hless => cases h

/-- What holds of every value that is read holds of the members of an object, whose names ascend. -/
theorem forall_mem_of_readMembers {P : Json → Prop}
    (hvalue : ∀ {k v behind}, value k = .ok (v, behind) → P v) {read members : Entries Json}
    (hread : read.Ascending ∧ ∀ m ∈ read, P m.2)
    (h : readMembers value first read k = .ok (members, behind)) :
    members.Ascending ∧ ∀ m ∈ members, P m.2 := by
  fun_induction readMembers value first read k with
  | case1 first read k fault hnext => cases h
  | case2 first read k last hnext =>
    cases h
    exact hread
  | case3 first read k start hnext fault hstart => cases h
  | case4 first read k start hnext name v next hstart hless ih =>
    refine ih ⟨hread.1.insert name v, fun m hm => ?_⟩ h
    rcases Entries.eq_or_mem_of_mem_insert hm with rfl | hm
    · obtain ⟨_, -, hstart⟩ := Except.bind_eq_ok_iff.1 hstart
      obtain ⟨_, -, hstart⟩ := Except.bind_eq_ok_iff.1 hstart
      obtain ⟨_, hv, hstart⟩ := Except.bind_eq_ok_iff.1 hstart
      cases hstart
      exact hvalue hv
    · exact hread.2 m hm
  | case5 first read k start hnext name v next hstart hless => cases h

end Parts

/-! ## Values that are read -/

/-- A value that is read is canonical. -/
theorem canonical_of_readValue {depth : Nat} {k behind : Cursor} {v : Json}
    (h : readValue depth k = .ok (v, behind)) : v.Canonical := by
  induction depth using Nat.strong_induction_on generalizing k behind v with
  | _ depth ih =>
    unfold readValue at h
    dsimp only at h
    split at h
    · cases h
    split at h
    · obtain ⟨_, -, h⟩ := Except.map_eq_ok_iff.1 h
      cases h
      exact .null
    split at h
    · obtain ⟨_, -, h⟩ := Except.map_eq_ok_iff.1 h
      cases h
      exact .bool true
    split at h
    · obtain ⟨_, -, h⟩ := Except.map_eq_ok_iff.1 h
      cases h
      exact .bool false
    split at h
    · exact canonical_of_readNumber h
    split at h
    · exact canonical_of_readNumber h
    split at h
    · obtain ⟨_, -, h⟩ := Except.map_eq_ok_iff.1 h
      cases h
      exact .string _
    split at h
    · cases depth with
      | zero => cases h
      | succ depth =>
        obtain ⟨⟨items, last⟩, hitems, h⟩ := Except.map_eq_ok_iff.1 h
        cases h
        exact .array (forall_mem_of_readItems (ih depth (Nat.lt_succ_self depth))
          (List.forall_mem_nil _) hitems)
    split at h
    · cases depth with
      | zero => cases h
      | succ depth =>
        obtain ⟨⟨members, last⟩, hmembers, h⟩ := Except.map_eq_ok_iff.1 h
        cases h
        obtain ⟨hascending, hall⟩ := forall_mem_of_readMembers (ih depth (Nat.lt_succ_self depth))
          ⟨List.Pairwise.nil, List.forall_mem_nil _⟩ hmembers
        exact .object hascending hall
    · cases h

/-- **A value that is read from a whole text is canonical.** -/
theorem canonical_of_read {text : List Char} {v : Json} (h : read text = .ok v) : v.Canonical := by
  obtain ⟨behind, hvalue, -⟩ := exists_readValue_of_read h
  exact canonical_of_readValue hvalue

/-- **The items of an array that is read are canonical.** -/
theorem canonical_of_readList {text : List Char} {items : List Json}
    (h : readList text = .ok items) : ∀ v ∈ items, v.Canonical := by
  unfold readList at h
  dsimp only at h
  split at h
  · cases h
  · obtain ⟨⟨read, behind⟩, hitems, h⟩ := Except.bind_eq_ok_iff.1 h
    obtain ⟨⟨⟩, -, h⟩ := Except.bind_eq_ok_iff.1 h
    cases h
    exact forall_mem_of_readItems canonical_of_readValue (List.forall_mem_nil _) hitems
  · cases h

end RecordQuery.Json
