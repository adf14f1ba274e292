import RecordQuery.Json.Text
import RecordQuery.Proofs.Json.Reading

set_option autoImplicit false

/-!
# Strings in JSON texts

The characters of a string are read back one after the other, each from the escape that is written
for it.

## Main results

* `RecordQuery.Json.reads_string` — every string is read back from its quoted text.
* `RecordQuery.Json.newline_not_mem_quote` — a quoted text stands on one line.
-/

namespace RecordQuery.Json

/-! ## One character -/

/-- A character is written as an escape by a letter, as an escape by its number or as it stands. -/
theorem escape_cases (c : Char) :
    (∃ d, escape c = ['\\', d] ∧ d ≠ '\n' ∧
        ∀ {k : Cursor} {rest : List Char}, k.rest = d :: rest → readEscape k = .ok (c, k.next)) ∨
      (c.toNat < 0x20 ∧ escape c = ['\\', 'u', '0', '0'] ++ twoHex c.toNat) ∨
      (c ≠ '"' ∧ c ≠ '\\' ∧ ¬c.toNat < 0x20 ∧ escape c = [c]) := by
  unfold escape
  split_ifs with h h h h h h h hcontrol
  iterate 7
    · subst h
      exact .inl ⟨_, rfl, by decide, fun hk => by simp [readEscape, hk]⟩
  · exact .inr (.inl ⟨hcontrol, rfl⟩)
  · exact .inr (.inr ⟨by assumption, by assumption, hcontrol, rfl⟩)

section Character

variable {k : Cursor} {rest : List Char}

/-- A string ends at a quote. -/
theorem readString_close {read : List Char} (hk : k.rest = '"' :: rest) :
    readString read k = .ok (String.ofList read.reverse, k.next) := by
  rw [readString]
  split <;> simp_all

/-- A character that needs no escape is read as it stands. -/
theorem readString_plain {c : Char} {read : List Char} (hk : k.rest = c :: rest)
    (hquote : c ≠ '"') (hslash : c ≠ '\\') (hcontrol : ¬c.toNat < 0x20) :
    readString read k = readString (c :: read) k.next := by
  conv_lhs => rw [readString]
  split <;> simp_all

/-- An escape is read as the character that it stands for. -/
theorem readString_escape {c : Char} {cs read : List Char} {behind : Cursor}
    (hk : k.rest = '\\' :: cs) (hread : readEscape k.next = .ok (c, behind))
    (hless : behind.rest.length < k.rest.length) :
    readString read k = readString (c :: read) behind := by
  conv_lhs => rw [readString]
  split <;> simp_all

/-- The hexadecimal digits of a control character. -/
theorem twoHex_digits : ∀ n < 0x20, (Nat.digitChar (n / 16)).utf8Size = 1 ∧
    (Nat.digitChar (n % 16)).utf8Size = 1 ∧ hexDigit? (Nat.digitChar (n / 16)) = some (n / 16) ∧
    hexDigit? (Nat.digitChar (n % 16)) = some (n % 16) ∧ '\n' ∉ twoHex n := by decide

/-- The hexadecimal digits of a control character are read back. -/
theorem readHex_twoHex {n : Nat} (hn : n < 0x20) (hk : k.rest = '0' :: '0' :: (twoHex n ++ rest)) :
    readHex k = .ok (n, k.skip 4) := by
  obtain ⟨hhigh, hlow, hhigh', hlow', -⟩ := twoHex_digits n hn
  have hzero : hexDigit? '0' = some 0 := by decide
  have hsize : Char.utf8Size '0' = 1 := by decide
  have htake : k.rest.take 4 = ['0', '0', Nat.digitChar (n / 16), Nat.digitChar (n % 16)] := by
    simp [hk, twoHex]
  have hvalue : n / 16 * 16 + n % 16 = n := by omega
  simp [readHex, htake, hhigh, hlow, hhigh', hlow', hzero, hvalue, hsize]

/-- The number of a control character is read back as the character. -/
theorem readEscape_control {c : Char} (hc : c.toNat < 0x20)
    (hk : k.rest = 'u' :: '0' :: '0' :: (twoHex c.toNat ++ rest)) :
    readEscape k = .ok (c, k.next.skip 4) := by
  have hhex : readHex k.next = .ok (c.toNat, k.next.skip 4) := 
    readHex_twoHex hc (by rw [Cursor.rest_next, hk]; rfl)
  have htrail : ¬(0xDC00 ≤ c.toNat ∧ c.toNat ≤ 0xDFFF) := by omega
  have hsingle : c.toNat < 0xD800 ∨ 0xDBFF < c.toNat := by omega
  have hunicode : readUnicode k.next = .ok (c, k.next.skip 4) := by
    simp only [readUnicode, hhex]
    simp only [bind, Except.bind, htrail, hsingle, if_true, if_false, pure, Except.pure,
      Char.ofNat_toNat]
  simp [readEscape, hk, hunicode]

/-- **Every character is read back** from what is written for it. -/
theorem exists_readString_escape {c : Char} (read : List Char) (hk : k.rest = escape c ++ rest) :
    ∃ behind, readString read k = readString (c :: read) behind ∧ behind.rest = rest := by
  rcases escape_cases c with ⟨d, hc, -, hread⟩ | ⟨hcontrol, hc⟩ | ⟨hquote, hslash, hcontrol, hc⟩
  · rw [hc, List.cons_append, List.singleton_append] at hk
    refine ⟨k.next.next, readString_escape hk (hread (by rw [Cursor.rest_next, hk]; rfl)) ?_, ?_⟩
    · simp only [Cursor.rest_next, hk, List.tail_cons, List.length_cons]
      omega
    · simp [hk]
  · rw [hc, List.append_assoc, List.cons_append, List.cons_append] at hk
    refine ⟨k.next.next.skip 4, readString_escape hk
      (readEscape_control hcontrol (by rw [Cursor.rest_next, hk]; rfl)) ?_, ?_⟩
    · simp only [Cursor.rest_skip, Cursor.rest_next, hk, List.tail_cons, List.drop_succ_cons,
        twoHex, List.cons_append, List.nil_append, List.drop_zero, List.length_cons]
      omega
    · simp [hk, twoHex]
  · rw [hc, List.singleton_append] at hk
    exact ⟨k.next, readString_plain hk hquote hslash hcontrol, by simp [hk]⟩

end Character

/-! ## Whole strings -/

/-- The characters of a string are read back one after the other. -/
theorem exists_readString {cs rest : List Char} {k : Cursor}
    (hk : k.rest = cs.flatMap escape ++ '"' :: rest) (read : List Char) :
    ∃ behind, readString read k = .ok (String.ofList (read.reverse ++ cs), behind) ∧
      behind.rest = rest := by
  induction cs generalizing k read with
  | nil => exact ⟨k.next, by rw [readString_close hk, List.append_nil], by simp [hk]⟩
  | cons c cs ih =>
    rw [List.flatMap_cons, List.append_assoc] at hk
    obtain ⟨next, hread, hnext⟩ := exists_readString_escape read hk
    obtain ⟨behind, hrest, hbehind⟩ := ih hnext (c :: read)
    exact ⟨behind, by rw [hread, hrest]; simp, hbehind⟩

/-- **Every string is read back** behind its opening quote. -/
theorem reads_string (s : String) (rest : List Char) :
    Reads (readString []) (s.toList.flatMap escape ++ ['"']) rest s := by
  intro k hk
  rw [List.append_assoc, List.singleton_append] at hk
  obtain ⟨behind, hread, hbehind⟩ := exists_readString hk []
  exact ⟨behind, by rw [hread, List.reverse_nil, List.nil_append, String.ofList_toList], hbehind⟩

/-- **A quoted text stands on one line**, whatever its characters are. -/
theorem newline_not_mem_quote (s : String) : '\n' ∉ quote s := by
  have hescape : ∀ c, '\n' ∉ escape c := by
    intro c
    rcases escape_cases c with ⟨d, hc, hd, -⟩ | ⟨hcontrol, hc⟩ | ⟨-, -, hcontrol, hc⟩
    · rw [hc]
      simpa using hd.symm
    · have hhex := (twoHex_digits c.toNat hcontrol).2.2.2.2
      rw [hc]
      simpa using hhex
    · rw [hc]
      rintro hmem
      rw [← List.mem_singleton.1 hmem] at hcontrol
      exact hcontrol (by decide)
  simp [quote, hescape]

end RecordQuery.Json
