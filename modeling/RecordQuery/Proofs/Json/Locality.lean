import RecordQuery.Proofs.Json.Decimal
import RecordQuery.Proofs.Json.Quoting

set_option autoImplicit false

/-!
# Values by themselves

What is read as a value is a part of the text, and the same part is read as the same value wherever it
stands, as long as nothing follows it that could belong to a number. So a word, a number or a string can be
cut out of one text and put into another.

## Main definitions

* `RecordQuery.Json.EndsValue` — what may follow a value in an array or object.
* `RecordQuery.Json.Local` — a reader makes the same of the characters that it reads wherever they stand.
* `RecordQuery.Json.Fails` — a reader makes nothing of a text, nor of the text with more behind it.

## Main results

* `RecordQuery.Json.reads_of_readNumber` — a number is read by itself.
* `RecordQuery.Json.local_readString` — a string is read by itself.
* `RecordQuery.Json.reads_of_readValue` — a value in which nothing nests is read by itself.
-/

namespace RecordQuery.Json

/-! ## What may follow a value -/

/-- What follows a value begins with white space, a comma or a closing bracket or brace. -/
def EndsValue (rest : List Char) : Prop :=
  ∀ c ∈ rest.head?, Cursor.isSpace c = true ∨ c = ',' ∨ c = ']' ∨ c = '\x7d'

theorem EndsValue.ne {rest cs : List Char} {c : Char} (h : EndsValue rest) (hcs : rest = c :: cs)
    {d : Char} (hd : Cursor.isSpace d = false) (hmark : d ∉ [',', ']', '\x7d']) : c ≠ d := by
  rintro rfl
  rcases h c (by rw [hcs]; rfl) with hspace | hc
  · rw [hd] at hspace
    cases hspace
  · exact hmark (by simpa using hc)

theorem EndsValue.isDigit_eq_false {rest : List Char} (h : EndsValue rest) :
    ∀ c ∈ rest.head?, isDigit c = false := by
  intro c hc
  rcases h c hc with hspace | rfl | rfl | rfl
  · by_contra hdigit
    rw [isSpace_of_lt (lt_of_isDigit (by simpa using hdigit))] at hspace
    cases hspace
  all_goals decide

theorem EndsValue.endsNumber {rest : List Char} (h : EndsValue rest) : EndsNumber rest := by
  intro c hc
  obtain ⟨cs, rfl⟩ := List.head?_eq_some_iff.1 hc
  exact ⟨h.isDigit_eq_false c hc, h.ne rfl (by decide) (by decide), h.ne rfl (by decide) (by decide),
    h.ne rfl (by decide) (by decide)⟩

/-! ## Texts that are no number -/

/-- A text of which `reader` makes nothing is still nothing to it when `b` follows the text. -/
def Fails (reader : Cursor → Except Fault (Json × Cursor)) (b : List Char) : Prop :=
  ∀ ⦃k : Cursor⦄ ⦃fault : Fault⦄, reader k = .error fault →
    ∀ j : Cursor, j.rest = k.rest ++ b → ∃ fault, reader j = .error fault

section Fails

variable {b : List Char} {negative : Bool} {digits : Nat} {exponent : Int}

theorem Fails.behind {reader : Cursor → Except Fault (Json × Cursor)} (hreader : Fails reader b)
    {k : Cursor} {fault : Fault} {m : Nat} (hm : m ≤ k.rest.length)
    (h : reader (k.skip m) = .error fault) {j : Cursor} (hj : j.rest = k.rest ++ b) :
    ∃ fault, reader (j.skip m) = .error fault := by
  refine hreader h _ ?_
  rw [Cursor.rest_skip, Cursor.rest_skip, hj, List.drop_append_of_le_length hm]

theorem Fails.next {reader : Cursor → Except Fault (Json × Cursor)} (hreader : Fails reader b)
    {k : Cursor} {fault : Fault} (hne : k.rest ≠ [])
    (h : reader k.next = .error fault) {j : Cursor} (hj : j.rest = k.rest ++ b) :
    ∃ fault, reader j.next = .error fault :=
  hreader.behind (m := 1) (List.length_pos_iff.2 hne) h hj

theorem fails_finishNumber : Fails (finishNumber negative digits exponent) b := by
  intro k fault h j _
  unfold finishNumber at h ⊢
  split at h
  · cases h
  · exact ⟨_, rfl⟩

theorem fails_finishPower (down : Bool) (power : Nat) (more : List Char) :
    Fails (finishPower negative digits exponent down power more) b := by
  cases more with
  | nil => exact fails_finishNumber
  | cons c more =>
    intro k fault h j _
    simp only [finishPower] at h ⊢
    split at h
    · rename_i hrange
      exact ⟨_, if_pos hrange⟩
    · cases h

/-- A text begins with a digit or not. -/
theorem exists_digit_or (cs : List Char) :
    (∀ c ∈ cs.head?, isDigit c = false) ∨ ∃ c ds, cs = c :: ds ∧ isDigit c = true := by
  cases cs with
  | nil => exact .inl fun _ h => by cases h
  | cons c cs =>
    cases hc : isDigit c with
    | false => exact .inl (by simpa using hc)
    | true => exact .inr ⟨c, cs, rfl, hc⟩

/-- An exponent begins with a digit. -/
theorem exists_readPower_eq_error {down : Bool} {k : Cursor}
    (h : ∀ c ∈ k.rest.head?, isDigit c = false) :
    ∃ fault, readPower negative digits exponent down k = .error fault := by
  unfold readPower
  split
  · exact ⟨_, rfl⟩
  · rename_i c cs hk
    rw [if_neg (by simp [h c (by rw [hk]; rfl)])]
    exact ⟨_, rfl⟩

/-- A fraction begins with a digit. -/
theorem exists_readDigits_eq_error {k : Cursor} (h : ∀ c ∈ k.rest.head?, isDigit c = false) :
    ∃ fault, readDigits negative digits exponent k = .error fault := by
  unfold readDigits
  split
  · exact ⟨_, rfl⟩
  · rename_i c cs hk
    rw [if_neg (by simp [h c (by rw [hk]; rfl)])]
    exact ⟨_, rfl⟩

/-- A number begins with a digit. -/
theorem exists_readNumber_eq_error {k : Cursor} (h : ∀ c ∈ k.rest.head?, isDigit c = false) :
    ∃ fault, readNumber negative k = .error fault := by
  cases hread : readNumber negative k with
  | error fault => exact ⟨fault, rfl⟩
  | ok r =>
    cases hk : k.rest with
    | nil => simp [readNumber, hk] at hread
    | cons c cs =>
      have hdigit := (isDigit_of_readNumber hk hread).1
      rw [h c (by rw [hk]; rfl)] at hdigit
      cases hdigit

variable (hb : EndsValue b)
include hb

/-- Behind a text without a digit in front there is none in front either. -/
theorem EndsValue.isDigit_append {cs : List Char} (h : ∀ c ∈ cs.head?, isDigit c = false) :
    ∀ c ∈ (cs ++ b).head?, isDigit c = false := by
  cases cs with
  | nil => exact hb.isDigit_eq_false
  | cons c cs => exact h

/-- The same digits are taken when more text follows that begins with none. -/
theorem Fails.behind_digits (reader : Nat → Nat → Nat → Cursor → Except Fault (Json × Cursor))
    (hreader : ∀ n m extra, Fails (reader n m extra) b) (limit start : Nat) {k : Cursor}
    {fault : Fault}
    (h : reader (takeDigits limit start k.rest).1 (taken limit start k.rest)
      ((takeDigits limit start k.rest).2.takeWhile isDigit).length
      (k.skip (taken limit start k.rest +
        ((takeDigits limit start k.rest).2.takeWhile isDigit).length)) = .error fault)
    {j : Cursor} (hj : j.rest = k.rest ++ b) :
    ∃ fault, reader (takeDigits limit start j.rest).1 (taken limit start j.rest)
      ((takeDigits limit start j.rest).2.takeWhile isDigit).length
      (j.skip (taken limit start j.rest +
        ((takeDigits limit start j.rest).2.takeWhile isDigit).length)) = .error fault := by
  obtain ⟨hvalue, hmore, hcount⟩ := taken_append hb.endsNumber limit start hj
  rw [hvalue, hmore, hcount]
  exact (hreader _ _ _).behind (taken_add_le limit start k.rest) h hj

theorem fails_readPower (down : Bool) : Fails (readPower negative digits exponent down) b := by
  intro k fault h j hj
  rcases exists_digit_or k.rest with hnone | ⟨c, cs, hk, hc⟩
  · exact exists_readPower_eq_error (hj ▸ hb.isDigit_append hnone)
  have hj' : j.rest = c :: (cs ++ b) := by rw [hj, hk, List.cons_append]
  have hread {k : Cursor} {cs : List Char} (hk : k.rest = c :: cs) :
      readPower negative digits exponent down k =
        finishPower negative digits exponent down (takeDigits maxExponent 0 k.rest).1
          ((takeDigits maxExponent 0 k.rest).2.takeWhile isDigit)
          (k.skip (taken maxExponent 0 k.rest)) := by
    simp only [readPower, hk, hc, if_true]
  obtain ⟨hvalue, hmore, hcount⟩ := taken_append hb.endsNumber maxExponent 0 hj
  rw [hread hk] at h
  rw [hread hj', hvalue, hmore, hcount]
  exact (fails_finishPower down _ _).behind
    ((Nat.le_add_right _ _).trans (taken_add_le maxExponent 0 k.rest)) h hj

theorem fails_readSigned : Fails (readSigned negative digits exponent) b := by
  intro k fault h j hj
  cases hk : k.rest with
  | nil =>
    rw [hk, List.nil_append] at hj
    -- what follows is neither a sign nor a digit
    have hsign : exponentSign j = (false, j) := by
      unfold exponentSign
      split
      · rename_i hplus
        exact absurd rfl (hb.ne (hj ▸ hplus) (by decide) (by decide))
      · rename_i hminus
        exact absurd rfl (hb.ne (hj ▸ hminus) (by decide) (by decide))
      · rfl
    rw [readSigned, hsign]
    exact exists_readPower_eq_error (hj ▸ hb.isDigit_eq_false)
  | cons c cs =>
    obtain ⟨down, m, hm, hsign, hsame⟩ := exists_exponentSign k
    have hhead : j.rest.head? = k.rest.head? := by rw [hj, hk]; rfl
    simp only [readSigned, hsign] at h
    rw [readSigned, hsame j hhead]
    exact (fails_readPower hb down).behind hm h hj

theorem fails_readTail : Fails (readTail negative digits exponent) b := by
  intro k fault h j hj
  rw [readTail_eq] at h ⊢
  simp only [hj, head?_append_eq_some_iff hb.endsNumber k.rest (.inr (.inl rfl)),
    head?_append_eq_some_iff hb.endsNumber k.rest (.inr (.inr rfl))]
  split at h
  · rename_i hmark
    have hne : k.rest ≠ [] := by
      rintro hnil
      simp [hnil] at hmark
    rw [if_pos hmark]
    exact (fails_readSigned hb).next hne h hj
  · rename_i hmark
    rw [if_neg hmark]
    exact fails_finishNumber h j hj

theorem fails_readDigits : Fails (readDigits negative digits exponent) b := by
  intro k fault h j hj
  rcases exists_digit_or k.rest with hnone | ⟨c, cs, hk, hc⟩
  · exact exists_readDigits_eq_error (hj ▸ hb.isDigit_append hnone)
  have hj' : j.rest = c :: (cs ++ b) := by rw [hj, hk, List.cons_append]
  have hread {k : Cursor} {cs : List Char} (hk : k.rest = c :: cs) :
      readDigits negative digits exponent k =
        readTail negative (takeDigits maxWhole digits k.rest).1
          (exponent - taken maxWhole digits k.rest)
          (k.skip (taken maxWhole digits k.rest +
            ((takeDigits maxWhole digits k.rest).2.takeWhile isDigit).length)) := by
    simp only [readDigits, hk, hc, if_true]
  rw [hread hk] at h
  rw [hread hj']
  exact Fails.behind_digits hb (fun n m _ => readTail negative n (exponent - m))
    (fun _ _ _ => fails_readTail hb) maxWhole digits h hj

theorem fails_readBehind {extra : Nat} : Fails (readBehind negative digits extra) b := by
  intro k fault h j hj
  have hne {c : Char} (hc : k.rest.head? = some c) : k.rest ≠ [] := by
    rintro hnil
    rw [hnil] at hc
    cases hc
  rw [readBehind_eq] at h ⊢
  simp only [hj, head?_append_eq_some_iff hb.endsNumber k.rest (.inl rfl),
    head?_append_eq_some_iff hb.endsNumber k.rest (.inr (.inl rfl)),
    head?_append_eq_some_iff hb.endsNumber k.rest (.inr (.inr rfl))]
  split at h
  · rename_i hpoint
    rw [if_pos hpoint]
    exact (fails_readDigits hb).next (hne hpoint) h hj
  rename_i hpoint
  rw [if_neg hpoint]
  split at h
  · rename_i hmark
    rw [if_pos hmark]
    exact (fails_readSigned hb).next (hmark.elim hne hne) h hj
  rename_i hmark
  rw [if_neg hmark]
  split at h
  · cases h
  · rename_i hextra
    rw [if_neg hextra]
    exact fails_finishNumber h j hj

/-- **What is no number does not become one** by what follows. -/
theorem fails_readNumber : Fails (readNumber negative) b := by
  intro k fault h j hj
  rcases exists_digit_or k.rest with hnone | ⟨c, cs, hk, hc⟩
  · exact exists_readNumber_eq_error (hj ▸ hb.isDigit_append hnone)
  have hj' : j.rest = c :: (cs ++ b) := by rw [hj, hk, List.cons_append]
  cases hread : readNumber negative j with
  | error fault => exact ⟨fault, rfl⟩
  | ok r =>
    have hzero' := (isDigit_of_readNumber hj' hread).2
    have hzero : ¬(c = '0' ∧ (cs.head?.map isDigit).getD false = true) := by
      rintro ⟨rfl, hdigit⟩
      refine hzero' ⟨rfl, ?_⟩
      cases cs with
      | nil => cases hdigit
      | cons d cs => exact hdigit
    rw [readNumber_eq negative hk hc hzero] at h
    rw [← hread, readNumber_eq negative hj' hc hzero']
    exact Fails.behind_digits hb (fun n _ extra => readBehind negative n extra)
      (fun _ _ _ => fails_readBehind hb) maxWhole 0 h hj

end Fails

/-! ## Numbers by themselves -/

/-- A number that ends with its text is read in front of more text. -/
theorem reads_of_readNumber_eq {negative : Bool} {start last : Cursor} {v : Json}
    (h : readNumber negative start = .ok (v, last)) (hlast : last.rest = []) {rest : List Char}
    (hrest : EndsNumber rest) : Reads (readNumber negative) start.rest rest v := by
  intro k hk
  obtain ⟨n, hn, rfl, hread⟩ := extends_readNumber hrest h
  rw [Cursor.rest_skip] at hlast
  refine ⟨k.skip n, hread k hk, ?_⟩
  rw [Cursor.rest_skip, hk, List.drop_append_of_le_length hn, hlast, List.nil_append]

/-- **A number is read by itself**: it is a part of the text, and the same number wherever no longer number
begins behind it.

**Proof sketch.** The part alone is a number, since what is no number does not become one by what follows
(`fails_readNumber`), and nothing of it is left, since as much is read of it alone as of the text. -/
theorem reads_of_readNumber {negative : Bool} {k behind : Cursor} {v : Json}
    (h : readNumber negative k = .ok (v, behind)) (hbehind : EndsValue behind.rest) :
    ∃ raw, k.rest = raw ++ behind.rest ∧
      ∀ rest, EndsNumber rest → Reads (readNumber negative) raw rest v := by
  obtain ⟨n, hn, rfl, -⟩ := extends_readNumber (b := []) (fun _ h => by cases h) h
  rw [Cursor.rest_skip] at hbehind ⊢
  have hk : k.rest = k.rest.take n ++ k.rest.drop n := (List.take_append_drop n k.rest).symm
  refine ⟨k.rest.take n, hk, ?_⟩
  cases halone : readNumber negative ⟨k.rest.take n, 1, 0⟩ with
  | error fault =>
    obtain ⟨fault', herror⟩ := fails_readNumber hbehind halone k hk
    rw [h] at herror
    cases herror
  | ok r =>
    obtain ⟨m, -, hlast, hread⟩ := extends_readNumber hbehind.endsNumber halone
    obtain ⟨hvalue, hskip⟩ := Prod.mk.inj (Except.ok.inj ((hread k hk).symm.trans h))
    have hlengths := congrArg (fun k : Cursor => k.rest.length) hskip
    simp only [Cursor.rest_skip, List.length_drop] at hlengths
    have hnil : r.2.rest = [] := by
      rw [hlast, Cursor.rest_skip, List.drop_eq_nil_iff, List.length_take]
      omega
    obtain ⟨w, last⟩ := r
    obtain rfl : w = v := hvalue
    exact fun rest hrest => reads_of_readNumber_eq halone hnil hrest

/-! ## Strings and words by themselves -/

section Local

variable {α β : Type}

/-- What `reader` makes of a text it reads from the front, and makes of the same characters wherever they
stand and whatever follows them. -/
def Local (reader : Cursor → Except Fault (α × Cursor)) : Prop :=
  ∀ ⦃k : Cursor⦄ ⦃a : α⦄ ⦃behind : Cursor⦄, reader k = .ok (a, behind) →
    ∃ raw, k.rest = raw ++ behind.rest ∧ ∀ rest, Reads reader raw rest a

theorem length_eq_of_mapM {f : α → Option β} {as : List α} {bs : List β}
    (h : as.mapM f = some bs) : as.length = bs.length := by
  induction as generalizing bs with
  | nil =>
    cases h
    rfl
  | cons a as ih =>
    simp only [List.mapM_cons, Option.pure_def, Option.bind_eq_bind, Option.bind_eq_some_iff,
      Option.some.injEq] at h
    obtain ⟨b, -, bs, hbs, rfl⟩ := h
    rw [List.length_cons, List.length_cons, ih hbs]

/-- Four hexadecimal digits are read by themselves. -/
theorem local_readHex : Local readHex := by
  intro k n behind h
  unfold readHex at h
  dsimp only at h
  split at h
  · cases h
  rename_i hbytes
  split at h
  · rename_i a b c d hdigits
    cases h
    have hlength : (k.rest.take 4).length = 4 := length_eq_of_mapM hdigits
    refine ⟨k.rest.take 4, by simp, fun rest j hj => ⟨j.skip 4, ?_, ?_⟩⟩
    · have htake : j.rest.take 4 = k.rest.take 4 := by rw [hj, List.take_left' hlength]
      simp only [readHex, htake, hbytes, hdigits, if_false]
    · rw [Cursor.rest_skip, hj, List.drop_left' hlength]
  · cases h

/-- The character beyond the first 65536 that two numbers stand for. -/
def pairChar (n m : Nat) : Char :=
  Char.ofNat ((n - 0xD800) * 0x400 + (m - 0xDC00) + 0x10000)

/-- An escape by number is one number, or two of them for a character beyond the first 65536. -/
theorem readUnicode_eq_ok_iff {k behind : Cursor} {a : Char} :
    readUnicode k = .ok (a, behind) ↔ ∃ n k', readHex k = .ok (n, k') ∧
      ¬(0xDC00 ≤ n ∧ n ≤ 0xDFFF) ∧
        ((n < 0xD800 ∨ 0xDBFF < n) ∧ a = Char.ofNat n ∧ behind = k' ∨
          ¬(n < 0xD800 ∨ 0xDBFF < n) ∧ ∃ cs m, k'.rest = '\\' :: 'u' :: cs ∧
            readHex (k'.skip 2) = .ok (m, behind) ∧ ¬(m < 0xDC00 ∨ 0xDFFF < m) ∧
              a = pairChar n m) := by
  unfold readUnicode
  refine Except.bind_eq_ok_iff.trans ⟨?_, ?_⟩
  · rintro ⟨⟨n, k'⟩, hhex, h⟩
    refine ⟨n, k', hhex, ?_⟩
    dsimp only at h
    split at h
    · cases h
    rename_i htrail
    refine ⟨htrail, ?_⟩
    split at h
    · rename_i hsingle
      cases h
      exact .inl ⟨hsingle, rfl, rfl⟩
    rename_i hpair
    refine .inr ⟨hpair, ?_⟩
    split at h
    · cases h
    · split at h
      · cases h
      · rename_i cs hk'
        obtain ⟨⟨m, last⟩, hhex', h⟩ := Except.bind_eq_ok_iff.1 h
        dsimp only at h
        split at h
        · cases h
        · rename_i hrange
          obtain ⟨hchar, rfl⟩ := Prod.mk.inj (Except.ok.inj h)
          exact ⟨cs, m, hk', hhex', hrange, hchar.symm⟩
      · cases h
    · cases h
  · rintro ⟨n, k', hhex, htrail, ⟨hsingle, rfl, rfl⟩ | ⟨hpair, cs, m, hk', hhex', hrange, ha⟩⟩
    · refine ⟨_, hhex, ?_⟩
      simp only [htrail, hsingle, if_true, if_false, pure, Except.pure]
    · refine ⟨_, hhex, ?_⟩
      simp only [htrail, hpair, if_false, hk', hhex', hrange, bind, Except.bind, pure, Except.pure,
        ha, pairChar]

theorem local_readUnicode : Local readUnicode := by
  intro k a behind h
  obtain ⟨n, k', hhex, htrail, h⟩ := readUnicode_eq_ok_iff.1 h
  obtain ⟨raw, hk, hreads⟩ := local_readHex hhex
  rcases h with ⟨hsingle, rfl, rfl⟩ | ⟨hpair, cs, m, hk', hhex', hrange, ha⟩
  · refine ⟨raw, hk, fun rest j hj => ?_⟩
    obtain ⟨last, hread, hlast⟩ := hreads rest j hj
    exact ⟨last, readUnicode_eq_ok_iff.2 ⟨n, last, hread, htrail, .inl ⟨hsingle, rfl, rfl⟩⟩, hlast⟩
  · obtain ⟨raw', hskip, hreads'⟩ := local_readHex hhex'
    rw [Cursor.rest_skip, hk', List.drop_succ_cons, List.drop_succ_cons, List.drop_zero] at hskip
    refine ⟨raw ++ '\\' :: 'u' :: raw', by rw [hk, hk', hskip]; simp, fun rest j hj => ?_⟩
    obtain ⟨j', hread, hj'⟩ := hreads ('\\' :: 'u' :: (raw' ++ rest)) j (by rw [hj]; simp)
    obtain ⟨last, hread', hlast⟩ := hreads' rest (j'.skip 2) (by rw [Cursor.rest_skip, hj']; rfl)
    exact ⟨last, readUnicode_eq_ok_iff.2
      ⟨n, j', hread, htrail, .inr ⟨hpair, _, m, hj', hread', hrange, ha⟩⟩, hlast⟩

/-- An escape is one letter, or the number of a character behind a `u`. -/
theorem readEscape_cases {k behind : Cursor} {a : Char} (h : readEscape k = .ok (a, behind)) :
    ∃ c cs, k.rest = c :: cs ∧ (c = 'u' ∧ readUnicode k.next = .ok (a, behind) ∨
      behind = k.next ∧ ∀ (j : Cursor) rest, j.rest = c :: rest → readEscape j = .ok (a, j.next)) := by
  unfold readEscape at h
  split at h
  · cases h
  rename_i c cs hk
  refine ⟨c, cs, hk, ?_⟩
  split at h
  case h_9 => exact .inl ⟨rfl, h⟩
  case h_10 => cases h
  all_goals
    cases h
    exact .inr ⟨rfl, fun j rest hj => by simp only [readEscape, hj]⟩

theorem local_readEscape : Local readEscape := by
  intro k a behind h
  obtain ⟨c, cs, hk, ⟨rfl, hunicode⟩ | ⟨rfl, hletter⟩⟩ := readEscape_cases h
  · obtain ⟨raw, hnext, hreads⟩ := local_readUnicode hunicode
    rw [Cursor.rest_next_of_cons hk] at hnext
    refine ⟨'u' :: raw, by rw [hk, hnext, List.cons_append], fun rest j hj => ?_⟩
    obtain ⟨last, hread, hlast⟩ := hreads rest j.next (Cursor.rest_next_of_cons hj)
    exact ⟨last, by simp only [readEscape, hj, List.cons_append, hread], hlast⟩
  · refine ⟨[c], by rw [Cursor.rest_next_of_cons hk, hk]; rfl, fun rest j hj => ?_⟩
    exact ⟨j.next, hletter j rest hj, Cursor.rest_next_of_cons hj⟩

/-- **A string is read by its own characters**, up to its closing quote. -/
theorem local_readString (read : List Char) : Local (readString read) := by
  intro k s behind h
  fun_induction readString read k with
  | case1 | case3 | case5 | case6 => cases h
  | case2 read k cs hk =>
    cases h
    refine ⟨['"'], by rw [Cursor.rest_next_of_cons hk, hk]; rfl, fun rest j hj => ?_⟩
    exact ⟨j.next, readString_close hj, Cursor.rest_next_of_cons hj⟩
  | case4 read k cs c next hescape hless hk _ ih =>
    obtain ⟨raw, hnext, hreads⟩ := local_readEscape hescape
    obtain ⟨raw', hrest, hreads'⟩ := ih h
    rw [Cursor.rest_next_of_cons hk] at hnext
    refine ⟨'\\' :: raw ++ raw', by rw [hk, hnext, hrest]; simp, fun rest j hj => ?_⟩
    rw [List.append_assoc, List.cons_append] at hj
    obtain ⟨next', hread, hnext'⟩ := hreads (raw' ++ rest) j.next (Cursor.rest_next_of_cons hj)
    obtain ⟨last, hread', hlast⟩ := hreads' rest next' hnext'
    refine ⟨last, ?_, hlast⟩
    rw [readString_escape hj hread, hread']
    simp only [hj, hnext', List.length_cons, List.length_append]
    omega
  | case7 read k c cs hk hquote hslash hcontrol ih =>
    obtain ⟨raw, hrest, hreads⟩ := ih h
    rw [Cursor.rest_next_of_cons hk] at hrest
    refine ⟨c :: raw, by rw [hk, hrest, List.cons_append], fun rest j hj => ?_⟩
    rw [List.cons_append] at hj
    obtain ⟨last, hread, hlast⟩ := hreads rest j.next (Cursor.rest_next_of_cons hj)
    exact ⟨last, by rw [readString_plain hj hquote hslash hcontrol, hread], hlast⟩

/-- Nothing but a word is read as it. -/
theorem rest_of_readWord {word : List Char} {k behind : Cursor}
    (h : readWord word k = .ok behind) : k.rest = word ++ behind.rest := by
  induction word generalizing k with
  | nil =>
    cases h
    rfl
  | cons c word ih =>
    rw [readWord] at h
    split at h
    · cases h
    · rename_i d cs hk
      split at h
      · rename_i hc
        have hnext := ih h
        rw [Cursor.rest_next_of_cons hk] at hnext
        rw [hk, hnext, hc, List.cons_append]
      · cases h

/-- A word is read by itself. -/
theorem local_readWord (word : List Char) (v : Json) :
    Local fun k => (readWord word k).map fun k => (v, k) := by
  intro k w behind h
  obtain ⟨last, hword, heq⟩ := Except.map_eq_ok_iff.1 h
  cases heq
  refine ⟨word, rest_of_readWord hword, fun rest j hj => ?_⟩
  obtain ⟨last, hread, hlast⟩ := exists_readWord hj
  exact ⟨last, congrArg (Except.map _) hread, hlast⟩

theorem Local.map {reader : Cursor → Except Fault (α × Cursor)} (h : Local reader) (f : α → β) :
    Local fun k => (reader k).map fun r => (f r.1, r.2) := by
  intro k b behind hmap
  obtain ⟨⟨a, last⟩, hread, heq⟩ := Except.map_eq_ok_iff.1 hmap
  cases heq
  obtain ⟨raw, hk, hreads⟩ := h hread
  refine ⟨raw, hk, fun rest j hj => ?_⟩
  obtain ⟨last, hread, hlast⟩ := hreads rest j hj
  exact ⟨last, congrArg (Except.map _) hread, hlast⟩

/-- What is read by itself is so in front of everything behind which no longer number begins. -/
theorem Local.exists_raw {reader : Cursor → Except Fault (α × Cursor)} (h : Local reader)
    {k behind : Cursor} {a : α} (hread : reader k = .ok (a, behind)) :
    ∃ raw, k.rest = raw ++ behind.rest ∧ ∀ rest, EndsNumber rest → Reads reader raw rest a := by
  obtain ⟨raw, hk, hreads⟩ := h hread
  exact ⟨raw, hk, fun rest _ => hreads rest⟩

end Local

/-! ## Values in which nothing nests -/

/-- A value is read by itself if a reader behind its first character reads the rest of it by itself. -/
theorem exists_raw_of_next {reader : Cursor → Except Fault (Json × Cursor)} {k behind : Cursor} {c : Char}
    {cs : List Char} {v : Json} (hk : k.skipSpace.rest = c :: cs)
    (hreader : ∀ (j : Cursor) cs, j.skipSpace.rest = c :: cs →
      readValue 0 j = reader j.skipSpace.next)
    (hraw : ∃ raw, k.skipSpace.next.rest = raw ++ behind.rest ∧
      ∀ rest, EndsNumber rest → Reads reader raw rest v) :
    ∃ raw, k.skipSpace.rest = raw ++ behind.rest ∧
      ∀ rest, EndsNumber rest → Reads (readValue 0) raw rest v := by
  have hc : Cursor.isSpace c = false := Cursor.isSpace_of_rest_skipSpace hk
  obtain ⟨raw, hnext, hreads⟩ := hraw
  rw [Cursor.rest_next_of_cons hk] at hnext
  refine ⟨c :: raw, by rw [hk, hnext, List.cons_append], fun rest hrest j hj => ?_⟩
  have hskip := Cursor.rest_skipSpace_of_cons hj hc
  obtain ⟨last, hread, hlast⟩ := hreads rest hrest j.skipSpace.next (Cursor.rest_next_of_cons hskip)
  exact ⟨last, (hreader j _ hskip).trans hread, hlast⟩

/-- **A value in which nothing nests is read by itself**: behind white space it is a part of the text, and the
same value wherever no longer number begins behind it. -/
theorem reads_of_readValue {k behind : Cursor} {v : Json} (h : readValue 0 k = .ok (v, behind))
    (hbehind : EndsValue behind.rest) :
    ∃ raw, k.skipSpace.rest = raw ++ behind.rest ∧
      ∀ rest, EndsNumber rest → Reads (readValue 0) raw rest v := by
  cases hk : k.skipSpace.rest with
  | nil =>
    rw [readValue_nil hk] at h
    cases h
  | cons c cs =>
    rw [← hk]
    rcases head_cases c with ⟨word, w, hword⟩ | rfl | hdigit | rfl | hnested | ⟨hc, hdigit⟩
    · rw [readValue_word hword hk] at h
      exact exists_raw_of_next hk (fun _ _ => readValue_word hword) ((local_readWord word w).exists_raw h)
    · rw [readValue_minus hk] at h
      exact exists_raw_of_next hk (fun _ _ => readValue_minus) (reads_of_readNumber h hbehind)
    · rw [readValue_digit hk hdigit] at h
      obtain ⟨raw, hraw, hreads⟩ := reads_of_readNumber h hbehind
      have hne : raw ≠ [] := by
        rintro rfl
        obtain ⟨last, hread, -⟩ := hreads [] (fun _ h => by cases h) ⟨[], 1, 0⟩ rfl
        cases hread
      obtain ⟨d, ds, rfl⟩ := List.exists_cons_of_ne_nil hne
      obtain ⟨rfl, -⟩ := List.cons.inj (hk.symm.trans hraw)
      refine ⟨_, hraw, fun rest hrest j hj => ?_⟩
      have hskip := Cursor.rest_skipSpace_of_cons hj (isSpace_of_lt (lt_of_isDigit hdigit))
      rw [readValue_digit hskip hdigit]
      exact hreads rest hrest j.skipSpace hskip
    · rw [readValue_quote hk] at h
      exact exists_raw_of_next hk (fun _ _ => readValue_quote)
        (((local_readString []).map Json.string).exists_raw h)
    · rw [readValue_zero hk hnested] at h
      cases h
    · rw [readValue_other hk hc hdigit] at h
      cases h

end RecordQuery.Json
