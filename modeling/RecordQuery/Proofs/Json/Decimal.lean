import Mathlib.Data.List.TakeWhile
import RecordQuery.Proofs.Except
import RecordQuery.Proofs.Json.Numeral
import RecordQuery.Proofs.Number.Rounding

set_option autoImplicit false

/-!
# Other numbers in JSON texts

A number with a point, an exponent or more than 64 bits is read in front of more text as it is read
alone, as long as no longer number begins there. So it is read back wherever it is written if it is
read back at all.

## Main definitions

* `RecordQuery.Json.Extends` — a reader does the same when more text follows.
* `RecordQuery.Json.ReadsBack` — a number that is read back from its own text.

## Main results

* `RecordQuery.Json.extends_readNumber` — what follows a number does not change it.
* `RecordQuery.Json.reads_decimal` — a number that is read back alone is read back anywhere.
-/

namespace RecordQuery.Json

/-! ## Readers in front of more text -/

theorem Cursor.skip_skip (m n : Nat) (k : Cursor) : (k.skip m).skip n = k.skip (m + n) := by
  induction m generalizing k with
  | zero => rw [Nat.zero_add]; rfl
  | succ m ih => rw [Nat.add_right_comm, skip, skip, ih]

/-- `reader` reads the next characters of a text, and the same ones when `b` follows the text. -/
def Extends (reader : Cursor → Except Fault (Json × Cursor)) (b : List Char) : Prop :=
  ∀ ⦃k : Cursor⦄ ⦃v : Json⦄ ⦃behind : Cursor⦄, reader k = .ok (v, behind) →
    ∃ n ≤ k.rest.length, behind = k.skip n ∧
      ∀ j : Cursor, j.rest = k.rest ++ b → reader j = .ok (v, j.skip n)

section Extends

variable {b : List Char} {negative : Bool} {digits : Nat} {exponent : Int}

/-- What is read behind some characters is read there when more text follows. -/
theorem Extends.behind {reader : Cursor → Except Fault (Json × Cursor)} (hreader : Extends reader b)
    {k : Cursor} {v : Json} {behind : Cursor} {m : Nat} (hm : m ≤ k.rest.length)
    (h : reader (k.skip m) = .ok (v, behind)) :
    ∃ n ≤ k.rest.length, behind = k.skip n ∧
      ∀ j : Cursor, j.rest = k.rest ++ b → reader (j.skip m) = .ok (v, j.skip n) := by
  obtain ⟨n, hn, rfl, hj⟩ := hreader h
  refine ⟨m + n, ?_, Cursor.skip_skip m n k, fun j hrest => ?_⟩
  · rw [Cursor.rest_skip, List.length_drop] at hn
    omega
  · rw [← Cursor.skip_skip]
    apply hj
    rw [Cursor.rest_skip, Cursor.rest_skip, hrest, List.drop_append_of_le_length hm]

/-- What is read behind the next character is read there when more text follows. -/
theorem Extends.next {reader : Cursor → Except Fault (Json × Cursor)} (hreader : Extends reader b)
    (hne : ∀ {k : Cursor} {r : Json × Cursor}, reader k = .ok r → k.rest ≠ []) :
    Extends (fun k => reader k.next) b := by
  intro k v behind h
  have hnext := hne h
  obtain ⟨n, hn, hbehind, hread⟩ := hreader h
  rw [Cursor.rest_next] at hnext hn
  obtain ⟨c, cs, hk⟩ := List.exists_cons_of_ne_nil (List.ne_nil_of_tail_ne_nil hnext)
  refine ⟨n + 1, ?_, hbehind, fun j hj => hread j.next ?_⟩
  · rw [hk] at hn ⊢
    exact Nat.succ_le_succ hn
  · rw [Cursor.rest_next, Cursor.rest_next, hj, hk, List.cons_append, List.tail_cons,
      List.tail_cons]

theorem extends_finishNumber : Extends (finishNumber negative digits exponent) b := by
  intro k v behind h
  unfold finishNumber at h
  split at h
  · rename_i m hm
    cases h
    exact ⟨0, Nat.zero_le _, rfl, fun j _ => by simp [finishNumber, hm, Cursor.skip]⟩
  · cases h

/-- The end of a number behind all its digits is an exponent, if there is one. -/
theorem readTail_eq (k : Cursor) :
    readTail negative digits exponent k =
      if k.rest.head? = some 'e' ∨ k.rest.head? = some 'E' then
        readExponent negative digits exponent k
      else finishNumber negative digits exponent k := by
  unfold readTail
  split <;> simp_all [List.head?_eq_some_iff]

/-- Whether the sign of an exponent is a minus, and the cursor behind it. -/
def exponentSign (k : Cursor) : Bool × Cursor :=
  match k.rest with
  | '+' :: _ => (false, k.next)
  | '-' :: _ => (true, k.next)
  | _ => (false, k)

/-- The number with the exponent whose first digits are `power`; `more` are those that are too many,
and `down` says that the sign is a minus. -/
def finishPower (negative : Bool) (digits : Nat) (exponent : Int) (down : Bool) (power : Nat)
    (more : List Char) (k : Cursor) : Except Fault (Json × Cursor) :=
  match more with
  | [] => finishNumber negative digits (if down then exponent - power else exponent + power) k
  | more =>
    if digits ≠ 0 ∧ ¬down then .error (k.next.here .numberOutOfRange)
    else .ok (.decimal (.real negative Magnitude.zero), k.skip more.length)

/-- Reads the digits of an exponent behind its sign. -/
def readPower (negative : Bool) (digits : Nat) (exponent : Int) (down : Bool) (k : Cursor) :
    Except Fault (Json × Cursor) :=
  match k.rest with
  | [] => .error (k.here .endInValue)
  | c :: _ =>
    if isDigit c then
      finishPower negative digits exponent down (takeDigits maxExponent 0 k.rest).1
        ((takeDigits maxExponent 0 k.rest).2.takeWhile isDigit)
        (k.skip (taken maxExponent 0 k.rest))
    else .error (k.ahead .invalidNumber)

/-- The sign of an exponent is at most one character, and only the next one matters. -/
theorem exists_exponentSign (k : Cursor) : ∃ down, ∃ m ≤ k.rest.length,
    exponentSign k = (down, k.skip m) ∧
      ∀ j : Cursor, j.rest.head? = k.rest.head? → exponentSign j = (down, j.skip m) := by
  have hsign : ∀ j : Cursor, exponentSign j =
      if j.rest.head? = some '+' then (false, j.skip 1)
      else if j.rest.head? = some '-' then (true, j.skip 1) else (false, j.skip 0) := by
    intro j
    unfold exponentSign
    cases hj : j.rest with
    | nil => rfl
    | cons c cs =>
      by_cases hplus : c = '+'
      · simp [hplus, Cursor.skip]
      by_cases hminus : c = '-'
      · simp [hminus, Cursor.skip]
      · simp [hplus, hminus, Cursor.skip]
  by_cases hplus : k.rest.head? = some '+'
  · refine ⟨false, 1, ?_, by simp [hsign, hplus], fun j hj => by simp [hsign, hj, hplus]⟩
    exact List.length_pos_iff.2 fun hnil => by simp [hnil] at hplus
  by_cases hminus : k.rest.head? = some '-'
  · refine ⟨true, 1, ?_, by simp [hsign, hminus], fun j hj => by simp [hsign, hj, hminus]⟩
    exact List.length_pos_iff.2 fun hnil => by simp [hnil] at hminus
  · exact ⟨false, 0, Nat.zero_le _, by simp [hsign, hplus, hminus],
      fun j hj => by simp [hsign, hj, hplus, hminus]⟩

/-- Reads the sign and the digits of an exponent. -/
def readSigned (negative : Bool) (digits : Nat) (exponent : Int) (k : Cursor) :
    Except Fault (Json × Cursor) :=
  readPower negative digits exponent (exponentSign k).1 (exponentSign k).2

/-- Reads the digits behind the point and what follows them. -/
def readDigits (negative : Bool) (digits : Nat) (exponent : Int) (k : Cursor) :
    Except Fault (Json × Cursor) :=
  match k.rest with
  | [] => .error (k.here .endInValue)
  | c :: _ =>
    if isDigit c then
      readTail negative (takeDigits maxWhole digits k.rest).1
        (exponent - taken maxWhole digits k.rest)
        (k.skip (taken maxWhole digits k.rest +
          ((takeDigits maxWhole digits k.rest).2.takeWhile isDigit).length))
    else .error (k.ahead .invalidNumber)

/-- An exponent is its letter, a sign and digits. -/
theorem readExponent_eq :
    readExponent negative digits exponent = fun k => readSigned negative digits exponent k.next :=
  rfl

/-- A fraction is a point, digits and what follows them. -/
theorem readFraction_eq :
    readFraction negative digits exponent = fun k => readDigits negative digits exponent k.next :=
  rfl

/-- An exponent has something behind its letter. -/
theorem rest_ne_nil_of_readSigned {k : Cursor} {r : Json × Cursor}
    (h : readSigned negative digits exponent k = .ok r) : k.rest ≠ [] := by
  obtain ⟨down', m, -, hsign, -⟩ := exists_exponentSign k
  intro hnil
  have hrest : (exponentSign k).2.rest = [] := by simp [hsign, hnil]
  simp only [readSigned, readPower, hrest] at h
  cases h

/-- A fraction has something behind its point. -/
theorem rest_ne_nil_of_readDigits {k : Cursor} {r : Json × Cursor}
    (h : readDigits negative digits exponent k = .ok r) : k.rest ≠ [] := by
  intro hnil
  simp only [readDigits, hnil] at h
  cases h

/-- The digits that are taken and those behind them are in front of the text. -/
theorem taken_add_le (limit start : Nat) (cs : List Char) :
    taken limit start cs + ((takeDigits limit start cs).2.takeWhile isDigit).length ≤
      cs.length := by
  have hsuffix := (takeDigits_suffix limit start cs).length_le
  have hprefix := (List.takeWhile_prefix (l := (takeDigits limit start cs).2) isDigit).length_le
  simp only [taken]
  omega

variable (hb : EndsNumber b)
include hb

/-- A run of digits ends where it did. -/
theorem takeWhile_isDigit_append (cs : List Char) :
    (cs ++ b).takeWhile isDigit = cs.takeWhile isDigit := by
  rw [List.takeWhile_append]
  split
  · rename_i hlength
    rw [hb.takeWhile_isDigit, List.append_nil, (List.takeWhile_prefix isDigit).eq_of_length hlength]
  · rfl

/-- The same digits are taken when more text follows. -/
theorem taken_append (limit start : Nat) {cs ds : List Char} (h : ds = cs ++ b) :
    (takeDigits limit start ds).1 = (takeDigits limit start cs).1 ∧
      (takeDigits limit start ds).2.takeWhile isDigit =
        (takeDigits limit start cs).2.takeWhile isDigit ∧
      taken limit start ds = taken limit start cs := by
  subst h
  have htake := takeDigits_append hb.isDigit_eq_false limit start cs
  refine ⟨by rw [htake], by rw [htake, takeWhile_isDigit_append hb], ?_⟩
  simp only [taken, htake, List.length_append]
  omega

theorem extends_readPower (down : Bool) : Extends (readPower negative digits exponent down) b := by
  intro k v behind h
  unfold readPower at h
  split at h
  · cases h
  rename_i c cs hk
  split at h
  swap
  · cases h
  rename_i hc
  have hfront := taken_add_le maxExponent 0 k.rest
  have hread : ∀ j : Cursor, j.rest = k.rest ++ b → readPower negative digits exponent down j =
      finishPower negative digits exponent down (takeDigits maxExponent 0 k.rest).1
        ((takeDigits maxExponent 0 k.rest).2.takeWhile isDigit)
        (j.skip (taken maxExponent 0 k.rest)) := by
    intro j hj
    obtain ⟨hvalue, hmore, hcount⟩ := taken_append hb maxExponent 0 hj
    rw [← hvalue, ← hmore, ← hcount]
    rw [hk, List.cons_append] at hj
    simp only [readPower, hj, hc, if_true]
  unfold finishPower at h hread
  split at h
  · rename_i hmore
    obtain ⟨n, hn, hbehind, hfinish⟩ :=
      Extends.behind (b := b) extends_finishNumber ((Nat.le_add_right _ _).trans hfront) h
    refine ⟨n, hn, hbehind, fun j hj => ?_⟩
    rw [hread j hj, hmore]
    exact hfinish j hj
  · split at h
    · cases h
    rename_i hrange
    cases h
    refine ⟨_, hfront, Cursor.skip_skip _ _ _, fun j hj => ?_⟩
    rw [hread j hj, ← Cursor.skip_skip]
    split
    · contradiction
    · rw [if_neg hrange]

theorem extends_readSigned : Extends (readSigned negative digits exponent) b := by
  intro k v behind h
  have hne := rest_ne_nil_of_readSigned h
  obtain ⟨down, m, hm, hsign, hsame⟩ := exists_exponentSign k
  simp only [readSigned, hsign] at h
  obtain ⟨n, hn, hbehind, hread⟩ := (extends_readPower hb down).behind hm h
  refine ⟨n, hn, hbehind, fun j hj => ?_⟩
  have hhead : j.rest.head? = k.rest.head? := by rw [hj, List.head?_append_of_ne_nil _ hne]
  rw [readSigned, hsame j hhead]
  exact hread j hj

theorem extends_readExponent : Extends (readExponent negative digits exponent) b :=
  (extends_readSigned hb).next rest_ne_nil_of_readSigned

/-- Behind a number nothing stands that could be taken for a part of it. -/
theorem head?_append_eq_some_iff (cs : List Char) {c : Char} (hc : c = '.' ∨ c = 'e' ∨ c = 'E') :
    (cs ++ b).head? = some c ↔ cs.head? = some c := by
  cases cs with
  | cons d cs => rfl
  | nil => exact iff_of_false (hb.head?_ne hc) (fun hhead => by cases hhead)

theorem extends_readTail : Extends (readTail negative digits exponent) b := by
  intro k v behind h
  have hread {j : Cursor} (hj : j.rest = k.rest ++ b) :
      readTail negative digits exponent j =
        if k.rest.head? = some 'e' ∨ k.rest.head? = some 'E' then
          readExponent negative digits exponent j
        else finishNumber negative digits exponent j := by
    simp only [readTail_eq, hj, head?_append_eq_some_iff hb k.rest (.inr (.inl rfl)),
      head?_append_eq_some_iff hb k.rest (.inr (.inr rfl))]
  rw [readTail_eq] at h
  split at h
  · rename_i hmark
    obtain ⟨n, hn, hbehind, hexponent⟩ := extends_readExponent hb h
    exact ⟨n, hn, hbehind, fun j hj => by rw [hread hj, if_pos hmark, hexponent j hj]⟩
  · rename_i hmark
    obtain ⟨n, hn, hbehind, hfinish⟩ := extends_finishNumber (b := b) h
    exact ⟨n, hn, hbehind, fun j hj => by rw [hread hj, if_neg hmark, hfinish j hj]⟩

/-- A reader behind digits, which may depend on them, does the same when more text follows. -/
theorem Extends.behind_digits (reader : Nat → Nat → Nat → Cursor → Except Fault (Json × Cursor))
    (hreader : ∀ n m extra, Extends (reader n m extra) b) (limit start : Nat) {k behind : Cursor}
    {v : Json}
    (h : reader (takeDigits limit start k.rest).1 (taken limit start k.rest)
      ((takeDigits limit start k.rest).2.takeWhile isDigit).length
      (k.skip (taken limit start k.rest +
        ((takeDigits limit start k.rest).2.takeWhile isDigit).length)) = .ok (v, behind)) :
    ∃ n ≤ k.rest.length, behind = k.skip n ∧ ∀ j : Cursor, j.rest = k.rest ++ b →
      reader (takeDigits limit start j.rest).1 (taken limit start j.rest)
        ((takeDigits limit start j.rest).2.takeWhile isDigit).length
        (j.skip (taken limit start j.rest +
          ((takeDigits limit start j.rest).2.takeWhile isDigit).length)) = .ok (v, j.skip n) := by
  obtain ⟨n, hn, hbehind, hread⟩ := (hreader _ _ _).behind (taken_add_le limit start k.rest) h
  refine ⟨n, hn, hbehind, fun j hj => ?_⟩
  obtain ⟨hvalue, hmore, hcount⟩ := taken_append hb limit start hj
  rw [hvalue, hmore, hcount]
  exact hread j hj

theorem extends_readDigits : Extends (readDigits negative digits exponent) b := by
  intro k v behind h
  unfold readDigits at h
  split at h
  · cases h
  rename_i c cs hk
  split at h
  swap
  · cases h
  rename_i hc
  obtain ⟨n, hn, hbehind, hread⟩ := Extends.behind_digits hb
    (fun n m _ => readTail negative n (exponent - m)) (fun _ _ _ => extends_readTail hb) maxWhole
    digits h
  refine ⟨n, hn, hbehind, fun j hj => ?_⟩
  rw [← hread j hj]
  rw [hk, List.cons_append] at hj
  simp only [readDigits, hj, hc, if_true]

theorem extends_readFraction : Extends (readFraction negative digits exponent) b :=
  (extends_readDigits hb).next rest_ne_nil_of_readDigits

theorem extends_readBehind {extra : Nat} : Extends (readBehind negative digits extra) b := by
  intro k v behind h
  have hread {j : Cursor} (hj : j.rest = k.rest ++ b) :
      readBehind negative digits extra j =
        if k.rest.head? = some '.' then readFraction negative digits extra j
        else if k.rest.head? = some 'e' ∨ k.rest.head? = some 'E' then
          readExponent negative digits extra j
        else if extra = 0 then .ok (wholeNumber negative digits, j)
        else finishNumber negative digits extra j := by
    simp only [readBehind_eq, hj, head?_append_eq_some_iff hb k.rest (.inl rfl),
      head?_append_eq_some_iff hb k.rest (.inr (.inl rfl)),
      head?_append_eq_some_iff hb k.rest (.inr (.inr rfl))]
  rw [readBehind_eq] at h
  split at h
  · rename_i hpoint
    obtain ⟨n, hn, hbehind, hfraction⟩ := extends_readFraction hb h
    exact ⟨n, hn, hbehind, fun j hj => by rw [hread hj, if_pos hpoint, hfraction j hj]⟩
  rename_i hpoint
  split at h
  · rename_i hmark
    obtain ⟨n, hn, hbehind, hexponent⟩ := extends_readExponent hb h
    exact ⟨n, hn, hbehind, fun j hj => by
      rw [hread hj, if_neg hpoint, if_pos hmark, hexponent j hj]⟩
  rename_i hmark
  split at h
  · rename_i hextra
    cases h
    exact ⟨0, Nat.zero_le _, rfl, fun j hj => by
      rw [hread hj, if_neg hpoint, if_neg hmark, if_pos hextra]; rfl⟩
  · rename_i hextra
    obtain ⟨n, hn, hbehind, hfinish⟩ := extends_finishNumber (b := b) h
    exact ⟨n, hn, hbehind, fun j hj => by
      rw [hread hj, if_neg hpoint, if_neg hmark, if_neg hextra, hfinish j hj]⟩

/-- **What follows a number does not change it**, unless a longer number begins there. -/
theorem extends_readNumber : Extends (readNumber negative) b := by
  intro k v behind h
  cases hk : k.rest with
  | nil => simp [readNumber, hk] at h
  | cons c cs =>
    obtain ⟨hc, hzero⟩ := isDigit_of_readNumber hk h
    have hzero' : ¬(c = '0' ∧ ((cs ++ b).head?.map isDigit).getD false = true) := by
      rintro ⟨hc0, hhead⟩
      cases cs with
      | cons d cs => exact hzero ⟨hc0, hhead⟩
      | nil =>
        cases b with
        | nil => cases hhead
        | cons d b => simp [hb.isDigit_eq_false d rfl] at hhead
    rw [readNumber_eq negative hk hc hzero] at h
    rw [← hk]
    obtain ⟨n, hn, hbehind, hread⟩ := Extends.behind_digits hb
      (fun n _ extra => readBehind negative n extra) (fun _ _ _ => extends_readBehind hb)
      maxWhole 0 h
    refine ⟨n, hn, hbehind, fun j hj => ?_⟩
    rw [readNumber_eq negative (by rw [hj, hk, List.cons_append]) hc hzero']
    exact hread j hj

end Extends

/-! ## Numbers as text -/

/-- Characters behind the blank, which are neither white space of JSON nor control characters. -/
def Solid (cs : List Char) : Prop := ∀ c ∈ cs, 0x20 < c.toNat

instance (cs : List Char) : Decidable (Solid cs) := List.decidableBAll _ cs

theorem Solid.append {cs ds : List Char} (hcs : Solid cs) (hds : Solid ds) : Solid (cs ++ ds) :=
  List.forall_mem_append.2 ⟨hcs, hds⟩

theorem Solid.mono {cs ds : List Char} (hds : Solid ds) (h : cs ⊆ ds) : Solid cs :=
  fun c hc => hds c (h hc)

theorem Solid.isSpace_eq_false {cs : List Char} (h : Solid cs) {c : Char} (hc : c ∈ cs) :
    Cursor.isSpace c = false := isSpace_of_lt (h c hc)

theorem solid_repr (n : Nat) : Solid (Nat.repr n).toList := by
  intro c hc
  rw [Nat.toList_repr] at hc
  exact lt_of_isDigit (isDigit_of_mem_toDigits hc)

theorem solid_zeros (n : Nat) : Solid (zeros n).toList := by
  intro c hc
  rw [zeros, String.toList_ofList] at hc
  rw [List.eq_of_mem_replicate hc]
  decide

theorem solid_inFull (d : Decimal) {ending : String} (hending : Solid ending.toList) :
    Solid (d.inFull ending).toList := by
  have hdigits := solid_repr d.digits
  unfold Decimal.inFull
  dsimp only
  split
  · rw [String.toList_append, String.toList_append]
    exact (hdigits.append (solid_zeros _)).append hending
  split
  · simp only [String.toList_append, String.toList_ofList]
    exact ((hdigits.mono (List.take_subset _ _)).append (by decide)).append
      (hdigits.mono (List.drop_subset _ _))
  · rw [String.toList_append, String.toList_append]
    exact (Solid.append (by decide) (solid_zeros _)).append hdigits

theorem solid_scientific (d : Decimal) : Solid d.scientific.toList := by
  have hdigits := solid_repr d.digits
  unfold Decimal.scientific
  dsimp only
  simp only [String.toList_append, String.toList_ofList]
  refine ((((hdigits.mono (List.take_subset _ _)).append ?_).append ?_).append ?_).append
    (solid_repr _)
  · split
    · decide
    · simp only [String.toList_append, String.toList_ofList]
      exact Solid.append (by decide) (hdigits.mono (List.drop_subset _ _))
  · decide
  · split <;> decide

theorem Decimal.solid_toText (d : Decimal) :
    Solid (if numberStyle.inFull d.leading then d.inFull numberStyle.wholeEnding
      else d.scientific).toList := by
  split
  · have hending : Solid numberStyle.wholeEnding.toList := by decide
    exact solid_inFull d hending
  · exact solid_scientific d

/-- There is no white space in the text of a number. -/
theorem solid_toText (x : Number) : Solid (x.toText numberStyle).toList := by
  cases x with
  | nan => decide
  | real negative m =>
    rw [Number.toText, String.toList_append]
    refine Solid.append (by cases negative <;> decide) ?_
    split
    · decide
    · exact Decimal.solid_toText _

/-! ## Reading numbers back -/

/-- A value that is no whole number begins with a minus sign or a digit. -/
theorem readNumber_of_readValue {depth : Nat} {k : Cursor} {x : Number} {behind : Cursor}
    (h : readValue depth k = .ok (.decimal x, behind)) :
    (∃ cs, k.skipSpace.rest = '-' :: cs ∧
        readNumber true k.skipSpace.next = .ok (.decimal x, behind)) ∨
      ∃ c cs, k.skipSpace.rest = c :: cs ∧ isDigit c = true ∧
        readNumber false k.skipSpace = .ok (.decimal x, behind) := by
  unfold readValue at h
  dsimp only at h
  split at h
  · cases h
  rename_i c cs hk
  -- the words, texts, arrays and objects are values of another kind
  split at h
  · simp [Except.map_eq_ok_iff] at h
  split at h
  · simp [Except.map_eq_ok_iff] at h
  split at h
  · simp [Except.map_eq_ok_iff] at h
  split at h
  · rename_i hminus
    exact .inl ⟨cs, hminus ▸ hk, h⟩
  split at h
  · rename_i hdigit
    exact .inr ⟨c, cs, hk, hdigit, h⟩
  split at h
  · simp [Except.map_eq_ok_iff] at h
  split at h
  · cases depth with
    | zero => cases h
    | succ depth => simp [Except.map_eq_ok_iff] at h
  split at h
  · cases depth with
    | zero => cases h
    | succ depth => simp [Except.map_eq_ok_iff] at h
  · cases h

/-- The value of a text without white space ends with the text. -/
theorem exists_readValue_of_read {text : List Char} {v : Json} (h : read text = .ok v) :
    ∃ behind, readValue maxDepth (Cursor.start text) = .ok (v, behind) ∧
      ∀ c ∈ behind.rest, Cursor.isSpace c = true := by
  obtain ⟨⟨w, behind⟩, hvalue, h⟩ := Except.bind_eq_ok_iff.1 h
  obtain ⟨⟨⟩, hend, h⟩ := Except.bind_eq_ok_iff.1 h
  cases h
  refine ⟨behind, hvalue, ?_⟩
  unfold readEnd at hend
  dsimp only at hend
  split at hend
  · rename_i hnil
    rw [Cursor.rest_skipSpace] at hnil
    exact List.dropWhile_eq_nil_iff.1 hnil
  · cases hend

/-- A number that ends with its text is read in front of more text. -/
theorem exists_readNumber_append {negative : Bool} {start behind : Cursor} {v : Json}
    (hsolid : Solid start.rest) (h : readNumber negative start = .ok (v, behind))
    (hspace : ∀ c ∈ behind.rest, Cursor.isSpace c = true) {rest : List Char}
    (hrest : EndsNumber rest) {k : Cursor} (hk : k.rest = start.rest ++ rest) :
    ∃ last, readNumber negative k = .ok (v, last) ∧ last.rest = rest := by
  obtain ⟨n, hn, rfl, hread⟩ := extends_readNumber hrest h
  rw [Cursor.rest_skip] at hspace
  have hnil : start.rest.drop n = [] := by
    refine List.eq_nil_iff_forall_not_mem.2 fun c hc => ?_
    have hspace' := hspace c hc
    rw [hsolid.isSpace_eq_false (List.drop_subset _ _ hc)] at hspace'
    cases hspace'
  refine ⟨k.skip n, hread k hk, ?_⟩
  rw [Cursor.rest_skip, hk, List.drop_append_of_le_length hn, hnil, List.nil_append]

/-- A number that is read back from its own text. -/
def ReadsBack (x : Number) : Prop := read (write (.decimal x)) = .ok (.decimal x)

/-- **A number that is read back alone is read back** where no longer number begins. -/
theorem reads_decimal {x : Number} (h : ReadsBack x) {rest : List Char} (hrest : EndsNumber rest)
    (depth : Nat) :
    Reads (readValue depth) (write (.decimal x)) rest (.decimal x) := by
  intro k hk
  have hsolid : Solid (write (.decimal x)) := by
    rw [write]
    exact solid_toText x
  obtain ⟨behind, hvalue, hspace⟩ := exists_readValue_of_read h
  generalize write (.decimal x) = text at *
  have hstart : (Cursor.start text).skipSpace.rest = text :=
    Cursor.rest_skipSpace_of_append (List.forall_mem_nil _)
      (fun c hc => hsolid.isSpace_eq_false (List.mem_of_mem_head? hc)) rfl
  have hhead {c : Char} {cs : List Char} (hcs : text = c :: cs) :
      k.skipSpace.rest = c :: (cs ++ rest) := by
    refine Cursor.rest_skipSpace_of_cons (by rw [hk, hcs, List.cons_append]) ?_
    exact hsolid.isSpace_eq_false (by rw [hcs]; exact List.mem_cons_self)
  rcases readNumber_of_readValue hvalue with ⟨cs, hcs, hread⟩ | ⟨c, cs, hcs, hdigit, hread⟩
  · have hk' := hhead (hstart ▸ hcs)
    rw [readValue_minus hk']
    refine exists_readNumber_append ?_ hread hspace hrest (by simp [hcs, hk'])
    rw [Cursor.rest_next, hcs, List.tail_cons]
    exact hsolid.mono (by rw [← hstart, hcs]; exact List.subset_cons_self _ _)
  · have hk' := hhead (hstart ▸ hcs)
    rw [readValue_digit hk' hdigit]
    exact exists_readNumber_append (by rwa [hstart]) hread hspace hrest
      (by rw [hk', hcs, List.cons_append])

/-! ## The zero with a sign -/

/-- Zero times a power of ten is zero. -/
theorem scaleByTen_zero {exponent : Int} (h : exponent.natAbs ≤ maxTen) :
    scaleByTen Magnitude.zero exponent = some Magnitude.zero := by
  have hscaled : Magnitude.zero.scaled = 0 := by decide
  rw [scaleByTen, if_pos h]
  dsimp only
  split
  · have hmul : Magnitude.zero.mul (Magnitude.ofDecimal 1 exponent.natAbs) = Magnitude.zero := by
      rw [Magnitude.mul, hscaled, Nat.zero_mul, Magnitude.nearest_zero]
    rw [hmul, if_neg (by decide)]
  · rw [Magnitude.div, hscaled, Magnitude.nearest_zero]

/-- **The zero with a minus sign is read back**, though it is kept as no whole number. -/
theorem readsBack_zero : ReadsBack (.real true Magnitude.zero) := by
  have hwrite : write (.decimal (.real true Magnitude.zero)) = ['-', '0', '.', '0'] := by decide
  have hvalue : readValue maxDepth ⟨['-', '0', '.', '0'], 1, 0⟩ =
      readNumber true ⟨['0', '.', '0'], 1, 1⟩ := readValue_minus rfl
  have hnumber : readNumber true ⟨['0', '.', '0'], 1, 1⟩ =
      finishNumber true 0 (-1) ⟨[], 1, 4⟩ := rfl
  have hfinish : finishNumber true 0 (-1) ⟨[], 1, 4⟩ =
      .ok (.decimal (.real true Magnitude.zero), ⟨[], 1, 4⟩) := by
    rw [finishNumber, Magnitude.nearest_zero, scaleByTen_zero (by decide)]
  rw [ReadsBack, hwrite, read, Cursor.start, hvalue, hnumber, hfinish]
  rfl

end RecordQuery.Json
