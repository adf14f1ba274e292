import Mathlib.Data.List.Basic
import RecordQuery.Proofs.Text.Digits
import RecordQuery.Text.Blank

set_option autoImplicit false

/-!
# Trimmed texts

White space is taken off the ends of a text and nowhere else.

## Main definitions

* `RecordQuery.NoBlank` — texts without white space.

## Main results

* `RecordQuery.Text.trim_eq_self` — a text without white space at its ends is its own trimmed text.
* `RecordQuery.Text.mem_of_mem_trim` — trimming adds no characters.
* `RecordQuery.NoBlank.trim_append` — nothing is taken off a text whose first and last parts hold no
  white space.
-/

namespace RecordQuery

namespace Text

/-- Digits are not white space. -/
theorem isBlank_of_isDigit {c : Char} (h : isDigit c = true) : isBlank c = false := by
  obtain ⟨hlow, hhigh⟩ := (isDigit_iff c).1 h
  simp only [isBlank, blankRanges, List.any_cons, List.any_nil, Bool.or_false, Bool.or_eq_false_iff,
    Bool.and_eq_false_iff, decide_eq_false_iff_not]
  omega

/-- Nothing is taken off a text that does not start with white space. -/
theorem trimStart_eq_self {cs : List Char} (h : ∀ c ∈ cs.head?, isBlank c = false) :
    trimStart cs = cs := by
  cases cs with
  | nil => rfl
  | cons c cs => rw [trimStart, List.dropWhile_cons, h c rfl, if_neg Bool.false_ne_true]

/-- **A text without white space at its ends is its own trimmed text.** -/
theorem trim_eq_self {cs : List Char} (hhead : ∀ c ∈ cs.head?, isBlank c = false)
    (hlast : ∀ c ∈ cs.getLast?, isBlank c = false) : trim cs = cs := by
  rw [← List.head?_reverse] at hlast
  rw [trim, trimStart_eq_self hhead, trimEnd, trimStart_eq_self hlast, List.reverse_reverse]

/-- Trimming adds no characters. -/
theorem mem_of_mem_trim {c : Char} {cs : List Char} (h : c ∈ trim cs) : c ∈ cs := by
  have hstart {ds : List Char} (hd : c ∈ trimStart ds) : c ∈ ds :=
    (List.dropWhile_suffix _).subset hd
  rw [trim, trimEnd, List.mem_reverse] at h
  exact hstart (List.mem_reverse.1 (hstart h))

end Text

/-! ## Texts without white space -/

/-- A text without white space. -/
def NoBlank (cs : List Char) : Prop := ∀ c ∈ cs, Text.isBlank c = false

variable {cs ds : List Char} {c : Char}

@[simp]
theorem noBlank_nil : NoBlank [] := fun _ h => absurd h List.not_mem_nil

@[simp]
theorem noBlank_cons : NoBlank (c :: cs) ↔ Text.isBlank c = false ∧ NoBlank cs :=
  List.forall_mem_cons

@[simp]
theorem noBlank_append : NoBlank (cs ++ ds) ↔ NoBlank cs ∧ NoBlank ds := List.forall_mem_append

theorem noBlank_of_isDigit (h : ∀ c ∈ cs, isDigit c = true) : NoBlank cs := fun c hc =>
  Text.isBlank_of_isDigit (h c hc)

theorem NoBlank.count_eq_zero (h : NoBlank cs) : cs.count ' ' = 0 :=
  List.count_eq_zero.2 fun hmem => absurd (h _ hmem) (by decide)

/-- A text without white space is its own trimmed text. -/
theorem NoBlank.trim_eq (h : NoBlank cs) : Text.trim cs = cs :=
  Text.trim_eq_self (fun c hc => h c (List.mem_of_mem_head? hc))
    fun c hc => h c (List.mem_of_mem_getLast? hc)

/-- A text that starts and ends with parts that hold no white space is its own trimmed text. -/
theorem NoBlank.trim_append {u w : List Char} (hu : NoBlank u) (hu' : u ≠ []) (hw : NoBlank w)
    (hw' : w ≠ []) (v : List Char) : Text.trim (u ++ (v ++ w)) = u ++ (v ++ w) := by
  refine Text.trim_eq_self (fun c hc => hu c ?_) fun c hc => hw c ?_
  · rw [List.head?_append_of_ne_nil _ hu'] at hc
    exact List.mem_of_mem_head? hc
  · rw [← List.append_assoc, List.getLast?_append_of_ne_nil _ hw'] at hc
    exact List.mem_of_mem_getLast? hc

end RecordQuery
