import Mathlib.Data.List.TakeWhile
import RecordQuery.Text.Blank

set_option autoImplicit false

/-!
# Lines of a text

A text is cut into lines at its line feeds, and nowhere else. So the number of a line is one more than the
number of line feeds in front of it, whatever the lines hold.

## Main definitions

* `RecordQuery.Text.EndsLine` — texts behind which a line begins.

## Main results

* `RecordQuery.Text.lines_append_of_endsLine` — a text is cut into lines part by part.
* `RecordQuery.Text.length_lines` — the lines of a text are as many as its line feeds.
* `RecordQuery.Text.exists_append_of_lines_eq` — a text can be cut in front of each of its lines.
-/

namespace RecordQuery.Text

/-! ## The first line -/

/-- A line ends at the first line feed. -/
theorem lines_append {line : List Char} (h : '\n' ∉ line) (rest : List Char) :
    lines (line ++ '\n' :: rest) = dropReturn line :: lines rest := by
  have hline : ∀ c ∈ line, decide (c ≠ '\n') = true := by
    intro c hc
    rw [decide_eq_true_eq]
    rintro rfl
    exact h hc
  obtain ⟨c, cs, hcons⟩ : ∃ c cs, line ++ '\n' :: rest = c :: cs :=
    List.exists_cons_of_ne_nil (by simp)
  have htake : (c :: cs).takeWhile (fun x => decide (x ≠ '\n')) = line := by
    rw [← hcons, List.takeWhile_append_of_pos hline]
    simp
  have hdrop : (c :: cs).dropWhile (fun x => decide (x ≠ '\n')) = '\n' :: rest := by
    rw [← hcons, List.dropWhile_append_of_pos hline]
    simp
  rw [hcons, lines]
  split
  · rename_i hnil
    rw [hdrop] at hnil
    cases hnil
  · rename_i d after hsplit
    rw [hdrop] at hsplit
    obtain ⟨-, rfl⟩ := List.cons.inj hsplit
    rw [htake]

/-- What has no line feed is one line, carriage return and all. -/
theorem lines_of_not_mem {line : List Char} (hne : line ≠ []) (h : '\n' ∉ line) :
    lines line = [line] := by
  have hline : ∀ c ∈ line, decide (c ≠ '\n') = true := by
    intro c hc
    rw [decide_eq_true_eq]
    rintro rfl
    exact h hc
  obtain ⟨c, cs, rfl⟩ := List.exists_cons_of_ne_nil hne
  rw [lines]
  split
  · rw [List.takeWhile_eq_self_iff.2 hline]
  · rename_i hsplit
    rw [List.dropWhile_eq_nil_iff.2 hline] at hsplit
    cases hsplit

/-- A line that begins with something else than a carriage return begins with it. -/
theorem dropReturn_cons {c : Char} (hc : c ≠ '\r') (cs : List Char) :
    dropReturn (c :: cs) = c :: dropReturn cs := by
  cases cs <;> simp [dropReturn, hc]

/-- Nothing is taken from what stands in front of the end of a line. -/
theorem dropReturn_append {rest : List Char} (h : rest ≠ []) (cs : List Char) :
    dropReturn (cs ++ rest) = cs ++ dropReturn rest := by
  induction cs with
  | nil => rfl
  | cons c cs ih =>
    obtain ⟨d, ds, hds⟩ := List.exists_cons_of_ne_nil (List.append_ne_nil_of_right_ne_nil cs h)
    rw [List.cons_append, List.cons_append, ← ih, hds, dropReturn]
    simp

/-- A line that ends in something else than a carriage return is kept whole. -/
theorem dropReturn_concat {c : Char} (hc : c ≠ '\r') (cs : List Char) :
    dropReturn (cs ++ [c]) = cs ++ [c] := by
  rw [dropReturn_append (List.cons_ne_nil _ _), dropReturn_cons hc, dropReturn]

/-- Nothing is added to a line. -/
theorem mem_of_mem_dropReturn {c : Char} {cs : List Char} (h : c ∈ dropReturn cs) : c ∈ cs := by
  induction cs using dropReturn.induct with
  | case1 => exact h
  | case2 => cases h
  | case3 d ds hreturn ih =>
    rw [dropReturn.eq_3 d ds hreturn] at h
    rcases List.mem_cons.1 h with rfl | h
    · exact List.mem_cons_self
    · exact List.mem_cons_of_mem _ (ih h)

/-- A text is empty, one line without an ending, or a line and what stands behind its line feed. -/
theorem lines_induction {motive : List Char → Prop} (nil : motive [])
    (last : ∀ line, line ≠ [] → '\n' ∉ line → motive line)
    (line : ∀ line rest, '\n' ∉ line → motive rest → motive (line ++ '\n' :: rest))
    (cs : List Char) : motive cs := by
  induction hlength : cs.length using Nat.strongRecOn generalizing cs with
  | _ n ih =>
    by_cases hmem : '\n' ∈ cs
    · obtain ⟨front, rest, rfl, hfront⟩ := List.eq_append_cons_of_mem hmem
      refine line front rest hfront (ih rest.length ?_ rest rfl)
      simp only [List.length_append, List.length_cons] at hlength
      omega
    · rcases eq_or_ne cs [] with rfl | hne
      · exact nil
      · exact last cs hne hmem

/-! ## Cutting a text between lines -/

/-- A text is empty or ends with a line feed, so that a line begins behind it. -/
def EndsLine (front : List Char) : Prop := ∀ c ∈ front.getLast?, c = '\n'

theorem endsLine_nil : EndsLine [] := fun _ h => by cases h

/-- A text ends a line if what stands behind one of its line feeds does. -/
theorem endsLine_append_cons {line rest : List Char} :
    EndsLine (line ++ '\n' :: rest) ↔ EndsLine rest := by
  cases rest <;> simp [EndsLine, List.getLast?_append, List.getLast?_cons]

/-- A text that has no line feed ends no line. -/
theorem not_endsLine_of_not_mem {line : List Char} (hne : line ≠ []) (h : '\n' ∉ line) :
    ¬EndsLine line := by
  intro hends
  have hlast := hends _ (List.getLast?_eq_some_getLast hne)
  exact h (hlast ▸ List.getLast_mem hne)

/-- **A text is cut into lines part by part**, if a line begins behind the first part. -/
theorem lines_append_of_endsLine {front : List Char} (h : EndsLine front) (rest : List Char) :
    lines (front ++ rest) = lines front ++ lines rest := by
  induction front using lines_induction with
  | nil => rw [lines, List.nil_append, List.nil_append]
  | last line hne hmem => exact absurd h (not_endsLine_of_not_mem hne hmem)
  | line line behind hmem ih =>
    rw [List.append_assoc, List.cons_append, lines_append hmem, lines_append hmem,
      ih (endsLine_append_cons.1 h), List.cons_append]

/-- **The lines in front of a line are as many as the line feeds there.** -/
theorem length_lines {front : List Char} (h : EndsLine front) :
    (lines front).length = front.count '\n' := by
  induction front using lines_induction with
  | nil => rw [lines]; rfl
  | last line hne hmem => exact absurd h (not_endsLine_of_not_mem hne hmem)
  | line line behind hmem ih =>
    rw [lines_append hmem, List.length_cons, ih (endsLine_append_cons.1 h), List.count_append,
      List.count_eq_zero.2 hmem, List.count_cons_self, Nat.zero_add]

/-- **A text can be cut in front of each of its lines.** -/
theorem exists_append_of_lines_eq {cs : List Char} {before after : List (List Char)}
    (h : lines cs = before ++ after) (hafter : after ≠ []) :
    ∃ front rest, cs = front ++ rest ∧ EndsLine front ∧ lines front = before ∧
      lines rest = after := by
  induction cs using lines_induction generalizing before with
  | nil =>
    rw [lines] at h
    exact absurd (List.append_eq_nil_iff.1 h.symm).2 hafter
  | last line hne hmem =>
    rw [lines_of_not_mem hne hmem] at h
    cases before with
    | nil => exact ⟨[], line, rfl, endsLine_nil, by rw [lines], (lines_of_not_mem hne hmem).trans h⟩
    | cons b before =>
      obtain ⟨-, hnil⟩ := List.cons.inj h
      exact absurd (List.append_eq_nil_iff.1 hnil.symm).2 hafter
  | line line behind hmem ih =>
    cases before with
    | nil => exact ⟨[], _, rfl, endsLine_nil, by rw [lines], h⟩
    | cons b before =>
      rw [lines_append hmem] at h
      obtain ⟨rfl, hbehind⟩ := List.cons.inj h
      obtain ⟨front, rest, rfl, hends, hfront, hrest⟩ := ih hbehind
      refine ⟨line ++ '\n' :: front, rest, by simp, endsLine_append_cons.2 hends, ?_, hrest⟩
      rw [lines_append hmem, hfront]

end RecordQuery.Text
