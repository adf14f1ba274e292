set_option autoImplicit false

/-!
# Separated texts

The parts of a text, or of its bytes, between separators, and texts put together with separators
between them.

## Main definitions

* `RecordQuery.Text.split` — the parts of a text.
* `RecordQuery.Text.join` — a text of parts.
-/

namespace RecordQuery.Text

/-- The parts of a list between the separators `sep`. -/
def split {α : Type} [DecidableEq α] (sep : α) : List α → List (List α)
  | [] => [[]]
  | c :: cs =>
    if c = sep then [] :: split sep cs
    else match split sep cs with
      | [] => [[c]]
      | part :: parts => (c :: part) :: parts

/-- Parts with the separator `sep` between them. -/
def join (sep : Char) : List (List Char) → List Char
  | [] => []
  | [part] => part
  | part :: next :: parts => part ++ sep :: join sep (next :: parts)

end RecordQuery.Text
