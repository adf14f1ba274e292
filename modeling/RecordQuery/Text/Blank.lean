set_option autoImplicit false

/-!
# White space

The white space of Unicode, the text between leading and trailing white space, and the lines of a
text.

## Main definitions

* `RecordQuery.Text.isBlank` — the Unicode property `White_Space`.
* `RecordQuery.Text.trim` — a text without white space at its ends.
* `RecordQuery.Text.lines` — the lines of a text, ended by a line feed or a carriage return and a
  line feed.
-/

namespace RecordQuery.Text

/-- The code points with the property `White_Space`, as ranges. -/
def blankRanges : List (Nat × Nat) :=
  [(0x9, 0xD), (0x20, 0x20), (0x85, 0x85), (0xA0, 0xA0), (0x1680, 0x1680), (0x2000, 0x200A),
    (0x2028, 0x2029), (0x202F, 0x202F), (0x205F, 0x205F), (0x3000, 0x3000)]

/-- Whether a character is white space. -/
def isBlank (c : Char) : Bool := blankRanges.any fun r => r.1 ≤ c.toNat && c.toNat ≤ r.2

/-- The text without leading white space. -/
def trimStart (cs : List Char) : List Char := cs.dropWhile isBlank

/-- The text without trailing white space. -/
def trimEnd (cs : List Char) : List Char := (trimStart cs.reverse).reverse

/-- The text without white space at its ends. -/
def trim (cs : List Char) : List Char := trimEnd (trimStart cs)

/-- A line without the carriage return that ends it. -/
def dropReturn : List Char → List Char
  | [] => []
  | ['\r'] => []
  | c :: cs => c :: dropReturn cs

/-- The lines of a text. A line ends at a line feed, a carriage return before which belongs to the
ending; what follows the last line feed is a line if it is not empty, carriage return and all. -/
def lines : List Char → List (List Char)
  | [] => []
  | c :: cs =>
    let line := (c :: cs).takeWhile (· ≠ '\n')
    match _h : (c :: cs).dropWhile (· ≠ '\n') with
    | [] => [line]
    | _ :: rest => dropReturn line :: lines rest
termination_by cs => cs.length
decreasing_by
  have hle := (List.dropWhile_suffix (l := c :: cs) (fun x => decide (x ≠ '\n'))).length_le
  rw [_h] at hle
  simpa [Nat.lt_succ_iff] using hle

end RecordQuery.Text
