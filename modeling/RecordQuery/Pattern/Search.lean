import RecordQuery.Pattern.Automaton
import RecordQuery.Unicode.Property

set_option autoImplicit false

/-!
# Searching

An automaton is run over a text once, at all its nodes at a time: the nodes it may be at after a
byte are found from those it may have been at before.

## Main definitions

* `RecordQuery.Pattern.Look.holds` — whether something holds between two characters.
* `RecordQuery.Pattern.Automaton.close` — the nodes that are reached without reading.
* `RecordQuery.Pattern.Automaton.accepts` — whether an automaton finds what it looks for in a text.
-/

namespace RecordQuery.Pattern

/-! ## Between two characters -/

/-- Whether a character belongs to words; there may be no character. -/
def isWordChar? (unicode : Bool) (c : Option Char) : Bool :=
  match c with
  | none => false
  | some c =>
    if c.toNat < 0x80 then c.isAlphanum || c = '_'
    else unicode && Unicode.wordCodes.contains c.toNat

/-- Whether a word starts or ends between two characters, of which `before` and `after` say whether
they belong to words. -/
def WordEdge.holds (before after : Bool) : WordEdge → Bool
  | boundary => before != after
  | noBoundary => before == after
  | start => !before && after
  | stop => before && !after
  | startHalf => !before
  | stopHalf => !after

/-- Whether something holds between two characters; at an end of the text one of them is missing. -/
def Look.holds (before after : Option Char) : Look → Bool
  | textStart => before.isNone
  | textEnd => after.isNone
  | lineStart false => before.all (· = '\n')
  | lineEnd false => after.all (· = '\n')
  | lineStart true => before.all fun c => c = '\n' || (c = '\r' && after != some '\n')
  | lineEnd true => after.all fun c => c = '\r' || (c = '\n' && before != some '\r')
  | word edge unicode => edge.holds (isWordChar? unicode before) (isWordChar? unicode after)

namespace Automaton

/-! ## Without reading -/

/-- What is reached without reading: the moves that may be made from there, and whether the
automaton has found what it looks for. -/
structure Reach where
  moves : List Move := []
  found : Bool := false

/-- Where a node leads without reading. -/
def onward (holds : Look → Bool) : Node → List Nat
  | .pass target => [target]
  | .look l target => if holds l then [target] else []
  | .fork targets => targets
  | _ => []

/-- What a node adds to what is reached. -/
def Reach.visit (r : Reach) : Node → Reach
  | .read m => { r with moves := m :: r.moves }
  | .choose moves => { r with moves := moves ++ r.moves }
  | .accept => { r with found := true }
  | _ => r

/-- Marking a node as seen leaves fewer that are not. -/
theorem count_set_lt {seen : Array Bool} {i : Nat} (h : seen[i]? = some false) :
    (seen.set! i true).count false < seen.count false := by
  have hi : i < seen.size := by
    rcases Nat.lt_or_ge i seen.size with h' | h'
    · exact h'
    · rw [Array.getElem?_eq_none h'] at h
      cases h
  have hf : seen[i] = false := by
    rw [Array.getElem?_eq_getElem hi] at h
    exact Option.some.inj h
  have hpos : 0 < seen.count false := Array.count_pos_iff.2 (hf ▸ Array.getElem_mem hi)
  rw [Array.set!_eq_setIfInBounds]
  simp only [Array.setIfInBounds, hi, ↓reduceDIte]
  rw [Array.count_set, hf]
  show seen.count false - 1 + 0 < seen.count false
  omega

/-- What is reached without reading from the nodes in `todo`, besides what `r` holds; `seen` marks
the nodes that were entered before. Every node is entered once. -/
def closeFrom (a : Automaton) (holds : Look → Bool) (seen : Array Bool) (r : Reach)
    (todo : List Nat) : Reach :=
  match todo with
  | [] => r
  | i :: todo =>
    match _h : seen[i]? with
    | some false =>
      match a.nodes[i]? with
      | some n => closeFrom a holds (seen.set! i true) (r.visit n) (onward holds n ++ todo)
      | none => closeFrom a holds seen r todo
    | _ => closeFrom a holds seen r todo
termination_by (seen.count false, todo.length)
decreasing_by
  · exact Prod.Lex.left _ _ (count_set_lt _h)
  · exact Prod.Lex.right _ (Nat.lt_succ_self _)
  · exact Prod.Lex.right _ (Nat.lt_succ_self _)

/-- What is reached without reading from some nodes. -/
def close (a : Automaton) (holds : Look → Bool) (nodes : List Nat) : Reach :=
  closeFrom a holds (Array.replicate a.nodes.size false) {} nodes

/-! ## Reading -/

/-- The nodes that moves lead to by a byte. -/
def follow (moves : List Move) (byte : UInt8) : List Nat :=
  (moves.filter fun m => m.bytes.low ≤ byte && byte ≤ m.bytes.high).map (·.target)

/-- The nodes reached by the bytes of a character. Nothing is looked for inside it. -/
def readBytes (a : Automaton) (moves : List Move) : List UInt8 → List Nat
  | [] => []
  | [byte] => follow moves byte
  | byte :: rest => readBytes a (a.close (fun _ => false) (follow moves byte)).moves rest

/-- Whether an automaton that may be at some nodes behind the character `before` finds what it
looks for in the rest of a text. -/
def findsFrom (a : Automaton) (nodes : List Nat) (before : Option Char) : List Char → Bool
  | [] => (a.close (Look.holds before none) nodes).found
  | c :: rest =>
    let r := a.close (Look.holds before (some c)) nodes
    r.found || findsFrom a (readBytes a r.moves (charBytes c)) (some c) rest

/-- Whether an automaton finds what it looks for in a text. -/
def accepts (a : Automaton) (text : List Char) : Bool := a.findsFrom [a.start] none text

end Automaton

end RecordQuery.Pattern
