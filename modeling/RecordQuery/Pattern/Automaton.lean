import RecordQuery.Pattern.Bytes
import RecordQuery.Pattern.Expr

set_option autoImplicit false

/-!
# Automata

An automaton reads the bytes of a text. Its nodes are numbered in the order in which they are
drafted; a draft that would take too many bytes is given up.

## Main definitions

* `RecordQuery.Pattern.Node` — what an automaton does at a node.
* `RecordQuery.Pattern.Draft` — an automaton under construction.
* `RecordQuery.Pattern.Build` — a step of a construction.
* `RecordQuery.Pattern.Automaton` — a finished automaton.
-/

namespace RecordQuery.Pattern

/-- A way on for the bytes of a range. -/
structure Move where
  bytes : ByteRange
  target : Nat
deriving DecidableEq, Repr

/-- What an automaton does at a node. -/
inductive Node where
  /-- It goes on. -/
  | pass (target : Nat)
  /-- It reads a byte and goes on by one of the moves. -/
  | read (move : Move)
  | choose (moves : List Move)
  /-- It goes on if something holds around the place. -/
  | look (l : Look) (target : Nat)
  /-- It goes on in several ways. -/
  | fork (targets : List Nat)
  /-- It has found what it looks for. -/
  | accept
deriving Repr, Inhabited

/-- The bytes that a node takes beyond those that every node takes. -/
def Node.extra : Node → Nat
  | choose moves => 8 * moves.length
  | fork targets => 4 * targets.length
  | _ => 0

/-- An automaton under construction. -/
structure Draft where
  nodes : Array Node := #[]
  /-- The bytes that its nodes take beyond 32 for each. -/
  extra : Nat := 0
  /-- How many bytes it may take. -/
  limit : Option Nat

/-- The bytes that a draft takes. -/
def Draft.footprint (d : Draft) : Nat := 32 * d.nodes.size + d.extra

/-- Whether a draft takes no more bytes than it may. -/
def Draft.fits (d : Draft) : Bool := d.limit.all (d.footprint ≤ ·)

/-- A step of a construction, which fails when the draft gets too large. -/
abbrev Build (α : Type) := StateT Draft Option α

namespace Build

/-- Goes on with a draft if it fits. -/
def commit {α : Type} (a : α) (d : Draft) : Option (α × Draft) :=
  if d.fits then some (a, d) else none

/-- Adds a node and gives its number. -/
def add (n : Node) : Build Nat := fun d =>
  let number := d.nodes.size
  commit number { d with nodes := d.nodes.push n, extra := d.extra + n.extra }

/-- Makes a node lead to another one, too if it is a fork. -/
def connect (source target : Nat) : Build Unit := fun d =>
  match d.nodes[source]? with
  | some (.pass _) => some ((), { d with nodes := d.nodes.set! source (.pass target) })
  | some (.read m) =>
    some ((), { d with nodes := d.nodes.set! source (.read { m with target := target }) })
  | some (.look l _) => some ((), { d with nodes := d.nodes.set! source (.look l target) })
  | some (.fork targets) =>
    commit () { d with
      nodes := d.nodes.set! source (.fork (target :: targets))
      extra := d.extra + 4 }
  | _ => some ((), d)

end Build

/-- A finished automaton: its nodes and the one where it starts. -/
structure Automaton where
  nodes : Array Node
  start : Nat

end RecordQuery.Pattern
