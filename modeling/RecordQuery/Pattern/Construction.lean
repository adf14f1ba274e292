import RecordQuery.Pattern.Automaton
import Std.Data.HashMap

set_option autoImplicit false

/-!
# Constructing automata

An expression becomes a piece of an automaton with one way in and one way out. A class becomes a
tree over the bytes of its characters, in which equal branches are drawn once as far as they are
remembered; a list of literals becomes a tree over their bytes.

An automaton can also be drawn for reading backwards, from the mirrored expression.

## Main definitions

* `RecordQuery.Pattern.Piece` — a part of an automaton.
* `RecordQuery.Pattern.Expr.draw` — the piece of an expression.
* `RecordQuery.Pattern.Automaton.build` — the automaton that looks for an expression anywhere.
-/

namespace RecordQuery.Pattern

open Unicode

/-- A part of an automaton: where it is entered and where it is left. -/
structure Piece where
  start : Nat
  stop : Nat

namespace Build

/-! ## Small pieces -/

/-- A node that only goes on. -/
def pass : Build Nat := add (.pass 0)

/-- A node without ways so far. -/
def fork : Build Nat := add (.fork [])

/-- A piece of one node. -/
def single (n : Node) : Build Piece := do
  let i ← add n
  return ⟨i, i⟩

/-- A piece that reads a byte. -/
def byte (r : ByteRange) : Build Piece := single (.read ⟨r, 0⟩)

/-- A piece followed by others. -/
def followedBy (p : Piece) : List (Build Piece) → Build Piece
  | [] => return p
  | b :: rest => do
    let q ← b
    connect p.stop q.start
    followedBy ⟨p.start, q.stop⟩ rest

/-- Pieces one after the other. -/
def chain : List (Build Piece) → Build Piece
  | [] => single (.pass 0)
  | b :: rest => do followedBy (← b) rest

/-- A piece followed by `n` copies of another. -/
def followedByCopies (p : Piece) (b : Build Piece) : Nat → Build Piece
  | 0 => return p
  | n + 1 => do
    let q ← b
    connect p.stop q.start
    followedByCopies ⟨p.start, q.stop⟩ b n

/-- As many copies of a piece, one after the other. -/
def copies (b : Build Piece) : Nat → Build Piece
  | 0 => single (.pass 0)
  | n + 1 => do followedByCopies (← b) b n

/-! ## Repetitions -/

/-- A piece that may be left out. -/
def optional (b : Build Piece) : Build Piece := do
  let way ← fork
  let p ← b
  let stop ← pass
  connect way p.start
  connect way stop
  connect p.stop stop
  return ⟨way, stop⟩

/-- A piece any number of times. Where it may read nothing, going round is kept apart from going
past. -/
def star (neverEmpty : Bool) (b : Build Piece) : Build Piece :=
  if neverEmpty then do
    let way ← fork
    let p ← b
    connect way p.start
    connect p.stop way
    return ⟨way, way⟩
  else do
    let p ← b
    let round ← fork
    connect p.stop round
    connect round p.start
    let past ← fork
    let stop ← pass
    connect past p.start
    connect past stop
    connect round stop
    return ⟨past, stop⟩

/-- A piece at least `n + 1` times. -/
def atLeast (b : Build Piece) (n : Nat) : Build Piece := do
  let before ← if n = 0 then pure none else some <$> copies b n
  let last ← b
  let round ← fork
  let start ← match before with
    | none => pure last.start
    | some p => do
      connect p.stop last.start
      pure p.start
  connect last.stop round
  connect round last.start
  return ⟨start, round⟩

/-- Up to `n` more copies of a piece, each of which may end the row at `stop`; `last` is the end
of the row so far. -/
def upTo (b : Build Piece) (stop last : Nat) : Nat → Build Unit
  | 0 => connect last stop
  | n + 1 => do
    let way ← fork
    let p ← b
    connect last way
    connect way p.start
    connect way stop
    upTo b stop p.stop n

/-- A piece between `least` and `most` times. -/
def between (b : Build Piece) (least most : Nat) : Build Piece := do
  let p ← copies b least
  let stop ← pass
  upTo b stop p.stop (most - least)
  return ⟨p.start, stop⟩

/-! ## Alternatives -/

/-- Goes on from a fork through each of some pieces to a common end. -/
def branches (way stop : Nat) : List (Build Piece) → Build Unit
  | [] => return ()
  | b :: rest => do
    let p ← b
    connect way p.start
    connect p.stop stop
    branches way stop rest

/-- One of some pieces. -/
def either : List (Build Piece) → Build Piece
  | [] => single (.choose [])
  | [b] => b
  | b :: c :: rest => do
    let p ← b
    let q ← c
    let way ← fork
    let stop ← pass
    connect way p.start
    connect p.stop stop
    connect way q.start
    connect q.stop stop
    branches way stop rest
    return ⟨way, stop⟩

/-! ## Classes -/

/-- A hash value of some numbers below 2^64: they are mixed in one by one, each by an exclusive or
and a multiplication. -/
def mix (numbers : List UInt64) : UInt64 :=
  numbers.foldl (fun h n => (h ^^^ n) * 1099511628211) 14695981039346656037

/-- What has been drawn, by hash values. Only the last thing with each hash value is remembered. -/
abbrev Memory (α : Type) := Std.HashMap Nat (α × Nat)

/-- Gives what is remembered under a hash value, or else draws it and remembers it. -/
def remembered {α : Type} [BEq α] (memory : Memory α) (hash : Nat) (key : α) (b : Build Nat) :
    Build (Nat × Memory α) :=
  match memory.get? hash with
  | some (key', i) => if key' == key then return (i, memory) else draw
  | none => draw
where
  draw : Build (Nat × Memory α) := do
    let i ← b
    return (i, memory.insert hash (key, i))

/-- The numbers that tell a choice of moves from others. -/
def choiceNumbers (moves : List Move) : List UInt64 :=
  moves.flatMap fun m => [m.bytes.low.toUInt64, m.bytes.high.toUInt64, m.target.toUInt64]

/-- A choice between moves, drawn once. -/
def choice (memory : Memory (List Move)) (moves : List Move) : Build (Nat × Memory (List Move)) :=
  remembered memory (mix (choiceNumbers moves) % 10000).toNat moves (add (.choose moves))

/-- Neighbouring sequences that start with the same byte range, as that range and what follows it
in each of them. -/
def groupByFirst : List (List ByteRange) → List (ByteRange × List (List ByteRange))
  | [] => []
  | [] :: rest => groupByFirst rest
  | (r :: rs) :: rest =>
    match groupByFirst rest with
    | (q, tails) :: groups =>
      if q = r then (r, rs :: tails) :: groups else (r, [rs]) :: (q, tails) :: groups
    | [] => [(r, [rs])]

mutual

/-- A tree for sequences of up to `n` bytes, all of which end at the same node. -/
def tree (memory : Memory (List Move)) (stop : Nat) :
    Nat → List (List ByteRange) → Build (Nat × Memory (List Move))
  | 0, _ => return (stop, memory)
  | n + 1, sequences => do
    let (moves, memory) ← treeMoves memory stop n (groupByFirst sequences)
    choice memory moves

/-- The moves at a node of the tree, one for each group of sequences. -/
def treeMoves (memory : Memory (List Move)) (stop : Nat) (n : Nat) :
    List (ByteRange × List (List ByteRange)) → Build (List Move × Memory (List Move))
  | [] => return ([], memory)
  | (r, tails) :: groups => do
    let (target, memory) ←
      if tails.all List.isEmpty then pure (stop, memory) else tree memory stop n tails
    let (moves, memory) ← treeMoves memory stop n groups
    return (⟨r, target⟩ :: moves, memory)

end

/-- A class of ASCII characters. -/
def asciiClass (s : CodeSet) : Build Piece := do
  let stop ← pass
  let moves := s.ranges.map fun r => ⟨⟨r.1.toUInt8, r.2.toUInt8⟩, stop⟩
  let start ← add (.choose moves)
  return ⟨start, stop⟩

/-- A class of characters, read forwards. -/
def forwardClass (s : CodeSet) : Build Piece := do
  let stop ← pass
  let (start, _) ← tree ∅ stop 4 (classSequences s)
  return ⟨start, stop⟩

/-- Bytes read backwards, of which the first one leads to `stop`. -/
def backwardBytes (memory : Memory (Nat × ByteRange)) (stop : Nat) :
    List ByteRange → Build (Nat × Memory (Nat × ByteRange))
  | [] => return (stop, memory)
  | r :: rest => do
    let hash := mix [stop.toUInt64, r.low.toUInt64, r.high.toUInt64] % 1000
    let (i, memory) ← remembered memory hash.toNat (stop, r) (add (.read ⟨r, stop⟩))
    backwardBytes memory i rest

/-- Sequences read backwards, each entered from a fork. -/
def backwardSequences (memory : Memory (Nat × ByteRange)) (way stop : Nat) :
    List (List ByteRange) → Build Unit
  | [] => return ()
  | bytes :: rest => do
    let (i, memory) ← backwardBytes memory stop bytes
    connect way i
    backwardSequences memory way stop rest

/-- A class of characters, read backwards. -/
def backwardClass (s : CodeSet) : Build Piece := do
  let way ← fork
  let stop ← pass
  backwardSequences ∅ way stop (classSequences s)
  return ⟨way, stop⟩

/-- A class. -/
def oneOf (backwards : Bool) (s : CodeSet) : Build Piece :=
  if s.isAscii then asciiClass s
  else if backwards then backwardClass s
  else forwardClass s

end Build

/-! ## Literals -/

/-- The bytes of a literal, in the order in which they are read. -/
def literalBytes (backwards : Bool) (chars : List Char) : List UInt8 :=
  if backwards then chars.flatMap fun c => (charBytes c).reverse else chars.flatMap charBytes

/-- A tree of words. At each node stand the ways on in groups; a word ends before each group but
the first. -/
inductive Trie where
  | node (groups : List (List (UInt8 × Trie)))

namespace Trie

/-- The tree without words. -/
def empty : Trie := node [[]]

/-- The tree below a node after a byte, if the last group has a way for it. -/
def child (byte : UInt8) (ways : List (UInt8 × Trie)) : Trie :=
  ((ways.find? fun w => w.1 == byte).map (·.2)).getD empty

/-- The ways of a group with another tree behind a byte, in the order of the bytes. -/
def place (byte : UInt8) (t : Trie) : List (UInt8 × Trie) → List (UInt8 × Trie)
  | [] => [(byte, t)]
  | w :: ways =>
    if byte < w.1 then (byte, t) :: w :: ways
    else if byte = w.1 then (byte, t) :: ways
    else w :: place byte t ways

/-- The groups with a change of the last one. -/
def changeLast (f : List (UInt8 × Trie) → List (UInt8 × Trie)) :
    List (List (UInt8 × Trie)) → List (List (UInt8 × Trie))
  | [] => [f []]
  | [ways] => [f ways]
  | ways :: rest => ways :: changeLast f rest

/-- The tree with one more word. Ways that are added after a word has ended form a new group. -/
def insert : List UInt8 → Trie → Trie
  | [], node groups =>
    if 1 < groups.length && groups.all List.isEmpty then node groups else node (groups ++ [[]])
  | byte :: rest, node groups =>
    node (changeLast (fun ways => place byte (insert rest (child byte ways)) ways) groups)

/-- The tree of some words. -/
def ofWords (words : List (List UInt8)) : Trie := words.foldl (fun t w => t.insert w) empty

/-- Whether there is no way on. -/
def isLeaf : Trie → Bool
  | node groups => groups.all List.isEmpty

mutual

/-- Draws a tree whose words end at a common node; gives the node where it starts. -/
def draw (stop : Nat) : Trie → Build Nat
  | node groups => do
    let targets ← drawGroups stop true groups
    Build.add (.fork targets)

/-- Draws the groups of a node; gives the nodes to go on from there. -/
def drawGroups (stop : Nat) (first : Bool) :
    List (List (UInt8 × Trie)) → Build (List Nat)
  | [] => return []
  | ways :: rest => do
    let moves ← drawWays stop ways
    let here ← match moves with
      | [] => pure []
      | [m] => do pure [← Build.add (.read m)]
      | moves => do pure [← Build.add (.choose moves)]
    let targets ← drawGroups stop false rest
    return (if first then here else stop :: here) ++ targets

/-- Draws what is behind the ways of a group. -/
def drawWays (stop : Nat) : List (UInt8 × Trie) → Build (List Move)
  | [] => return []
  | (byte, t) :: rest => do
    let target ← if t.isLeaf then pure stop else draw stop t
    let moves ← drawWays stop rest
    return ⟨⟨byte, byte⟩, target⟩ :: moves

end

end Trie

/-! ## Expressions -/

namespace Expr

/-- The characters of a literal. -/
def literal? : Expr → Option (List Char)
  | literal chars => some chars
  | _ => none

/-- A piece repeated as often as the counts say. -/
def drawRepeated (least : Nat) (most : Option Nat) (neverEmpty : Bool) (b : Build Piece) :
    Build Piece :=
  match least, most with
  | 0, some 1 => Build.optional b
  | 0, none => Build.star neverEmpty b
  | n + 1, none => Build.atLeast b n
  | least, some most =>
    if least = most then Build.copies b least else Build.between b least most

/-- A piece for alternatives that are literals. -/
def drawWords (backwards : Bool) (words : List (List Char)) : Build Piece := do
  let stop ← Build.pass
  let start ← (Trie.ofWords (words.map (literalBytes backwards))).draw stop
  return ⟨start, stop⟩

/-- A piece between the two marks of a group. -/
def drawGroup (b : Build Piece) : Build Piece := do
  let start ← Build.pass
  let p ← b
  let stop ← Build.pass
  Build.connect start p.start
  Build.connect p.stop stop
  return ⟨start, stop⟩

mutual

/-- The piece of an expression. Groups are marked only for reading forwards. -/
def draw (backwards : Bool) : Expr → Build Piece
  | empty => Build.single (.pass 0)
  | literal chars =>
    Build.chain ((literalBytes backwards chars).map fun b => Build.byte ⟨b, b⟩)
  | oneOf codes => Build.oneOf backwards codes
  | look l => Build.single (.look l 0)
  | repeated least most _ inner =>
    drawRepeated least most inner.isNeverEmpty (inner.draw backwards)
  | capture _ inner =>
    if backwards then inner.draw backwards else drawGroup (inner.draw backwards)
  | sequence items => Build.chain (drawAll backwards items)
  | alternatives branches =>
    match branches.mapM literal? with
    | some words => drawWords backwards words
    | none => Build.either (drawAll backwards branches)

/-- The pieces of some expressions. -/
def drawAll (backwards : Bool) : List Expr → List (Build Piece)
  | [] => []
  | e :: rest => e.draw backwards :: drawAll backwards rest

end

/-- Whether an expression is a list of so many words that it is looked for in another way. -/
def isWordList : Expr → Bool
  | alternatives branches => 3000 ≤ branches.length && (branches.mapM literal?).isSome
  | _ => false

end Expr

namespace Automaton

/-- A piece that reads any byte. -/
def anyByte : Build Piece := do
  let stop ← Build.pass
  let start ← Build.add (.choose [⟨⟨0x00, 0xFF⟩, stop⟩])
  return ⟨start, stop⟩

/-- An automaton for an expression, which may begin anywhere unless it asks for the start of the
text. -/
def drawWhole (backwards : Bool) (e : Expr) : Build Nat := do
  let before ← if e.startsWith .textStart then Build.single (.pass 0) else Build.star true anyByte
  let p ← (Expr.capture 0 e).draw backwards
  let stop ← Build.add .accept
  Build.connect p.stop stop
  Build.connect before.stop p.start
  return before.start

/-- The automaton for an expression in one direction, if it fits into so many bytes. -/
def build? (backwards : Bool) (limit : Option Nat) (e : Expr) : Option Automaton :=
  ((drawWhole backwards e).run { limit := limit }).map fun (start, d) => ⟨d.nodes, start⟩

/-- The automaton that looks for an expression. Reading forwards and reading backwards must both
fit. -/
def ofExpr? (limit : Nat) (e : Expr) : Option Automaton :=
  if e.isWordList then build? false none e
  else
    match build? false (some limit) e, build? true (some limit) e.mirrored with
    | some a, some _ => some a
    | _, _ => none

end Automaton

end RecordQuery.Pattern
