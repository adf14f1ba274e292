import RecordQuery.Unicode.CodeSet

set_option autoImplicit false

/-!
# Expressions

What a pattern means, in a form with as few parts as possible: neighbouring literals are one,
sequences and alternatives are flat, and alternatives between characters are a class.

## Main definitions

* `RecordQuery.Pattern.Look` — what has to hold between two characters.
* `RecordQuery.Pattern.Expr` — an expression.
* `RecordQuery.Pattern.Expr.ofCodes`, `RecordQuery.Pattern.Expr.ofItems`,
  `RecordQuery.Pattern.Expr.ofBranches`, `RecordQuery.Pattern.Expr.ofCounts` — expressions built
  from others.
* `RecordQuery.Pattern.Expr.isAlwaysEmpty`, `RecordQuery.Pattern.Expr.leastLength?` — how long what
  an expression matches can be.
-/

namespace RecordQuery.Pattern

open Unicode

/-- What has to hold of the characters around a place for a word to start or end there. -/
inductive WordEdge where
  | boundary
  | noBoundary
  | start
  | stop
  | startHalf
  | stopHalf
deriving DecidableEq, Repr

/-- What has to hold between two characters. -/
inductive Look where
  | textStart
  | textEnd
  /-- `returns` says whether a carriage return ends a line as well. -/
  | lineStart (returns : Bool)
  | lineEnd (returns : Bool)
  /-- `unicode` says whether characters outside ASCII may belong to words. -/
  | word (edge : WordEdge) (unicode : Bool)
deriving DecidableEq, Repr

/-- The same with the directions exchanged. -/
def Look.mirrored : Look → Look
  | textStart => textEnd
  | textEnd => textStart
  | lineStart r => lineEnd r
  | lineEnd r => lineStart r
  | word .start u => word .stop u
  | word .stop u => word .start u
  | word .startHalf u => word .stopHalf u
  | word .stopHalf u => word .startHalf u
  | word e u => word e u

/-- An expression. -/
inductive Expr where
  | empty
  | literal (chars : List Char)
  | oneOf (codes : CodeSet)
  | look (l : Look)
  | repeated (least : Nat) (most : Option Nat) (greedy : Bool) (inner : Expr)
  | capture (index : Nat) (inner : Expr)
  | sequence (items : List Expr)
  | alternatives (branches : List Expr)
deriving BEq, Repr, Inhabited

namespace Expr

/-! ## Lengths -/

mutual

/-- Whether an expression matches the empty text and no other. -/
def isAlwaysEmpty : Expr → Bool
  | empty => true
  | literal _ => false
  | oneOf _ => false
  | look _ => true
  | repeated _ most _ inner => most.isSome && inner.isAlwaysEmpty
  | capture _ inner => inner.isAlwaysEmpty
  | sequence items => areAlwaysEmpty items
  | alternatives branches => areAlwaysEmpty branches

/-- Whether all of some expressions match only the empty text. -/
def areAlwaysEmpty : List Expr → Bool
  | [] => true
  | e :: rest => e.isAlwaysEmpty && areAlwaysEmpty rest

end

mutual

/-- The least number of characters that an expression matches, if it can match at all; nothing
matches an empty class. -/
def leastLength? : Expr → Option Nat
  | empty => some 0
  | literal chars => some chars.length
  | oneOf codes => if codes.isEmpty then none else some 1
  | look _ => some 0
  | repeated least _ _ inner => inner.leastLength?.map (least * ·)
  | capture _ inner => inner.leastLength?
  | sequence items => (leastLengths? items).map List.sum
  | alternatives branches => (leastLengths? branches).bind List.min?

/-- The least lengths of some expressions, all of which can match. -/
def leastLengths? : List Expr → Option (List Nat)
  | [] => some []
  | e :: rest => e.leastLength?.bind fun n => (leastLengths? rest).map (n :: ·)

end

/-- Whether an expression matches something and never the empty text. -/
def isNeverEmpty (e : Expr) : Bool := e.leastLength?.any (0 < ·)

mutual

/-- Whether whatever an expression matches starts where `l` holds, as its first part demands. -/
def startsWith (l : Look) : Expr → Bool
  | empty => false
  | literal _ => false
  | oneOf _ => false
  | look l' => l' = l
  | repeated least _ _ inner => 0 < least && inner.startsWith l
  | capture _ inner => inner.startsWith l
  | sequence items => sequenceStartsWith l items
  | alternatives branches => allStartWith l branches

/-- The same for items that stand side by side. -/
def sequenceStartsWith (l : Look) : List Expr → Bool
  | [] => false
  | e :: rest => e.startsWith l || (e.isAlwaysEmpty && sequenceStartsWith l rest)

/-- The same for alternatives. -/
def allStartWith (l : Look) : List Expr → Bool
  | [] => true
  | e :: rest => e.startsWith l && allStartWith l rest

end

mutual

/-- The expression read from the right to the left. -/
def mirrored : Expr → Expr
  | empty => empty
  | literal chars => literal chars.reverse
  | oneOf codes => oneOf codes
  | look l => look l.mirrored
  | repeated least most greedy inner => repeated least most greedy inner.mirrored
  | capture index inner => capture index inner.mirrored
  | sequence items => sequence (allMirrored items).reverse
  | alternatives branches => alternatives (allMirrored branches)

/-- The same for each of some expressions. -/
def allMirrored : List Expr → List Expr
  | [] => []
  | e :: rest => e.mirrored :: allMirrored rest

end

/-! ## Building expressions -/

/-- The expression that matches nothing. -/
def fail : Expr := oneOf CodeSet.empty

/-- A class; of one character it is a literal. -/
def ofCodes (codes : CodeSet) : Expr :=
  match codes.single? with
  | some c => literal [Char.ofNat c]
  | none => oneOf codes

/-- A repetition. Where the inner expression is always empty, once is as good as often. -/
def ofCounts (least : Nat) (most : Option Nat) (greedy : Bool) (inner : Expr) : Expr :=
  let (least, most) :=
    if inner.isAlwaysEmpty then (min least 1, some (min (most.getD 1) 1)) else (least, most)
  if most = some 0 then empty
  else if least = 1 ∧ most = some 1 then inner
  else repeated least most greedy inner

/-- The items of an expression in a sequence. -/
def items : Expr → List Expr
  | empty => []
  | sequence items => items
  | e => [e]

/-- Joins neighbouring literals. -/
def joinLiterals : List Expr → List Expr
  | [] => []
  | e :: rest =>
    match e, joinLiterals rest with
    | literal cs, literal ds :: rest => literal (cs ++ ds) :: rest
    | e, rest => e :: rest

/-- A sequence. -/
def ofItems (es : List Expr) : Expr :=
  match joinLiterals (es.flatMap items) with
  | [] => empty
  | [e] => e
  | es => sequence es

/-- The branches of an expression among alternatives. -/
def branches : Expr → List Expr
  | alternatives branches => branches
  | e => [e]

/-- The only character that an expression matches, as a class. -/
def char? : Expr → Option (Nat × Nat)
  | literal [c] => some (c.toNat, c.toNat)
  | _ => none

/-- The class that an expression is. -/
def codes? : Expr → Option CodeSet
  | oneOf codes => some codes
  | _ => none

/-- The items of a sequence. -/
def sequenceItems? : Expr → Option (List Expr)
  | sequence items => some items
  | _ => none

/-- The items that two sequences start with. -/
def commonStart : List Expr → List Expr → List Expr
  | e :: es, f :: fs => if e == f then e :: commonStart es fs else []
  | _, _ => []

/-- The items that all of some sequences start with. -/
def sharedStart : List (List Expr) → List Expr
  | [] => []
  | items :: rest => rest.foldl commonStart items

/-- Alternatives. Single characters and classes are one class; what all branches start with is
taken out in front of them, over and over, `n` times at most. -/
def ofFlatBranches (n : Nat) (bs : List Expr) : Expr :=
  match bs with
  | [] => fail
  | [e] => e
  | _ =>
    match bs.mapM char?, bs.mapM codes?, n, bs.mapM sequenceItems? with
    | some ranges, _, _, _ => ofCodes (CodeSet.ofRanges ranges)
    | _, some sets, _, _ => ofCodes (CodeSet.unions sets)
    | _, _, n + 1, some sequences =>
      match sharedStart sequences with
      | [] => alternatives bs
      | start =>
        let rest := sequences.map fun items => ofItems (items.drop start.length)
        ofItems (start ++ [ofFlatBranches n (rest.flatMap branches)])
    | _, _, _, _ => alternatives bs

mutual

/-- How many parts an expression has. -/
def size : Expr → Nat
  | empty => 1
  | literal _ => 1
  | oneOf _ => 1
  | look _ => 1
  | repeated _ _ _ inner => inner.size + 1
  | capture _ inner => inner.size + 1
  | sequence items => sizes items + 1
  | alternatives branches => sizes branches + 1

/-- How many parts some expressions have. -/
def sizes : List Expr → Nat
  | [] => 0
  | e :: rest => e.size + sizes rest

end

/-- Alternatives. What is taken out in front makes them smaller, so their size bounds how often
that can be done. -/
def ofBranches (es : List Expr) : Expr := ofFlatBranches (sizes es) (es.flatMap branches)

end Expr

end RecordQuery.Pattern
