set_option autoImplicit false

/-!
# Flags of patterns

Flags change how the rest of a group is read and matched.

## Main definitions

* `RecordQuery.Pattern.Flag` — the flags.
* `RecordQuery.Pattern.FlagChange` — flags that are switched on or off.
* `RecordQuery.Pattern.Modes` — which flags are on.
-/

namespace RecordQuery.Pattern

/-- The flags. -/
inductive Flag where
  /-- The case of letters is ignored. -/
  | fold
  /-- Line anchors hold at every line. -/
  | lines
  /-- A dot matches line ends, too. -/
  | dotAll
  /-- Repetitions take as little as they can, and those marked as lazy as much. -/
  | swapGreed
  /-- Classes and boundaries know all characters, not only ASCII. -/
  | unicode
  /-- A carriage return ends a line as a line feed does. -/
  | returns
  /-- White space and comments are passed over. -/
  | verbose
deriving DecidableEq, Repr

/-- The flag that a letter stands for. -/
def Flag.ofLetter? (c : Char) : Option Flag :=
  match c with
  | 'i' => some .fold
  | 'm' => some .lines
  | 's' => some .dotAll
  | 'U' => some .swapGreed
  | 'u' => some .unicode
  | 'R' => some .returns
  | 'x' => some .verbose
  | _ => none

/-- Flags that are switched on or off; each occurs once at most. -/
abbrev FlagChange := List (Flag × Bool)

/-- What a change says about a flag, if it says anything. -/
def FlagChange.of? (change : FlagChange) (f : Flag) : Option Bool := change.lookup f

/-- Which flags are on for the expressions at hand. White space is no concern of these. -/
structure Modes where
  fold : Bool
  lines : Bool := false
  dotAll : Bool := false
  swapGreed : Bool := false
  unicode : Bool := true
  returns : Bool := false
deriving DecidableEq, Repr

/-- The modes after a change of flags. -/
def Modes.change (m : Modes) (change : FlagChange) : Modes where
  fold := (change.of? .fold).getD m.fold
  lines := (change.of? .lines).getD m.lines
  dotAll := (change.of? .dotAll).getD m.dotAll
  swapGreed := (change.of? .swapGreed).getD m.swapGreed
  unicode := (change.of? .unicode).getD m.unicode
  returns := (change.of? .returns).getD m.returns

end RecordQuery.Pattern
