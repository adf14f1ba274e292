import RecordQuery.Pattern.Flag
import RecordQuery.Pattern.Place

set_option autoImplicit false

/-!
# Written patterns

What stands in a pattern, with its places, before any of it is given a meaning.

## Main definitions

* `RecordQuery.Pattern.Character` — a character, and the byte it was written as if it was.
* `RecordQuery.Pattern.ClassForm` — what stands in a bracketed class.
* `RecordQuery.Pattern.Form` — a pattern.
-/

namespace RecordQuery.Pattern

/-- A character as it stands in a pattern. -/
structure Character where
  span : Span
  char : Char
  /-- It is written with two hexadecimal digits, which may mean a byte. -/
  isByte : Bool := false
deriving Repr

/-- The three classes with a letter of their own. -/
inductive Shorthand where
  | digit
  | blank
  | word
deriving DecidableEq, Repr

/-- The classes of ASCII characters that have a name. -/
inductive AsciiClass where
  | alnum
  | alpha
  | ascii
  | blank
  | cntrl
  | digit
  | graph
  | lower
  | print
  | punct
  | space
  | upper
  | word
  | xdigit
deriving DecidableEq, Repr

/-- The class with a name. -/
def AsciiClass.ofName? (name : String) : Option AsciiClass :=
  ([("alnum", alnum), ("alpha", alpha), ("ascii", ascii), ("blank", blank), ("cntrl", cntrl),
    ("digit", digit), ("graph", graph), ("lower", lower), ("print", print), ("punct", punct),
    ("space", space), ("upper", upper), ("word", word), ("xdigit", xdigit)] :
      List (String × AsciiClass)).lookup name

/-- A place between two characters where something has to hold. -/
inductive Anchor where
  | lineStart
  | lineEnd
  | textStart
  | textEnd
  | wordBoundary
  | noWordBoundary
  | wordStart
  | wordEnd
  | wordStartHalf
  | wordEndHalf
deriving DecidableEq, Repr

/-- The name of a property of characters. -/
inductive PropertyName where
  | single (name : String)
  | valued (name value : String)
deriving DecidableEq, Repr

/-- How two classes are combined into one. -/
inductive ClassOperator where
  | both
  | onlyLeft
  | either
deriving DecidableEq, Repr

/-- A class that can stand for itself as well as in brackets. -/
inductive ClassEscape where
  | shorthand (negated : Bool) (s : Shorthand)
  | property (negated : Bool) (name : PropertyName)
deriving Repr

/-- What stands in a bracketed class. -/
inductive ClassForm where
  | character (c : Character)
  | range (span : Span) (first last : Character)
  | ascii (span : Span) (negated : Bool) (c : AsciiClass)
  | escape (span : Span) (e : ClassEscape)
  | brackets (span : Span) (negated : Bool) (inner : ClassForm)
  | members (span : Span) (items : List ClassForm)
  | combined (span : Span) (operator : ClassOperator) (left right : ClassForm)
deriving Repr

namespace ClassForm

/-- Where a class stands. -/
def span : ClassForm → Span
  | character c => c.span
  | range s _ _ => s
  | ascii s _ _ => s
  | escape s _ => s
  | brackets s _ _ => s
  | members s _ => s
  | combined s _ _ _ => s

end ClassForm

/-- What a pair of parentheses is for. -/
inductive GroupKind where
  | capture (index : Nat)
  | flags (change : FlagChange)
deriving Repr

/-- A pattern. -/
inductive Form where
  | empty (span : Span)
  | flags (span : Span) (change : FlagChange)
  | character (c : Character)
  | dot (span : Span)
  | anchor (span : Span) (a : Anchor)
  | escape (span : Span) (e : ClassEscape)
  | brackets (span : Span) (negated : Bool) (inner : ClassForm)
  | repeated (span : Span) (least : Nat) (most : Option Nat) (greedy : Bool) (inner : Form)
  | group (span : Span) (kind : GroupKind) (inner : Form)
  | alternatives (span : Span) (branches : List Form)
  | sequence (span : Span) (items : List Form)
deriving Repr

namespace Form

/-- Where a form stands. -/
def span : Form → Span
  | empty s => s
  | flags s _ => s
  | character c => c.span
  | dot s => s
  | anchor s _ => s
  | escape s _ => s
  | brackets s _ _ => s
  | repeated s _ _ _ _ => s
  | group s _ _ => s
  | alternatives s _ => s
  | sequence s _ => s

/-- The items of a sequence as one form. -/
def ofItems (span : Span) : List Form → Form
  | [] => empty span
  | [f] => f
  | items => sequence span items

/-- Whether a repetition sign may follow. -/
def isRepeatable : Form → Bool
  | empty _ => false
  | flags _ _ => false
  | _ => true

end Form

/-- The members of a class as one form. -/
def ClassForm.ofMembers (span : Span) : List ClassForm → ClassForm
  | [c] => c
  | items => members span items

end RecordQuery.Pattern
