import RecordQuery.Query.Fault
import RecordQuery.Query.Tree
import RecordQuery.Settings.Basic

set_option autoImplicit false

/-!
# Parsing queries

The grammar of queries, over lexemes:

    query       = [blank] [conjunction]
    conjunction = selection [blank] [("AND" | "OR") [blank]] [conjunction]
    selection   = "(" conjunction ")"
                | ["-"] word ":" (date | value)
                | ["-"] word comparison number
                | value
    value       = word | number | pattern | quoted
    date        = any one lexeme

Conjunctions nest to the right, and two selections side by side are joined by `AND`. The key of a
selection decides between a date and a value: `before` and `after` take a date.

## Main definitions

* `RecordQuery.Parser.operand`, `RecordQuery.Parser.conjunction` — the group or selection, and the
  conjunction, that lexemes start with.
* `RecordQuery.Tree.ofLexemes` — the query that lexemes are.
* `RecordQuery.Tree.ofText` — the query that a text is.
-/

namespace RecordQuery

namespace Parser

/-- Something read from the start of some lexemes, and the lexemes behind it, which are fewer. -/
structure Reading (α : Type) (lexemes : List Lexeme) where
  value : α
  rest : List Lexeme
  shorter : rest.length < lexemes.length

/-- Whether a lexeme is a run of blanks. -/
def isBlank (l : Lexeme) : Bool := l.token == .blank

/-- The lexemes behind blanks. -/
def skipBlank (lexemes : List Lexeme) : List Lexeme := lexemes.dropWhile isBlank

theorem length_skipBlank (lexemes : List Lexeme) :
    (skipBlank lexemes).length ≤ lexemes.length :=
  (List.dropWhile_suffix isBlank).length_le

/-! ## Values -/

/-- A pattern as a literal; the settings decide whether it tells cases apart. -/
def patternLiteral (s : Settings) (source : String) (column : Nat) : Except QueryFault Literal :=
  match Pattern.compile (!s.caseSensitive) source with
  | .ok p => .ok (.pattern p)
  | .error fault => .error (.invalidPattern source column fault)

/-- A bare word or number as a literal. -/
def bareLiteral (s : Settings) (text : String) (column : Nat) : Except QueryFault Literal :=
  if s.preferPatterns then patternLiteral s text column else .ok (.text text)

/-- The literal that a lexeme is. -/
def literal (s : Settings) (l : Lexeme) : Except QueryFault Literal :=
  match l.token with
  | .word w => bareLiteral s w l.column
  | .number _ => bareLiteral s l.text l.column
  | .quoted t => .ok (.text t)
  | .pattern source => patternLiteral s source l.column
  | found => .error (.unexpected .value found l.column)

/-- The text of a lexeme where a date is expected. -/
def dateText (l : Lexeme) : String :=
  match l.token with
  | .word w => w
  | .quoted t => t
  | .pattern source => source
  | _ => l.text

/-! ## Lexemes that are asked for -/

/-- What a token says as a word. -/
def word? : Token → Option String
  | .word w => some w
  | _ => none

/-- What a token says as a number. -/
def number? : Token → Option Number
  | .number x => some x
  | _ => none

/-- What a token says as a comparison sign. -/
def comparison? : Token → Option Comparison
  | .comparison c => some c
  | _ => none

/-- Whether a token is a mark; a mark says nothing else. -/
def mark? (mark t : Token) : Option Unit := if t = mark then some () else none

/-- The first lexeme, if it is of the kind that is expected, and what it says as one. -/
def expect {α : Type} (expected : Expected) (view? : Token → Option α) (lexemes : List Lexeme) :
    Except QueryFault (Reading α lexemes) :=
  match lexemes with
  | [] => .error (.unexpectedEnd expected)
  | l :: rest =>
    match view? l.token with
    | some a => .ok ⟨a, rest, Nat.lt_succ_self _⟩
    | none => .error (.unexpected expected l.token l.column)

/-- Whether a minus comes first, and the lexemes behind it. -/
def takeMinus : List Lexeme → Bool × List Lexeme
  | [] => (false, [])
  | l :: rest => if l.token = .minus then (true, rest) else (false, l :: rest)

theorem length_takeMinus (lexemes : List Lexeme) :
    (takeMinus lexemes).2.length ≤ lexemes.length := by
  unfold takeMinus
  split
  · exact Nat.le_refl _
  split
  · exact Nat.le_succ _
  · exact Nat.le_refl _

/-! ## Selections -/

/-- What follows a key and its colon. -/
def keySelection (s : Settings) (key : String) (negated : Bool) (lexemes : List Lexeme) :
    Except QueryFault (Reading Tree lexemes) :=
  match Side.ofKey? key, lexemes with
  | some _, [] => .error (.unexpectedEnd .date)
  | none, [] => .error (.unexpectedEnd .value)
  | some side, l :: rest => .ok ⟨.date side negated (dateText l), rest, Nat.lt_succ_self _⟩
  | none, l :: rest =>
    match literal s l with
    | .error fault => .error fault
    | .ok v => .ok ⟨.field key negated v, rest, Nat.lt_succ_self _⟩

/-- What follows a key and its comparison sign. -/
def numberSelection (key : String) (comparison : Comparison) (negated : Bool)
    (lexemes : List Lexeme) : Except QueryFault (Reading Tree lexemes) :=
  match expect .number number? lexemes with
  | .error fault => .error fault
  | .ok x => .ok ⟨.number key comparison negated x.value, x.rest, x.shorter⟩

/-- A key, the sign that makes it one, and what has to follow the sign. -/
def keyThen {α : Type} (expected : Expected) (sign? : Token → Option α)
    (behind : α → String → (lexemes : List Lexeme) → Except QueryFault (Reading Tree lexemes))
    (lexemes : List Lexeme) : Except QueryFault (Reading Tree lexemes) :=
  match expect .fieldName word? lexemes with
  | .error fault => .error fault
  | .ok key =>
    match expect expected sign? key.rest with
    | .error fault => .error fault
    | .ok sign =>
      match behind sign.value key.value sign.rest with
      | .error fault => .error fault
      | .ok r =>
        .ok ⟨r.value, r.rest, Nat.lt_trans r.shorter (Nat.lt_trans sign.shorter key.shorter)⟩

/-- A selection by a key, which a minus in front negates. -/
def keyedSelection {α : Type} (expected : Expected) (sign? : Token → Option α)
    (behind : α → String → Bool → (lexemes : List Lexeme) →
      Except QueryFault (Reading Tree lexemes))
    (lexemes : List Lexeme) : Except QueryFault (Reading Tree lexemes) :=
  match keyThen expected sign? (fun a key => behind a key (takeMinus lexemes).1)
    (takeMinus lexemes).2 with
  | .error fault => .error fault
  | .ok r => .ok ⟨r.value, r.rest, Nat.lt_of_lt_of_le r.shorter (length_takeMinus lexemes)⟩

/-- A selection by any field. -/
def valueSelection (s : Settings) (lexemes : List Lexeme) :
    Except QueryFault (Reading Tree lexemes) :=
  match lexemes with
  | [] => .error (.unexpectedEnd .value)
  | l :: rest =>
    match literal s l with
    | .error fault => .error fault
    | .ok v => .ok ⟨.anyField v, rest, Nat.lt_succ_self _⟩

/-- The three forms of selections without parentheses. -/
inductive Form where
  | colon
  | comparison
  | value
deriving DecidableEq, Repr

/-- The form of the selection that some lexemes start with. It takes three lexemes to tell: perhaps
a minus, a key, and the sign that makes it one. -/
def form (lexemes : List Lexeme) : Form :=
  match (takeMinus lexemes).2 with
  | k :: d :: _ =>
    match k.token, d.token with
    | .word _, .colon => .colon
    | .word _, .comparison _ => .comparison
    | _, _ => .value
  | _ => .value

/-- A selection without parentheses. -/
def selection (s : Settings) (lexemes : List Lexeme) : Except QueryFault (Reading Tree lexemes) :=
  match form lexemes with
  | .colon => keyedSelection .colon (mark? .colon) (fun _ => keySelection s) lexemes
  | .comparison =>
    keyedSelection .comparison comparison? (fun c key => numberSelection key c) lexemes
  | .value => valueSelection s lexemes

/-! ## Conjunctions -/

/-- Whether lexemes continue a key, so that the word before them is one. -/
def continuesKey : List Lexeme → Bool
  | [] => false
  | l :: _ =>
    match l.token with
    | .colon => true
    | .comparison _ => true
    | _ => false

/-- The joint at the start of some lexemes and the lexemes behind it. Without a joint the
selections are joined by `AND`. -/
def joint (lexemes : List Lexeme) : Joint × List Lexeme :=
  match lexemes with
  | [] => (.and, [])
  | l :: rest =>
    if l.token = .word "AND" ∧ ¬continuesKey rest then (.and, skipBlank rest)
    else if l.token = .word "OR" ∧ ¬continuesKey rest then (.or, skipBlank rest)
    else (.and, lexemes)

theorem length_joint (lexemes : List Lexeme) :
    (joint lexemes).2.length ≤ lexemes.length := by
  unfold joint
  split
  · exact Nat.le_refl _
  · rename_i l rest
    have := length_skipBlank rest
    split
    · exact Nat.le_succ_of_le this
    split
    · exact Nat.le_succ_of_le this
    · exact Nat.le_refl _

/-- Whether a conjunction ends before some lexemes: at the end of the query or at a closing
parenthesis. -/
def endsHere : List Lexeme → Bool
  | [] => true
  | l :: _ => l.token == .closing

/-- The closing parenthesis of a group. -/
def closeGroup {before : List Lexeme} (r : Reading Tree before) :
    Except QueryFault (Reading Tree before) :=
  match expect .closing (mark? .closing) r.rest with
  | .error fault => .error fault
  | .ok c => .ok ⟨r.value, c.rest, Nat.lt_trans c.shorter r.shorter⟩

mutual

/-- The group or the selection that some lexemes start with. -/
def operand (s : Settings) (lexemes : List Lexeme) : Except QueryFault (Reading Tree lexemes) :=
  match lexemes with
  | [] => .error (.unexpectedEnd .value)
  | l :: rest =>
    if l.token = .opening then
      match conjunction s rest with
      | .error fault => .error fault
      | .ok inner =>
        match closeGroup inner with
        | .error fault => .error fault
        | .ok r => .ok ⟨r.value, r.rest, Nat.lt_succ_of_lt r.shorter⟩
    else selection s (l :: rest)
termination_by (lexemes.length, 0)
decreasing_by exact Prod.Lex.left _ _ (Nat.lt_succ_self _)

/-- The conjunction that some lexemes start with. -/
def conjunction (s : Settings) (lexemes : List Lexeme) :
    Except QueryFault (Reading Tree lexemes) :=
  match operand s (skipBlank lexemes) with
  | .error fault => .error fault
  | .ok left =>
    let behind := skipBlank left.rest
    have hlt : behind.length < lexemes.length :=
      Nat.lt_of_le_of_lt (length_skipBlank _)
        (Nat.lt_of_lt_of_le left.shorter (length_skipBlank _))
    if endsHere behind then .ok ⟨left.value, behind, hlt⟩
    else
      match conjunction s (joint behind).2 with
      | .error fault => .error fault
      | .ok right =>
        .ok ⟨.joined (joint behind).1 left.value right.value, right.rest,
          Nat.lt_trans right.shorter (Nat.lt_of_le_of_lt (length_joint _) hlt)⟩
termination_by (lexemes.length, 1)
decreasing_by
  · rcases Nat.lt_or_eq_of_le (length_skipBlank lexemes) with h | h
    · exact Prod.Lex.left _ _ h
    · rw [h]
      exact Prod.Lex.right _ Nat.zero_lt_one
  · exact Prod.Lex.left _ _ (Nat.lt_of_le_of_lt (length_joint _) hlt)

end

end Parser

/-- The query that some lexemes are. -/
def Tree.ofLexemes (s : Settings) (lexemes : List Lexeme) : Except QueryFault Tree :=
  match Parser.skipBlank lexemes with
  | [] => .ok .everything
  | l :: rest =>
    match Parser.conjunction s (l :: rest) with
    | .error fault => .error fault
    | .ok r =>
      match r.rest with
      | [] => .ok r.value
      | l :: _ =>
        if l.token = .closing then .error (.unmatched l.column)
        else .error (.unexpected .queryEnd l.token l.column)

/-- The query that a text is. -/
def Tree.ofText (s : Settings) (query : String) : Except QueryFault Tree :=
  match Lexeme.ofText query with
  | .error u => .error (.unclosed u)
  | .ok lexemes => Tree.ofLexemes s lexemes

end RecordQuery
