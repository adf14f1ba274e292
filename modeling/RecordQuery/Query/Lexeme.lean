import RecordQuery.Number.Reading
import RecordQuery.Number.Text
import RecordQuery.Query.Comparison

set_option autoImplicit false

/-!
# Lexemes

The words of the query language. A query is cut into lexemes from left to right, each as long as
possible; a character that starts none is passed over.

## Main definitions

* `RecordQuery.Token` — what a lexeme says.
* `RecordQuery.Lexeme` — a token with its text and its column.
* `RecordQuery.Piece.first` — the lexeme or ignored character at the start of a text.
* `RecordQuery.Lexeme.ofText` — all lexemes of a text.

## Main results

* `RecordQuery.Piece.text_append_rest` — a piece and what follows it are the text they were cut
  from.
-/

namespace RecordQuery

/-- What a lexeme says. -/
inductive Token where
  | blank
  | minus
  | number (x : Number)
  | word (s : String)
  | pattern (source : String)
  | quoted (s : String)
  | comparison (c : Comparison)
  | colon
  | opening
  | closing
deriving DecidableEq, Repr

/-- How a token is named in messages. -/
def Token.describe : Token → String
  | blank => "whitespace"
  | minus => "'-'"
  | number x => "number " ++ x.text
  | word s => "atom '" ++ s ++ "'"
  | pattern source => "regex /" ++ source ++ "/"
  | quoted s => "string \"" ++ s ++ "\""
  | comparison c => "'" ++ c.sign ++ "'"
  | colon => "':'"
  | opening => "'('"
  | closing => "')'"

/-- A token, the text it was read from and the number of characters before that text. -/
structure Lexeme where
  token : Token
  column : Nat
  text : String
deriving DecidableEq, Repr

/-- The two kinds of literals that need a closing delimiter. -/
inductive Delimited where
  | pattern
  | quoted
deriving DecidableEq, Repr

/-- A literal that is opened in a column and never closed. -/
structure Unclosed where
  literal : Delimited
  column : Nat
deriving DecidableEq, Repr

/-- The wording for an unclosed literal. -/
def Unclosed.message (u : Unclosed) : String :=
  let name := match u.literal with
    | .pattern => "regex"
    | .quoted => "string"
  "Tokenize error: end of input while reading the " ++ name ++ " starting at column " ++
    toString u.column

/-! ## Cutting off one piece -/

/-- A piece cut off the start of a text: its characters, what follows, and the token that the
characters are, if they are any. -/
structure Piece where
  token : Option Token
  text : List Char
  rest : List Char
deriving Repr

/-- Whether a character may stand in a word: a letter or digit of ASCII, or one of the characters
that bare patterns need. -/
def isWordChar (c : Char) : Bool :=
  c.isAlphanum || c = '_' || c = '-' || c = '.' || c = '[' || c = ']' || c = '*' || c = '+' ||
    c = '^' || c = '$'

/-- Reads a quoted text up to its closing quote; a backslash escapes a quote and nothing else.
Gives what the text says, the characters it is written with and what follows. -/
def unquote? : List Char → Option (List Char × List Char × List Char)
  | [] => none
  | '\\' :: '"' :: cs => (unquote? cs).map fun (s, text, rest) => ('"' :: s, '\\' :: '"' :: text, rest)
  | c :: cs =>
    if c = '"' then some ([], ['"'], cs)
    else (unquote? cs).map fun (s, text, rest) => (c :: s, c :: text, rest)

/-- The token of a word: a number if it holds nothing but digits. -/
def wordToken (cs : List Char) : Token :=
  if cs.all isDigit then .number (.real false (Magnitude.ofDecimal (digitsValue cs) 0))
  else .word (String.ofList cs)

namespace Piece

/-- A piece of one character. -/
def one (t : Option Token) (c : Char) (cs : List Char) : Piece := ⟨t, [c], cs⟩

/-- A comparison sign, with the equals sign that may follow it. -/
def comparison (bare extended : Comparison) (c : Char) (cs : List Char) : Piece :=
  match cs with
  | '=' :: rest => ⟨some (.comparison extended), [c, '='], rest⟩
  | _ => ⟨some (.comparison bare), [c], cs⟩

/-- The run of characters with a property, from the start of a text. -/
def run (p : Char → Bool) (token : List Char → Token) (c : Char) (cs : List Char) : Piece :=
  ⟨some (token (c :: cs.takeWhile p)), c :: cs.takeWhile p, cs.dropWhile p⟩

/-- The first piece of a text that starts with `c`, or the kind of literal that `c` opens and
nothing closes. -/
def first (c : Char) (cs : List Char) : Except Delimited Piece :=
  if c = ' ' then .ok (run (· = ' ') (fun _ => .blank) c cs)
  else if c = '-' then .ok (one (some .minus) c cs)
  else if c = '<' then .ok (comparison .less .atMost c cs)
  else if c = '>' then .ok (comparison .greater .atLeast c cs)
  else if c = ':' then .ok (one (some .colon) c cs)
  else if c = '(' then .ok (one (some .opening) c cs)
  else if c = ')' then .ok (one (some .closing) c cs)
  else if c = '/' then
    let source := cs.takeWhile (· ≠ '/')
    match cs.dropWhile (· ≠ '/') with
    | [] => .error .pattern
    | d :: rest => .ok ⟨some (.pattern (String.ofList source)), c :: source ++ [d], rest⟩
  else if c = '"' then
    match unquote? cs with
    | none => .error .quoted
    | some (s, text, rest) => .ok ⟨some (.quoted (String.ofList s)), c :: text, rest⟩
  else if isWordChar c then .ok (run isWordChar wordToken c cs)
  else .ok (one none c cs)

/-! ## What a piece is cut from -/

theorem unquote?_eq {cs s text rest : List Char} (h : unquote? cs = some (s, text, rest)) :
    text ++ rest = cs := by
  fun_induction unquote? cs generalizing s text rest with
  | case1 => simp at h
  | case2 cs ih =>
    obtain ⟨⟨s', text', rest'⟩, h', heq⟩ := Option.map_eq_some_iff.1 h
    simp only [Prod.mk.injEq] at heq
    obtain ⟨-, rfl, rfl⟩ := heq
    simp [ih h']
  | case3 cs _ =>
    simp only [Option.some.injEq, Prod.mk.injEq] at h
    obtain ⟨-, rfl, rfl⟩ := h
    rfl
  | case4 c cs _ _ ih =>
    obtain ⟨⟨s', text', rest'⟩, h', heq⟩ := Option.map_eq_some_iff.1 h
    simp only [Prod.mk.injEq] at heq
    obtain ⟨-, rfl, rfl⟩ := heq
    simp [ih h']

/-- A piece and what follows it are the text they were cut from. -/
theorem text_append_rest {c : Char} {cs : List Char} {p : Piece} (h : first c cs = .ok p) :
    p.text ++ p.rest = c :: cs := by
  unfold first at h
  split at h
  · cases h; simp [run]
  split at h
  · cases h; simp [one]
  split at h
  · cases h; unfold comparison; split <;> simp
  split at h
  · cases h; unfold comparison; split <;> simp
  split at h
  · cases h; simp [one]
  split at h
  · cases h; simp [one]
  split at h
  · cases h; simp [one]
  split at h
  · split at h
    · cases h
    · rename_i d rest hd
      cases h
      have := List.takeWhile_append_dropWhile (p := fun x => decide (x ≠ '/')) (l := cs)
      rw [hd] at this
      simpa using this
  split at h
  · split at h
    · cases h
    · rename_i hs
      cases h
      simpa using unquote?_eq hs
  split at h
  · cases h; simp [run]
  · cases h; simp [one]

/-- A piece is never empty. -/
theorem text_ne_nil {c : Char} {cs : List Char} {p : Piece} (h : first c cs = .ok p) :
    p.text ≠ [] := by
  unfold first at h
  repeat' split at h
  all_goals cases h
  all_goals simp [run, one]
  all_goals unfold comparison; split <;> simp

/-- What follows a piece is shorter than the text it was cut from. -/
theorem length_rest {c : Char} {cs : List Char} {p : Piece} (h : first c cs = .ok p) :
    p.rest.length < (c :: cs).length := by
  have h₁ := congrArg List.length (text_append_rest h)
  have h₂ := List.length_pos_iff.2 (text_ne_nil h)
  rw [List.length_append] at h₁
  omega

end Piece

/-! ## All lexemes -/

namespace Lexeme

/-- The lexemes of a text that follows `column` characters. -/
def ofTextFrom (column : Nat) : List Char → Except Unclosed (List Lexeme)
  | [] => .ok []
  | c :: cs =>
    match _h : Piece.first c cs with
    | .error literal => .error ⟨literal, column⟩
    | .ok p =>
      match ofTextFrom (column + p.text.length) p.rest with
      | .error u => .error u
      | .ok lexemes =>
        .ok (match p.token with
          | some t => ⟨t, column, String.ofList p.text⟩ :: lexemes
          | none => lexemes)
termination_by cs => cs.length
decreasing_by exact Piece.length_rest _h

/-- The lexemes of a query, or the first literal in it that is never closed. -/
def ofText (query : String) : Except Unclosed (List Lexeme) := ofTextFrom 0 query.toList

end Lexeme

end RecordQuery
