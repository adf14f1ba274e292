import RecordQuery.Pattern
import RecordQuery.Query.Lexeme

set_option autoImplicit false

/-!
# Faults of queries

What can be wrong with a query, and the wording for it.
-/

namespace RecordQuery

/-- What the grammar asks for at a place. -/
inductive Expected where
  | fieldName
  | colon
  | comparison
  | value
  | number
  | date
  | closing
  | queryEnd
deriving DecidableEq, Repr

/-- How a message names what is expected. -/
def Expected.describe : Expected → String
  | fieldName => "a field name"
  | colon => "':'"
  | comparison => "a comparison operator (\"<\", \">\", \"<=\", \">=\")"
  | value => "a string or a regular expression"
  | number => "a number"
  | date => "a date"
  | closing => "')'"
  | queryEnd => "the end of the query"

/-- What is wrong with a query. -/
inductive QueryFault where
  /-- A literal is never closed. -/
  | unclosed (u : Unclosed)
  /-- A lexeme stands where the grammar asks for something else. -/
  | unexpected (expected : Expected) (found : Token) (column : Nat)
  /-- The query ends where the grammar asks for more. -/
  | unexpectedEnd (expected : Expected)
  /-- A pattern is not valid. -/
  | invalidPattern (source : String) (column : Nat) (fault : Pattern.Fault)
  /-- A closing parenthesis has no opening one. -/
  | unmatched (column : Nat)

/-- The wording of a fault. -/
def QueryFault.message : QueryFault → String
  | unclosed u => u.message
  | unexpected expected found column =>
    "Parse error: expected " ++ expected.describe ++ ", but got " ++ found.describe ++
      " at column " ++ toString column
  | unexpectedEnd expected =>
    "Parse error: expected " ++ expected.describe ++ ", but reached the end of the query"
  | invalidPattern source column fault =>
    "Parse error: invalid regex /" ++ source ++ "/ at column " ++ toString column ++ ": " ++
      fault.message source
  | unmatched column => "Parse error: unmatched ')' at column " ++ toString column

end RecordQuery
