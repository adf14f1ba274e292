import RecordQuery.Command.Workspace
import RecordQuery.Main
import RecordQuery.Session
import RecordQuery.Settings.Json
import RecordQuery.Proofs.Query.Grammar
import RecordQuery.Proofs.Entries
import RecordQuery.Proofs.Query.Chain
import RecordQuery.Proofs.Query.Interpretation
import RecordQuery.Proofs.Query.Writing
import RecordQuery.Proofs.Query.Locality
import RecordQuery.Proofs.Command.Stages
import RecordQuery.Proofs.Json.Numeral
import RecordQuery.Proofs.Json.Decimal
import RecordQuery.Proofs.Json.Canonical
import RecordQuery.Proofs.Json.Quoting
import RecordQuery.Proofs.Json.RoundTrip
import RecordQuery.Proofs.Document.RoundTrip
import RecordQuery.Proofs.Query.Unclosed
import RecordQuery.Proofs.History
import RecordQuery.Proofs.Settings.Layer
import RecordQuery.Proofs.Settings.Environment
import RecordQuery.Proofs.Command.Settings
import RecordQuery.Proofs.Number.Shortest
import RecordQuery.Proofs.Query.WholeNumber
import RecordQuery.Proofs.Query.ParserFaults
import RecordQuery.Proofs.Query.Unmatched
import RecordQuery.Proofs.Query.Unfinished
import RecordQuery.Proofs.Query.Respelling
import RecordQuery.Proofs.Query.BareValues
import RecordQuery.Proofs.Query.Complement
import RecordQuery.Proofs.Query.Threshold
import RecordQuery.Proofs.Query.Dates
import RecordQuery.Proofs.Query.Selections
import RecordQuery.Proofs.Query.Yesterday
import RecordQuery.Proofs.Query.Fields
import RecordQuery.Proofs.Query.Sameness
import RecordQuery.Proofs.Command.Warnings
import RecordQuery.Proofs.Json.Reordering
import RecordQuery.Proofs.Document.Layouts
import RecordQuery.Proofs.Query.Quotation
import RecordQuery.Proofs.Query.Emptiness
import RecordQuery.Proofs.Query.LetterCase
import RecordQuery.Proofs.Command.DateKey
