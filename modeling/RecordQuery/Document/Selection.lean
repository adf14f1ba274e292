import RecordQuery.Document.Layout
import RecordQuery.Document.Reading
import RecordQuery.Query.Compiled

set_option autoImplicit false

/-!
# Selecting from documents

A query reads one document and writes another with the items that it selects, unchanged and in
order.

## Main definitions

* `RecordQuery.Query.selection` — the items that a query selects.
* `RecordQuery.Query.filterDocument` — the document of the selected items.
-/

namespace RecordQuery.Query

/-- The items that a query selects, in order. -/
def selection (q : Query) (now : Instant) (items : List Item) : List Item :=
  items.filter fun item => q.selects now item.record

/-- The document of the items that a query selects. -/
def writeSelection (q : Query) (now : Instant) (layout : Layout) (items : List Item) : String :=
  layout.toText ((q.selection now items).map Item.json)

/-- The document of the items that a query selects from a document. -/
def filterDocument (q : Query) (now : Instant) (layout : Layout) (content : String) :
    Except Document.Fault String :=
  (Document.read content).map (q.writeSelection now layout)

end RecordQuery.Query
