import DataDictionary.Scalar
import DataDictionary.Text.Blank
import DataDictionary.Upsert

/-!
# Records

One row of a data dictionary: the values of its cells by the headers above them. A value that is
blank counts as absent.
-/

namespace DataDictionary

/-- The values of a row by their headers, which are not repeated. -/
structure Record where
  /-- The row of the sheet. -/
  row : Nat
  values : List (String × Scalar)
deriving DecidableEq, Repr

namespace Record

open Text

/-- The record of values with headers. A header that is repeated keeps its place and takes the last
value. -/
def ofValues (row : Nat) (values : List (String × Scalar)) : Record :=
  { row, values := upsertAll Prod.fst values }

/-- The value under a header, if it is present. -/
def scalar? (record : Record) (header : String) : Option Scalar :=
  (record.values.lookup header).filter (·.isPresent)

/-- The text of the value under a header, trimmed. -/
def text? (record : Record) (header : String) : Option String :=
  (record.scalar? header).map fun value => trimmed value.display

end Record

end DataDictionary
