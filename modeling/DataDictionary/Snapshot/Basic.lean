import DataDictionary.Json.Reader
import DataDictionary.Json.Writer
import DataDictionary.Model.Codec
import DataDictionary.Text.LetterCase

/-!
# Snapshots

The tables of an extraction, kept as indented JSON. Tables are found by their names in lower case.
-/

namespace DataDictionary

structure Snapshot where
  tables : List Table := []
deriving DecidableEq, Repr

namespace Snapshot

open Text (lowered)

/-! ### Text -/

/-- The text that a snapshot is kept as. -/
def toText (snapshot : Snapshot) : String := (tablesToJson snapshot.tables).indented

def ofText? (text : String) : Option Snapshot :=
  (Json.read? text.toList).bind fun json => (tablesOfJson? json).map fun tables => { tables }

/-! ### Look-up -/

def find? (snapshot : Snapshot) (name : String) : Option Table :=
  snapshot.tables.find? fun table => lowered table.name == lowered name

/-- The fields of a table that are exported: those that say so, or all if none does. -/
def exportableFields (snapshot : Snapshot) (name : String) : List Field :=
  match snapshot.find? name with
  | none => []
  | some table =>
    match table.fields.filter (·.exportable) with
    | [] => table.fields
    | fields => fields

end Snapshot

end DataDictionary
