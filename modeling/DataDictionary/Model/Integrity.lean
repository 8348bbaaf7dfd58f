import DataDictionary.Finding
import DataDictionary.Model.Basic
import DataDictionary.Text.LetterCase

/-!
# Integrity of tables

A table has at most one primary key, and its fields point to tables that there are. Names of tables
are the same if they are so in lower case.
-/

namespace DataDictionary

open Text (lowered)

namespace Table

def primaryKeyFinding? (table : Table) : Option Finding :=
  match table.primaryKeys.map (·.name) with
  | name :: name' :: names => some (.multiplePrimaryKeys table.name (name :: name' :: names))
  | _ => none

/-- The finding about what a field points to, where `known` are the names of all tables in lower
case. -/
def referenceFinding? (known : List String) (table : Table) (field : Field) : Option Finding :=
  match field.target? with
  | some target =>
    if known.contains (lowered target) then none
    else some (.danglingReference table.name field.name target)
  | none => none

/-- The findings about a table among tables of the given names in lower case. -/
def integrityFindings (known : List String) (table : Table) : List Finding :=
  table.primaryKeyFinding?.toList ++ table.fields.filterMap (table.referenceFinding? known)

end Table

/-- The findings about the integrity of tables, table by table. -/
def integrityFindings (tables : List Table) : List Finding :=
  let known := tables.map fun table => lowered table.name
  tables.flatMap (·.integrityFindings known)

end DataDictionary
