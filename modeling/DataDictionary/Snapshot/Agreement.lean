import DataDictionary.Snapshot.Basic

/-!
# Agreement of snapshots

Two snapshots agree if they are equal up to the signs of their zeros.
-/

namespace DataDictionary

def Scalar.plain : Scalar → Scalar
  | .number x => .number x.plain
  | value => value

def Validation.Modifier.plain : Modifier → Modifier
  | .min bound => .min bound.plain
  | .max bound => .max bound.plain
  | modifier => modifier

/-- A field without the signs of zeros. -/
def Field.plain (field : Field) : Field :=
  let modifiers := field.validation.modifiers.map fun check =>
    { check with modifier := check.modifier.plain }
  { field with
    default := field.default.map Scalar.plain
    validation := { field.validation with modifiers } }

def Table.plain (table : Table) : Table := { table with fields := table.fields.map Field.plain }

/-- The snapshots are equal up to the signs of zeros. -/
def Snapshot.agrees (a b : Snapshot) : Bool := a.tables.map Table.plain == b.tables.map Table.plain

end DataDictionary
