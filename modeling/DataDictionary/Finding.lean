import DataDictionary.Json.Basic

/-!
# Findings

What is odd in a data dictionary but does not stop its reading.
-/

namespace DataDictionary

inductive Finding where
  /-- The type of a column is not known; it was read as text. -/
  | unknownType (table column token : String)
  /-- A sheet has no record, and gives no table. -/
  | emptyTable (sheet : String)
  /-- A field is defined again; the later definition counts. -/
  | duplicateField (table field : String)
  /-- A table has more than one primary key. -/
  | multiplePrimaryKeys (table : String) (fields : List String)
  /-- A field points to a table that there is not. -/
  | danglingReference (table field target : String)
deriving DecidableEq, Repr

namespace Finding

def message : Finding → String
  | .unknownType table column token =>
    s!"Unknown type '{token}' of column '{table}.{column}', defaulting to String"
  | .emptyTable sheet => s!"Sheet '{sheet}' defines no fields, skipped"
  | .duplicateField table field =>
    s!"Column '{table}.{field}' is defined more than once, keeping the last definition"
  | .multiplePrimaryKeys table fields =>
    s!"Table '{table}' has multiple primary keys: " ++ String.intercalate ", " fields
  | .danglingReference table field target =>
    s!"Field '{table}.{field}' references unknown table '{target}'"

/-- The kind of a finding and what it is about. -/
def toJson : Finding → Json
  | .unknownType table column token => .object [
      ("kind", .string "unknownType"), ("table", .string table), ("column", .string column),
      ("token", .string token)]
  | .emptyTable sheet => .object [("kind", .string "emptyTable"), ("sheet", .string sheet)]
  | .duplicateField table field => .object [
      ("kind", .string "duplicateField"), ("table", .string table), ("field", .string field)]
  | .multiplePrimaryKeys table fields => .object [
      ("kind", .string "multiplePrimaryKeys"), ("table", .string table),
      ("fields", .ofStrings fields)]
  | .danglingReference table field target => .object [
      ("kind", .string "danglingReference"), ("table", .string table), ("field", .string field),
      ("target", .string target)]

end Finding

end DataDictionary
