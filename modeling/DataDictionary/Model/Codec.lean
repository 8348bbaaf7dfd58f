import DataDictionary.Model.Basic
import DataDictionary.Validation.Codec

/-!
# Tables as JSON

The form in which tables are kept. Flags are always written, attributes that are absent are left
out; on reading, all but the name, the type and the validation of a field may be missing.
-/

namespace DataDictionary

open Json (fields? required? withDefault? optional? optionalMember string? bool? strings?)

def SemanticType.toJson (type : SemanticType) : Json := .string type.name

def SemanticType.ofJson? (json : Json) : Option SemanticType :=
  json.variant?.bind fun (name, value) =>
    (SemanticType.ofName? name).bind fun type => Json.unit? type value

def Reference.toJson (reference : Reference) : Json :=
  .object (optionalMember "table" .string reference.table ++
    optionalMember "key" .string reference.key)

def Reference.ofJson? (json : Json) : Option Reference := do
  let fields ← fields? ["table", "key"] json
  let table ← optional? string? fields "table"
  let key ← optional? string? fields "key"
  some { table, key }

/-- The keys of a field in the order in which they are written. -/
def Field.keys : List String := [
  "name", "semanticType", "rawType", "required", "unique", "indexed", "sortable", "exportable",
  "isPrimary", "isForeign", "reference", "isDependent", "dependentOn", "isParent", "childTable",
  "defaultValue", "enumValues", "uiHint", "comments", "faker", "validation",
  "validationExpression"]

def Field.toJson (field : Field) : Json :=
  .object (
    [("name", .string field.name),
     ("semanticType", field.type.toJson),
     ("rawType", .string field.rawType),
     ("required", .bool field.required),
     ("unique", .bool field.unique),
     ("indexed", .bool field.indexed),
     ("sortable", .bool field.sortable),
     ("exportable", .bool field.exportable),
     ("isPrimary", .bool field.isPrimary),
     ("isForeign", .bool field.isForeign)] ++
    optionalMember "reference" Reference.toJson field.reference ++
    [("isDependent", .bool field.isDependent)] ++
    optionalMember "dependentOn" .string field.dependentOn ++
    [("isParent", .bool field.isParent)] ++
    optionalMember "childTable" .string field.childTable ++
    optionalMember "defaultValue" Scalar.toJson field.default ++
    optionalMember "enumValues" .ofStrings field.enumValues ++
    optionalMember "uiHint" .string field.uiHint ++
    optionalMember "comments" .string field.comments ++
    optionalMember "faker" .string field.faker ++
    optionalMember "validation" .string field.rules ++
    [("validationExpression", field.validation.toJson)])

def Field.ofJson? (json : Json) : Option Field := do
  let fields ← fields? Field.keys json
  let name ← required? string? fields "name"
  let type ← required? SemanticType.ofJson? fields "semanticType"
  let rawType ← withDefault? "" string? fields "rawType"
  let required ← withDefault? false bool? fields "required"
  let unique ← withDefault? false bool? fields "unique"
  let indexed ← withDefault? false bool? fields "indexed"
  let sortable ← withDefault? false bool? fields "sortable"
  let exportable ← withDefault? false bool? fields "exportable"
  let isPrimary ← withDefault? false bool? fields "isPrimary"
  let isForeign ← withDefault? false bool? fields "isForeign"
  let reference ← optional? Reference.ofJson? fields "reference"
  let isDependent ← withDefault? false bool? fields "isDependent"
  let dependentOn ← optional? string? fields "dependentOn"
  let isParent ← withDefault? false bool? fields "isParent"
  let childTable ← optional? string? fields "childTable"
  let default ← optional? Scalar.ofJson? fields "defaultValue"
  let enumValues ← optional? strings? fields "enumValues"
  let uiHint ← optional? string? fields "uiHint"
  let comments ← optional? string? fields "comments"
  let faker ← optional? string? fields "faker"
  let rules ← optional? string? fields "validation"
  let validation ← required? Validation.Expression.ofJson? fields "validationExpression"
  some {
    name, type, rawType, required, unique, indexed, sortable, exportable, isPrimary, isForeign,
    reference, isDependent, dependentOn, isParent, childTable, default, enumValues, uiHint,
    comments, faker, rules, validation }

def Table.toJson (table : Table) : Json :=
  .object [("tableName", .string table.name), ("fields", .array (table.fields.map Field.toJson))]

def Table.ofJson? (json : Json) : Option Table := do
  let members ← fields? ["tableName", "fields"] json
  let name ← required? string? members "tableName"
  let fields ← required? (Json.list? Field.ofJson?) members "fields"
  some { name, fields }

def tablesToJson (tables : List Table) : Json := .array (tables.map Table.toJson)

def tablesOfJson? : Json → Option (List Table) := Json.list? Table.ofJson?

end DataDictionary
