import DataDictionary.Scalar
import DataDictionary.Validation.Expression

/-!
# Tables and fields

What a data dictionary says of one table: its name and its fields in order. A field has a type,
flags, pointers to other tables and what it takes to validate and to show its values.
-/

namespace DataDictionary

/-- What a foreign field points to. Either side may be unknown. -/
structure Reference where
  table : Option String := none
  key : Option String := none
deriving DecidableEq, Repr

/-- The definition of one column of a table. -/
structure Field where
  name : String
  type : SemanticType
  /-- The type token as written. -/
  rawType : String := ""
  required : Bool := false
  unique : Bool := false
  indexed : Bool := false
  sortable : Bool := false
  exportable : Bool := false
  isPrimary : Bool := false
  isForeign : Bool := false
  reference : Option Reference := none
  isDependent : Bool := false
  dependentOn : Option String := none
  isParent : Bool := false
  childTable : Option String := none
  default : Option Scalar := none
  enumValues : Option (List String) := none
  uiHint : Option String := none
  comments : Option String := none
  faker : Option String := none
  /-- The rule string as written. -/
  rules : Option String := none
  validation : Validation.Expression
deriving DecidableEq, Repr

structure Table where
  name : String
  fields : List Field
deriving DecidableEq, Repr

namespace Field

def isUpload (field : Field) : Bool := Validation.isUploadHint field.uiHint

/-- The field points to records of another table. -/
def isReference (field : Field) : Bool := field.type == .reference || field.reference.isSome

/-- The table that the field points to, if it is known. -/
def target? (field : Field) : Option String := field.reference.bind (·.table)

/-- The validation that the other attributes come to. -/
def derivedValidation (field : Field) : Validation.Expression :=
  .translate field.type field.isForeign field.enumValues field.rules field.uiHint

end Field

namespace Table

def field? (table : Table) (name : String) : Option Field := table.fields.find? (·.name == name)

def primaryKeys (table : Table) : List Field := table.fields.filter (·.isPrimary)

end Table

end DataDictionary
