import DataDictionary.Enumeration
import DataDictionary.Finding
import DataDictionary.Flags
import DataDictionary.Model.Basic
import DataDictionary.Record

/-!
# Fields from records

A record of a data dictionary defines one field: each of its attributes stands under a header of
its own. A type that is not known is read as text.
-/

namespace DataDictionary

namespace Record

open Text (trimmed)

def name (record : Record) : String := (record.text? "column").getD ""

def rawType (record : Record) : String := (record.text? "type").getD ""

def type? (record : Record) : Option SemanticType :=
  SemanticType.ofDeclaration? record.rawType record.name

/-- The cell under a header says yes. -/
def flag (record : Record) (header : String) : Bool := isYes (record.text? header)

/-- The constraints of the field hold a mark. -/
def isMarked (record : Record) (mark : KeyMark) : Bool :=
  (record.text? "constraints").any mark.isIn

/-- What the field points to. A table to point to is enough; the mark alone is, too. -/
def reference? (record : Record) : Option Reference :=
  let table := record.text? "foreign_table"
  if record.isMarked .foreign || table.isSome then
    some { table, key := record.text? "foreign_key" }
  else none

/-- The default as written, texts trimmed. -/
def default? (record : Record) : Option Scalar :=
  (record.scalar? "default_value").map fun value =>
    match value with
    | .text s => .text (trimmed s)
    | value => value

def enumeration (record : Record) : Enumeration :=
  .resolve (record.text? "comments") (record.text? "enum_values") record.default?

/-- The field that a record defines. -/
def toField (record : Record) : Field :=
  let type := record.type?.getD .string
  let isForeign := record.isMarked .foreign
  let enumeration := record.enumeration
  let rules := record.text? "validation_rule"
  let uiHint := record.text? "ui_component"
  { name := record.name
    type
    rawType := record.rawType
    required := isRequired (record.text? "is_null")
    unique := record.flag "is_unique"
    indexed := record.flag "is_index"
    sortable := record.flag "sortable"
    exportable := record.flag "exportable"
    isPrimary := record.isMarked .primary
    isForeign
    reference := record.reference?
    isDependent := record.flag "is_dependent"
    dependentOn := record.text? "dependent_on"
    isParent := record.flag "is_parent"
    childTable := record.text? "child_table"
    default := enumeration.default
    enumValues := enumeration.labels
    uiHint
    comments := record.text? "comments"
    faker := record.text? "faker_value"
    rules
    validation := .translate type isForeign enumeration.labels rules uiHint }

def typeFinding? (table : String) (record : Record) : Option Finding :=
  match record.type? with
  | some _ => none
  | none => some (.unknownType table record.name record.rawType)

end Record

end DataDictionary
