import DataDictionary.Text.Blank
import DataDictionary.Text.LetterCase
import DataDictionary.Text.Split

/-!
# Semantic types

The closed set of kinds of values that a field may carry, and the type tokens that name them in a
workbook. Integer columns whose name ends in `_id` point to records of other tables.
-/

namespace DataDictionary

/-- The kind of values of a field. -/
inductive SemanticType where
  | string
  | number
  | boolean
  | date
  /-- A pointer to a record of another table. -/
  | reference
deriving DecidableEq, Repr

namespace SemanticType

open Text

def name : SemanticType → String
  | .string => "String"
  | .number => "Number"
  | .boolean => "Boolean"
  | .date => "Date"
  | .reference => "Reference"

def all : List SemanticType := [.string, .number, .boolean, .date, .reference]

def ofName? (s : String) : Option SemanticType := all.find? (·.name == s)

/-- The name of a column that points to records when it is an integer. -/
def isReferenceColumn (column : String) : Bool :=
  endsWith "_id".toList (asciiLower (trim column.toList))

/-- The type that a token in small letters names. -/
def ofToken? (token column : String) : Option SemanticType :=
  if token == "int" || token == "integer" then
    some (if isReferenceColumn column then .reference else .number)
  else if ["bigint", "smallint", "decimal", "float", "double"].contains token then some .number
  else if ["varchar", "text", "string", "char", "longtext"].contains token then some .string
  else if ["bool", "boolean"].contains token then some .boolean
  else if ["datetime", "timestamp", "date"].contains token then some .date
  else if ["objectid", "foreignkey"].contains token then some .reference
  else none

/-- The type that a column declares, if it is known. -/
def ofDeclaration? (rawType column : String) : Option SemanticType :=
  ofToken? (String.ofList (asciiLower (trim rawType.toList))) column

end SemanticType

end DataDictionary
