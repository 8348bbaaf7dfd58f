import DataDictionary.Binary64.Layout
import DataDictionary.SemanticType
import DataDictionary.Validation.Directive

/-!
# Validation expressions

What the rules of a field come to, independent of the library that checks them: one base predicate
that says what a value must be, and modifiers that refine it in order, each with the message of its
failure.
-/

namespace DataDictionary.Validation

open Text

/-- What a value must be. -/
inductive Predicate where
  /-- One of a closed list of labels. -/
  | oneOf (labels : List String)
  /-- An identifier of 24 hexadecimal digits. -/
  | objectId
  | number
  | boolean
  /-- A text that is a date. -/
  | date
  | text
deriving DecidableEq, Repr

/-- What a value must be besides. -/
inductive Modifier where
  | required
  /-- The least value of a number, the least length of anything else. -/
  | min (bound : Binary64)
  /-- The greatest value of a number, the greatest length of anything else. -/
  | max (bound : Binary64)
  /-- The content types that an uploaded file may have. -/
  | mimes (types : List String)
  | dateFormat (format : String)
deriving DecidableEq, Repr

/-- The predicate of a field without a list of labels. -/
def Predicate.ofType (type : SemanticType) (isForeign : Bool) : Predicate :=
  if isForeign then .objectId
  else
    match type with
    | .reference => .objectId
    | .number => .number
    | .boolean => .boolean
    | .date => .date
    | .string => .text

def Predicate.message : Predicate → String
  | .oneOf _ => "Invalid enum value"
  | .objectId => "Invalid ObjectId"
  | .number => "Expected number"
  | .boolean => "Expected boolean"
  | .date => "Invalid date format"
  | .text => "Expected string"

def Modifier.message : Modifier → String
  | .required => "Required"
  | .min bound => "Min is " ++ String.ofList bound.text
  | .max bound => "Max is " ++ String.ofList bound.text
  | .mimes _ => "Invalid file type"
  | .dateFormat _ => "Invalid date format"

structure BaseCheck where
  predicate : Predicate
  message : String
deriving DecidableEq, Repr

structure ModifierCheck where
  modifier : Modifier
  message : String
deriving DecidableEq, Repr

structure Expression where
  base : BaseCheck
  modifiers : List ModifierCheck
  /-- The base is the enumeration of the field. -/
  enumerated : Bool := false
deriving DecidableEq, Repr

/-- The check of a predicate with its own message. -/
def Predicate.check (predicate : Predicate) : BaseCheck := ⟨predicate, predicate.message⟩

def Modifier.check (modifier : Modifier) : ModifierCheck := ⟨modifier, modifier.message⟩

/-- The hint marks a field that files are uploaded to. -/
def isUploadHint (hint : Option String) : Bool :=
  match hint with
  | some hint => occurs "file".toList (asciiLower hint.toList)
  | none => false

/-- A base and the modifiers behind it, while directives are taken up. -/
structure Chain where
  base : Predicate
  modifiers : List Modifier := []
deriving DecidableEq, Repr

def Chain.add (chain : Chain) (modifier : Modifier) : Chain :=
  { chain with modifiers := chain.modifiers ++ [modifier] }

/-- Take up a directive. A list of labels begins the chain anew, unless the field has an
enumeration; content types count for uploads only. -/
def Chain.step (enumerated upload : Bool) (chain : Chain) : Directive → Chain
  | .oneOf labels => if enumerated then chain else { base := .oneOf labels }
  | .mimes types => if upload then chain.add (.mimes types) else chain
  | .required => chain.add .required
  | .min bound => chain.add (.min bound)
  | .max bound => chain.add (.max bound)
  | .dateFormat format => chain.add (.dateFormat format)

/-- The labels of an enumeration, if it has any. -/
def labels? : Option (List String) → Option (List String)
  | some [] => none
  | labels => labels

/-- The validation of a field with the given attributes. An enumeration comes before the type, and
foreign fields and references are identifiers. -/
def Expression.translate (type : SemanticType) (isForeign : Bool) (enumValues : Option (List String))
    (rules uiHint : Option String) : Expression :=
  let labels := labels? enumValues
  let base :=
    match labels with
    | some labels => .oneOf labels
    | none => .ofType type isForeign
  let chain :=
    (readRules (rules.getD "")).foldl (Chain.step labels.isSome (isUploadHint uiHint)) { base }
  { base := chain.base.check
    modifiers := chain.modifiers.map Modifier.check
    enumerated := labels.isSome }

def Expression.isRequired (expression : Expression) : Bool :=
  expression.modifiers.any (·.modifier == .required)

end DataDictionary.Validation
