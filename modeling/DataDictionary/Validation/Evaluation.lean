import DataDictionary.Calendar.Written
import DataDictionary.Json.Writer
import DataDictionary.Text.DecimalDigit
import DataDictionary.Validation.Expression

/-!
# Evaluating validation expressions

A value that is blank fails only where one is required. Any other is held against the base
predicate, and, if it passes, against every modifier; the messages of all that fail are reported in
order. The descriptor of a file stands in for a value of its field.
-/

namespace DataDictionary.Validation

open Text

/-- Twenty-four hexadecimal digits. -/
def isObjectId (s : List Char) : Bool := s.length == 24 && s.all (digitValue · < 16)

/-- The shape in which a text begins that may be a date: four, two and two digits of any script,
with hyphens between them. -/
def hasDateShape : List Char → Bool
  | y₁ :: y₂ :: y₃ :: y₄ :: '-' :: m₁ :: m₂ :: '-' :: d₁ :: d₂ :: _ =>
    [y₁, y₂, y₃, y₄, m₁, m₂, d₁, d₂].all isDecimalDigit
  | _ => false

def Predicate.accepts : Predicate → Json → Bool
  | .oneOf labels, .string s => labels.contains s
  | .oneOf labels, .number n => labels.contains (Json.number n).compact
  | .oneOf labels, .bool b => labels.contains (Json.bool b).compact
  | .objectId, .string s => isObjectId s.toList
  | .number, .number _ => true
  | .boolean, .bool _ => true
  | .date, .string s => Written.isDate s.toList
  | .text, .string _ => true
  | _, _ => false

/-- What bounds are held against: the value of a number, the length of a text or a list. -/
def measure? : Json → Option Binary64
  | .string s => some (.ofInt s.toList.length)
  | .number n => some n.value
  | .array items => some (.ofInt items.length)
  | _ => none

/-- The content type of a file, of its descriptor or as it is. -/
def contentType? : Json → Option String
  | .object members =>
    match (Json.object members).member? "type" with
    | some (.string s) => some s
    | _ => none
  | .string s => some s
  | _ => none

def Modifier.accepts (value : Json) : Modifier → Bool
  | .required => !value.isBlank
  | .min bound => ((measure? value).map fun size => bound.le size).getD true
  | .max bound => ((measure? value).map fun size => size.le bound).getD true
  | .mimes types =>
    match contentType? value with
    | some type => types.any fun part => occurs part.toList type.toList
    | none => false
  | .dateFormat _ =>
    match value with
    | .string s => hasDateShape s.toList
    | _ => false

/-- The value is the descriptor of a file, and the field one for files. -/
def Expression.isFile (expression : Expression) (value : Json) : Bool :=
  value.isObject && expression.modifiers.any fun check =>
    match check.modifier with
    | .mimes _ => true
    | _ => false

/-- The messages of what a value fails, in order; none if it is valid. -/
def Expression.evaluate (expression : Expression) (value : Json) : List String :=
  if value.isBlank then
    ((expression.modifiers.find? (·.modifier == .required)).map (·.message)).toList
  else if !expression.isFile value && !expression.base.predicate.accepts value then
    [expression.base.message]
  else
    (expression.modifiers.filter (!·.modifier.accepts value)).map (·.message)

end DataDictionary.Validation
