import DataDictionary.Json.Writer
import DataDictionary.Validation.Expression

/-!
# Zod sources

A validation expression as the source of a Zod schema: a constructor for the base and a chain of
calls for the modifiers. Texts are quoted with single quotes.
-/

namespace DataDictionary.Validation.Zod

open Text

/-- A text inside single quotes. -/
def escape (s : List Char) : List Char :=
  s.flatMap fun c => if c == '\\' then ['\\', '\\'] else if c == '\'' then ['\\', '\''] else [c]

def quote (s : String) : List Char := '\'' :: escape s.toList ++ ['\'']

def messageObject (message : String) : List Char :=
  "\x7b message: ".toList ++ quote message ++ " \x7d".toList

def labels (values : List String) : List Char :=
  "z.enum([".toList ++ join ", ".toList (values.map quote) ++ "])".toList

def base (check : BaseCheck) : List Char :=
  match check.predicate with
  | .oneOf values => labels values
  | .objectId =>
    "z.string().regex(/^[0-9a-fA-F]\x7b24\x7d$/, ".toList ++ messageObject check.message ++ [')']
  | .number => "z.number()".toList
  | .boolean => "z.boolean()".toList
  | .date =>
    "z.string().refine(val => !isNaN(Date.parse(val)), ".toList ++ messageObject check.message ++
      [')']
  | .text => "z.string()".toList

/-- The call of a modifier. Formats of dates are left to the base. -/
def call (check : ModifierCheck) : List Char :=
  match check.modifier with
  | .required => ".nonempty(".toList ++ messageObject check.message ++ [')']
  | .min bound => ".min(".toList ++ bound.text ++ ", ".toList ++ messageObject check.message ++ [')']
  | .max bound => ".max(".toList ++ bound.text ++ ", ".toList ++ messageObject check.message ++ [')']
  | .mimes types =>
    ".refine(file => file && ".toList ++ (Json.ofStrings types).compactChars ++
      ".some(t => file.type.includes(t)), ".toList ++ messageObject check.message ++ [')']
  | .dateFormat _ => []

/-- The source of an expression. The enumeration of a field stands alone. -/
def render (expression : Expression) : String :=
  let calls :=
    match expression.base.predicate, expression.enumerated with
    | .oneOf _, true => []
    | _, _ => expression.modifiers.flatMap call
  String.ofList (base expression.base ++ calls)

end DataDictionary.Validation.Zod
