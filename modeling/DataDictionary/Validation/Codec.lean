import DataDictionary.Json.Decode
import DataDictionary.Validation.Expression

/-!
# Validation expressions as JSON

Expressions are written with the keys of their parts in a fixed order, and read back from any
order.
-/

namespace DataDictionary.Validation

open Json (unit? holding? strings? number? string? required? withDefault? fields?)

/-! ### Predicates -/

def Predicate.toJson : Predicate → Json
  | .oneOf labels => .object [("oneOf", .ofStrings labels)]
  | .objectId => .string "objectId"
  | .number => .string "number"
  | .boolean => .string "boolean"
  | .date => .string "date"
  | .text => .string "text"

def Predicate.ofVariant? (name : String) (value : Option Json) : Option Predicate :=
  if name == "oneOf" then holding? .oneOf strings? value
  else if name == "objectId" then unit? .objectId value
  else if name == "number" then unit? .number value
  else if name == "boolean" then unit? .boolean value
  else if name == "date" then unit? .date value
  else if name == "text" then unit? .text value
  else none

def Predicate.ofJson? (json : Json) : Option Predicate :=
  json.variant?.bind fun (name, value) => ofVariant? name value

/-! ### Modifiers -/

def Modifier.toJson : Modifier → Json
  | .required => .string "required"
  | .min bound => .object [("min", .ofBinary64 bound)]
  | .max bound => .object [("max", .ofBinary64 bound)]
  | .mimes types => .object [("mimes", .ofStrings types)]
  | .dateFormat format => .object [("dateFormat", .string format)]

def Modifier.ofVariant? (name : String) (value : Option Json) : Option Modifier :=
  if name == "required" then unit? .required value
  else if name == "min" then holding? .min number? value
  else if name == "max" then holding? .max number? value
  else if name == "mimes" then holding? .mimes strings? value
  else if name == "dateFormat" then holding? .dateFormat string? value
  else none

def Modifier.ofJson? (json : Json) : Option Modifier :=
  json.variant?.bind fun (name, value) => ofVariant? name value

/-! ### Expressions -/

def BaseCheck.toJson (check : BaseCheck) : Json :=
  .object [("predicate", check.predicate.toJson), ("message", .string check.message)]

def BaseCheck.ofJson? (json : Json) : Option BaseCheck := do
  let fields ← fields? ["predicate", "message"] json
  let predicate ← required? Predicate.ofJson? fields "predicate"
  let message ← required? string? fields "message"
  some { predicate, message }

def ModifierCheck.toJson (check : ModifierCheck) : Json :=
  .object [("modifier", check.modifier.toJson), ("message", .string check.message)]

def ModifierCheck.ofJson? (json : Json) : Option ModifierCheck := do
  let fields ← fields? ["modifier", "message"] json
  let modifier ← required? Modifier.ofJson? fields "modifier"
  let message ← required? string? fields "message"
  some { modifier, message }

def Expression.toJson (expression : Expression) : Json :=
  .object [
    ("base", expression.base.toJson),
    ("modifiers", .array (expression.modifiers.map ModifierCheck.toJson)),
    ("enumerated", .bool expression.enumerated)]

def Expression.ofJson? (json : Json) : Option Expression := do
  let fields ← fields? ["base", "modifiers", "enumerated"] json
  let base ← required? BaseCheck.ofJson? fields "base"
  let modifiers ← required? (Json.list? ModifierCheck.ofJson?) fields "modifiers"
  let enumerated ← withDefault? false Json.bool? fields "enumerated"
  some { base, modifiers, enumerated }

end DataDictionary.Validation
