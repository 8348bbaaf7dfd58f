import DataDictionary.Json.Basic

/-!
# Reading values out of JSON

A structure is written as an object, whose members may stand in any order and may be joined by
others, or as a list of its values in the order of its keys. A key may not occur twice. A variant
is written as its name, or as an object whose one member has that name.
-/

namespace DataDictionary.Json

/-! ### Plain values -/

def bool? : Json → Option Bool
  | .bool b => some b
  | _ => none

def string? : Json → Option String
  | .string s => some s
  | _ => none

/-- The number, as floating point; it must lie in the format. -/
def number? : Json → Option Binary64
  | .number n => if n.value.isFinite then some n.value else none
  | _ => none

def count? : Json → Option Nat
  | .number (.integer n) => if 0 ≤ n then some n.toNat else none
  | _ => none

/-- The items of a list, each of which must be read. -/
def list? {α : Type} (read : Json → Option α) : Json → Option (List α)
  | .array items => items.mapM read
  | _ => none

def strings? : Json → Option (List String) := list? string?

/-- Null for nothing, or a value that must be read. -/
def nullable? {α : Type} (read : Json → Option α) : Json → Option (Option α)
  | .null => some none
  | value => (read value).map some

/-! ### Structures -/

def occurrences (key : String) (members : List (String × Json)) : Nat :=
  (members.filter (·.1 == key)).length

/-- The values of a structure by its keys. -/
def fields? (keys : List String) : Json → Option (List (String × Json))
  | .object members => if keys.all fun key => occurrences key members ≤ 1 then some members else none
  | .array items => if items.length ≤ keys.length then some (keys.zip items) else none
  | _ => none

/-- The value of a key that must be there. -/
def required? {α : Type} (read : Json → Option α) (fields : List (String × Json)) (key : String) :
    Option α :=
  (fields.lookup key).bind read

/-- The value of a key that may be missing. -/
def withDefault? {α : Type} (default : α) (read : Json → Option α) (fields : List (String × Json))
    (key : String) : Option α :=
  match fields.lookup key with
  | some value => read value
  | none => some default

/-- The value of a key that may be missing or null. -/
def optional? {α : Type} (read : Json → Option α) (fields : List (String × Json)) (key : String) :
    Option (Option α) :=
  withDefault? none (nullable? read) fields key

/-- The member for a value that may be absent. -/
def optionalMember {α : Type} (key : String) (write : α → Json) : Option α → List (String × Json)
  | some value => [(key, write value)]
  | none => []

/-! ### Variants -/

/-- The name of a variant and what it holds; null stands for nothing. -/
def variant? : Json → Option (String × Option Json)
  | .string name => some (name, none)
  | .object [(name, value)] => some (name, some value)
  | _ => none

def unit? {α : Type} (a : α) : Option Json → Option α
  | none => some a
  | some .null => some a
  | some _ => none

/-- A variant that holds a value. -/
def holding? {α β : Type} (make : α → β) (read : Json → Option α) : Option Json → Option β
  | some value => (read value).map make
  | none => none

end DataDictionary.Json
