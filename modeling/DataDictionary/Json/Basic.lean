import DataDictionary.Binary64.Basic

/-!
# JSON values

Integers and floating-point numbers are kept apart: `1` and `1.0` are different values. The members
of an object stand in the order in which they were written.
-/

namespace DataDictionary

inductive Json.Number where
  | integer (n : Int)
  | float (x : Binary64)
deriving DecidableEq, Repr

inductive Json where
  | null
  | bool (b : Bool)
  | number (n : Json.Number)
  | string (s : String)
  /-- A text in which half of a surrogate pair stands alone, or an object with such a key: it can be
  passed over, but stands for nothing. -/
  | unpaired
  | array (items : List Json)
  | object (members : List (String × Json))
deriving Repr

namespace Json

def ofInt (n : Int) : Json := .number (.integer n)

def ofBinary64 (x : Binary64) : Json := .number (.float x)

def ofStrings (texts : List String) : Json := .array (texts.map .string)

/-- The number, as floating point. -/
def Number.value : Number → Binary64
  | .integer n => .ofInt n
  | .float x => x

/-- The value of the last member of this name. -/
def member? (key : String) : Json → Option Json
  | .object members => members.reverse.lookup key
  | _ => none

/-- Null, the empty text and the empty list. -/
def isBlank : Json → Bool
  | .null => true
  | .string s => s.isEmpty
  | .array items => items.isEmpty
  | _ => false

def isObject : Json → Bool
  | .object _ => true
  | _ => false

end Json

end DataDictionary
