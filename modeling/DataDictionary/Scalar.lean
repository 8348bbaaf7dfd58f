import DataDictionary.Binary64.Layout
import DataDictionary.Json.Basic
import DataDictionary.Text.Blank

/-!
# Scalars

A value that keeps the type it has in the workbook.
-/

namespace DataDictionary

inductive Scalar where
  | boolean (b : Bool)
  | number (x : Binary64)
  | text (s : String)
deriving DecidableEq, Repr

namespace Scalar

def display : Scalar → String
  | .boolean b => if b then "true" else "false"
  | .number x => String.ofList x.text
  | .text s => s

/-- A value counts as present unless it is blank text. -/
def isPresent : Scalar → Bool
  | .text s => !(Text.trim s.toList).isEmpty
  | _ => true

def toJson : Scalar → Json
  | .boolean b => .bool b
  | .number x => .ofBinary64 x
  | .text s => .string s

/-- The value of JSON that is neither null nor composed; a number must lie in the format. -/
def ofJson? : Json → Option Scalar
  | .bool b => some (.boolean b)
  | .number n => if n.value.isFinite then some (.number n.value) else none
  | .string s => some (.text s)
  | _ => none

end Scalar

end DataDictionary
