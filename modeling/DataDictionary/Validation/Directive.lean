import DataDictionary.Binary64.Reader
import DataDictionary.Text.Blank
import DataDictionary.Text.Split

/-!
# Rule strings

The rules of a field are written as directives with bars between them, such as
`required|min:3|max:10`. Names are read in any case and white space around every part is dropped.
What is no directive is passed over.
-/

namespace DataDictionary.Validation

open Text

inductive Directive where
  | required
  | min (bound : Binary64)
  | max (bound : Binary64)
  /-- The content types that a file may have. -/
  | mimes (types : List String)
  | dateFormat (format : String)
  /-- The labels that a value must be one of. -/
  | oneOf (labels : List String)
deriving DecidableEq, Repr

namespace Directive

/-- The items of a list with commas, blank ones left out. -/
def items (s : List Char) : List String :=
  (((splitAt ',' s).map trim).filter (!·.isEmpty)).map String.ofList

def items? (s : List Char) : Option (List String) :=
  match items s with
  | [] => none
  | list => some list

def bound? (s : List Char) : Option Binary64 := (Binary64.read? s).filter (·.isFinite)

/-- The directive with a name in small letters and a trimmed argument. -/
def ofParts? (name argument : List Char) : Option Directive :=
  if name == "min".toList then (bound? argument).map .min
  else if name == "max".toList then (bound? argument).map .max
  else if name == "mimes".toList then (items? argument).map .mimes
  else if name == "date_format".toList then some (.dateFormat (String.ofList argument))
  else if name == "in".toList then (items? argument).map .oneOf
  else none

def read? (s : List Char) : Option Directive :=
  let token := trim s
  if sameAscii token "required".toList then some .required
  else
    match cutAt ':' token with
    | some (name, argument) => ofParts? (asciiLower (trim name)) (trim argument)
    | none => none

end Directive

/-- The directives of a rule string in order. -/
def readRules (rules : String) : List Directive :=
  (((splitAt '|' rules.toList).map trim).filter (!·.isEmpty)).filterMap Directive.read?

end DataDictionary.Validation
