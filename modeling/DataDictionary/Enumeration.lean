import DataDictionary.Scalar
import DataDictionary.Text.Split
import DataDictionary.Upsert

/-!
# Enumerations

The labels that the values of a field are drawn from. A comment such as `Y => Active, N => Inactive`
maps keys to labels and comes before a plain list; a default that is one of its keys stands for the
label of that key.
-/

namespace DataDictionary

/-- The labels and the default of a field. -/
structure Enumeration where
  labels : Option (List String) := none
  default : Option Scalar := none
deriving DecidableEq, Repr

namespace Enumeration

open Text

/-! ### Quotes -/

/-- A quotation mark, single or double. -/
def isQuote (c : Char) : Bool := c == '\'' || c == '"'

/-- A text without one quotation mark at its start. -/
def dropQuote : List Char → List Char
  | c :: rest => if isQuote c then rest else c :: rest
  | [] => []

/-- A text trimmed, then freed of one quotation mark at its start and one at its end. -/
def unquote (s : List Char) : List Char := (dropQuote (dropQuote (trim s)).reverse).reverse

/-! ### Labels -/

def labelsOf (list : String) : List String :=
  (((splitAt ',' list.toList).map unquote).filter (!·.isEmpty)).map String.ofList

/-- What stands between a key and its label. -/
def arrow : List Char := ['=', '>']

/-- The key and the label of one part of a comment. What follows a second arrow is left out. -/
def sides (part : List Char) : List Char × List Char :=
  match cutOn arrow part with
  | none => (unquote part, [])
  | some (key, rest) => (unquote key, unquote ((cutOn arrow rest).map (·.1) |>.getD rest))

def entry? (part : List Char) : Option (String × String) :=
  match sides part with
  | ([], _) => none
  | (_, []) => none
  | (key, label) => some (String.ofList key, String.ofList label)

/-- The mapping of a comment, keys in the order in which they first come, each with its last label.
A comment without an arrow holds none. -/
def mapping? (comment : String) : Option (List (String × String)) :=
  if occurs arrow comment.toList then
    some (upsertAll Prod.fst ((splitAt ',' comment.toList).filterMap entry?))
  else none

/-! ### Resolution -/

/-- The label that a default stands for, if it is a key. -/
def translate (mapping : List (String × String)) (value : Scalar) : Scalar :=
  match mapping.lookup (trimmed value.display) with
  | some label => .text label
  | none => value

/-- The enumeration of a field by its comment, its list of labels and its default. -/
def resolve (comments list : Option String) (default : Option Scalar) : Enumeration :=
  match comments.bind mapping? with
  | some (entry :: entries) =>
    { labels := some ((entry :: entries).map (·.2))
      default := default.map (translate (entry :: entries)) }
  | _ => { labels := (list.map labelsOf).filter (!·.isEmpty), default }

end Enumeration

end DataDictionary
