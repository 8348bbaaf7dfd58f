import DataDictionary.Text.Blank
import DataDictionary.Text.LetterCase
import DataDictionary.Text.Split

/-!
# Flags

How yes and no, and the marks of keys, are written in the cells of a data dictionary.
-/

namespace DataDictionary

open Text

/-- A flag cell says yes by a single `y`. -/
def isYes : Option String → Bool
  | some value => sameAscii (trim value.toList) ['y']
  | none => false

/-- A field is required where its cell for absent values says a single `n`. -/
def isRequired : Option String → Bool
  | some absent => sameAscii (trim absent.toList) ['n']
  | none => false

/-- A mark in the constraints of a field. -/
inductive KeyMark where
  | primary
  | foreign
deriving DecidableEq, Repr

namespace KeyMark

def text : KeyMark → String
  | .primary => "pk"
  | .foreign => "fk"

/-- The constraints hold the mark, in any case and anywhere. -/
def isIn (mark : KeyMark) (constraints : String) : Bool :=
  occurs mark.text.toList (lower constraints.toList)

def marksOf (constraints : String) : List KeyMark := [.primary, .foreign].filter (·.isIn constraints)

end KeyMark

end DataDictionary
