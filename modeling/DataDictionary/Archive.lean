import DataDictionary.Text.LetterCase
import DataDictionary.Text.Split

/-!
# Archives of parts

A workbook file is an archive of named parts. Parts are looked up without regard to the case of
ASCII letters, and the name asked for may have backslashes between its components.
-/

namespace DataDictionary

structure Part where
  name : String
  bytes : List UInt8

/-- The parts of an archive in order. -/
structure Archive where
  parts : List Part

namespace Archive

open Text

/-- A name as asked for, its components between slashes. -/
def sought (name : String) : List Char := replaceChar '\\' ['/'] name.toList

def find? (archive : Archive) (name : String) : Option Part :=
  archive.parts.find? fun part => sameAscii (sought name) part.name.toList

end Archive

end DataDictionary
