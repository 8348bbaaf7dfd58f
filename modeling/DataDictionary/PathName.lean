import DataDictionary.Text.Split

/-!
# Path names

A path names a file by the directories above it, with slashes between them.
-/

namespace DataDictionary.PathName

open Text

/-- The components of a path that lead somewhere. -/
def components (path : List Char) : List String :=
  ((splitAt '/' path).map String.ofList).filter fun c => c != "" && c != "."

def isAbsolute (path : List Char) : Bool := path.head? == some '/'

/-- The path calls for a directory: it ends with a slash, or leads nowhere from there. -/
def namesDirectory (path : List Char) : Bool :=
  match (splitAt '/' path).reverse with
  | [] => false
  | [_] => false
  | last :: _ => last.isEmpty || last == ['.']

def maxPath : Nat := 4095

def maxComponent : Nat := 255

def byteCount (s : List Char) : Nat := (String.ofList s).utf8ByteSize

end DataDictionary.PathName
