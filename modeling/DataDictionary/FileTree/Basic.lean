import DataDictionary.FileTree.System

/-!
# Files by their paths

A tree of directories with files in it. A path is followed component by component; every component
but the last must lead to a directory. Writing a file makes the directories that are missing.
-/

namespace DataDictionary

/-- The files of a system and the directories that were made, by the components of their paths from
the root. -/
structure FileTree (α : Type) where
  files : List (List String × α) := []
  directories : List (List String) := []

/-- Why a path leads to no file. -/
inductive FileTree.Fault where
  | missing
  /-- The path goes on behind a file. -/
  | notDirectory
  /-- The path leads to a directory. -/
  | directory
  /-- The path holds a character that no path holds. -/
  | invalidName
  | nameTooLong
deriving DecidableEq, Repr

namespace FileTree

variable {α : Type}

def isDirectory (tree : FileTree α) (place : List String) : Bool :=
  systemDirectories.contains place || tree.directories.contains place

def file? (tree : FileTree α) (place : List String) : Option α := tree.files.lookup place

/-- Where a component leads from a directory. -/
def next (place : List String) (component : String) : Except Fault (List String) :=
  if component == ".." then
    if place == workingDirectory then .error .missing else .ok place.dropLast
  else if PathName.maxComponent < component.utf8ByteSize then .error .nameTooLong
  else
    let place := place ++ [component]
    .ok ((links.lookup place).getD place)

def follow (tree : FileTree α) (place : List String) : List String → Except Fault (List String)
  | [] => .ok place
  | component :: rest =>
    if tree.isDirectory place then
      match next place component with
      | .ok place => tree.follow place rest
      | .error fault => .error fault
    else if (tree.file? place).isSome then .error .notDirectory
    else .error .missing

/-- Where a path starts. Some paths lead nowhere, whatever there is. -/
def start (path : List Char) : Except Fault (List String) :=
  if path.contains '\x00' then .error .invalidName
  else if PathName.maxPath < PathName.byteCount path then .error .nameTooLong
  else if path.isEmpty then .error .missing
  else .ok (if PathName.isAbsolute path then [] else workingDirectory)

/-- The file at a path. -/
def read (tree : FileTree α) (path : List Char) : Except Fault α := do
  let place ← tree.follow (← start path) (PathName.components path)
  if tree.isDirectory place then .error .directory
  else
    match tree.file? place with
    | some file => if PathName.namesDirectory path then .error .notDirectory else .ok file
    | none => .error .missing

/-- Follow components and make the directories that are missing. What was made stays, also if a
component leads to a file or to where nothing can be made; then there is no place. -/
def makeDirectories (tree : FileTree α) (place : List String) :
    List String → FileTree α × Option (List String)
  | [] => (tree, some place)
  | component :: rest =>
    match next place component with
    | .error _ => (tree, none)
    | .ok place =>
      if tree.isDirectory place then tree.makeDirectories place rest
      else if (tree.file? place).isSome || isFixed place then (tree, none)
      else { tree with directories := place :: tree.directories }.makeDirectories place rest

/-- Put a file, in place of the one that is there. -/
def put (tree : FileTree α) (place : List String) (file : α) : FileTree α :=
  { tree with files := (place, file) :: tree.files.filter (·.1 != place) }

/-- Write a file, and say whether it was written. The directories above it are made, also if the
file itself cannot be. -/
def write (tree : FileTree α) (path : List Char) (file : α) : FileTree α × Bool :=
  let components := PathName.components path
  match start path, components.getLast? with
  | .ok place, some name =>
    match tree.makeDirectories place components.dropLast with
    | (tree, none) => (tree, false)
    | (tree, some above) =>
      match next above name with
      | .error _ => (tree, false)
      | .ok place =>
        if name == ".." || PathName.namesDirectory path || tree.isDirectory place || isFixed place
        then (tree, false)
        else (tree.put place file, true)
  | _, _ => (tree, false)

end FileTree

end DataDictionary
