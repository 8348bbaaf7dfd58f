import DataDictionary.FileTree.Basic
import DataDictionary.Snapshot.Basic
import DataDictionary.Text.Utf8

/-!
# Snapshots in files

A snapshot is saved in place of what its file held; directories that are missing on the way are
made. A file that is missing is an empty snapshot.
-/

namespace DataDictionary

/-- Why a snapshot cannot be saved or loaded. -/
inductive Snapshot.Fault where
  /-- The file cannot be read or written. -/
  | inaccessible
  /-- What the file holds is no snapshot. -/
  | malformed
deriving DecidableEq, Repr

abbrev ByteTree := FileTree (List UInt8)

namespace Snapshot

def save (snapshot : Snapshot) (tree : ByteTree) (path : String) : ByteTree × Except Fault Unit :=
  match tree.write path.toList snapshot.toText.toUTF8.data.toList with
  | (tree, true) => (tree, .ok ())
  | (tree, false) => (tree, .error .inaccessible)

def load (tree : ByteTree) (path : String) : Except Fault Snapshot :=
  match tree.read path.toList with
  | .error .directory => .error .inaccessible
  | .error _ => .ok {}
  | .ok bytes =>
    match Text.Utf8.decode? bytes with
    | none => .error .inaccessible
    | some text =>
      match ofText? text with
      | some snapshot => .ok snapshot
      | none => .error .malformed

end Snapshot

end DataDictionary
