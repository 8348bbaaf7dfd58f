import DataDictionary.Address.Url
import DataDictionary.Archive
import DataDictionary.FileTree.Basic
import DataDictionary.Workbook.Error

/-!
# Workbooks in files

The files that workbooks are read from.
-/

namespace DataDictionary

/-- What a file holds, as far as workbooks go. -/
inductive StoredFile where
  | archive (archive : Archive)
  | other

/-- The files that workbooks are read from. -/
abbrev Disk := FileTree StoredFile

def FileTree.readArchive (disk : Disk) (name : String) : Except Workbook.Error Archive :=
  match Address.target name.toList with
  | .elsewhere => .error (.invalidFileAddress name)
  | .noText => .error (.inaccessible .missing)
  | .path path =>
    match disk.read path with
    | .ok (.archive archive) => .ok archive
    | .ok .other => .error .notAnArchive
    | .error fault => .error (.inaccessible fault)

end DataDictionary
