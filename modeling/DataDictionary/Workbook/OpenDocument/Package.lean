import DataDictionary.Markup.Lexer
import DataDictionary.Workbook.Disk

/-!
# OpenDocument spreadsheets as archives

A spreadsheet is known by its media type, if it states one, and refused if its manifest says that a
part is encrypted.
-/

namespace DataDictionary.Workbook.OpenDocument

open Markup

def mediaType : String := "application/vnd.oasis.opendocument.spreadsheet"

/-- The archive states no other media type. -/
def hasMediaType (archive : Archive) : Bool :=
  match archive.find? "mimetype" with
  | some part => part.bytes == bytesOf mediaType
  | none => true

/-- The events tell of encryption inside an entry of the manifest; `inEntry` if they begin inside
one. What follows the first telling is not looked at. -/
def tellsEncryption (error : Option Markup.Error) : Bool → List Event → Except Error Bool
  | _, [] =>
    match error with
    | some error => .error (.markup error)
    | none => .ok false
  | inEntry, .start tag :: events =>
    if tag.name.is "manifest:file-entry" then tellsEncryption error true events
    else if inEntry && tag.name.is "manifest:encryption-data" then .ok true
    else tellsEncryption error inEntry events
  | inEntry, .finish name :: events =>
    tellsEncryption error (inEntry && !name.is "manifest:file-entry") events
  | inEntry, _ :: events => tellsEncryption error inEntry events

def isEncrypted (archive : Archive) : Except Error Bool :=
  match archive.find? "META-INF/manifest.xml" with
  | some part =>
    let manifest := Document.ofBytes part.bytes
    tellsEncryption manifest.error false manifest.events
  | none => .ok false

structure Package where
  file : String
  archive : Archive

def Package.load (disk : Disk) (file : String) : Except Error Package := do
  let archive ← disk.readArchive file
  if !hasMediaType archive then .error .wrongMediaType
  else if ← isEncrypted archive then .error (.passwordProtected file)
  else .ok { file, archive }

end DataDictionary.Workbook.OpenDocument
