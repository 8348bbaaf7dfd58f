import DataDictionary.Workbook.OpenDocument.Content
import DataDictionary.Workbook.OpenXml.Worksheet

/-!
# Workbooks

A workbook is opened by its format, which the end of its name tells, and gives its sheets.
-/

namespace DataDictionary

inductive Workbook where
  | openXml (package : Workbook.OpenXml.Package)
  | openDocument (package : Workbook.OpenDocument.Package)

namespace Workbook

open Text

inductive Format where
  | openXml
  | openDocument
deriving DecidableEq, Repr

/-- What follows the last point of the last component of a name, in small letters. A query or a
fragment is no part of the name. -/
def extension (file : String) : List Char :=
  let path := file.toList.takeWhile fun c => c != '?' && c != '#'
  let component := (path.reverse.takeWhile fun c => c != '/' && c != '\\').reverse
  if component.contains '.' then asciiLower (component.reverse.takeWhile (· != '.')).reverse else []

def Format.ofName? (file : String) : Option Format :=
  let extension := extension file
  if ["xlsx", "xlsm", "xltx", "xltm"].any (·.toList == extension) then some .openXml
  else if extension == "ods".toList then some .openDocument
  else none

def load (disk : Disk) (file : String) : Except Error Workbook :=
  match Format.ofName? file with
  | some .openXml => (OpenXml.Package.load disk file).map .openXml
  | some .openDocument => (OpenDocument.Package.load disk file).map .openDocument
  | none => .error (.unsupportedFormat file)

/-- Read the selected sheets in the order of the workbook. -/
def readSheets (workbook : Workbook) (selection : Selection) : Except Error (List Sheet) :=
  match workbook with
  | .openXml package => package.readSheets selection
  | .openDocument package => package.readSheets selection

end Workbook

end DataDictionary
