import DataDictionary.FileTree.Basic
import DataDictionary.Glob
import DataDictionary.Markup.Event

/-!
# Why a workbook cannot be read

Every error ends the reading of a workbook. What is merely odd in the tables of a workbook is a
finding and never an error.
-/

namespace DataDictionary.Workbook

/-- Why a workbook, or the request to read one, fails. -/
inductive Error where
  | unsupportedFormat (file : String)
  | inaccessible (fault : FileTree.Fault)
  | notAnArchive
  | invalidFileAddress (name : String)
  | missingPart (part : String)
  | noSheets (file : String)
  | passwordProtected (file : String)
  | missingSharedText (file : String) (index : Nat)
  | wrongMediaType
  | markup (error : Markup.Error)
  | number (fault : Text.WholeFault)
  | pattern (fault : Glob.Fault)
  | invalidParameter (name reason : String)
  | unknownTable (file table : String)
  /-- A sum that is no word, or a text longer than any may be. The program breaks off. -/
  | overflow
  /-- An error met while the sheets of an opened workbook were read. -/
  | reading (file : String) (inner : Error)
deriving DecidableEq, Repr

/-- How an error is told, where the library has words of its own for it. -/
def Error.message? : Error → Option String
  | .unsupportedFormat file => some s!"Unsupported workbook format: '{file}'"
  | .inaccessible _ => none
  | .notAnArchive => none
  | .invalidFileAddress name => some s!"Invalid file URL: '{name}'"
  | .missingPart part => some s!"Workbook part '{part}' is missing"
  | .noSheets file => some s!"Workbook '{file}' contains no sheets"
  | .passwordProtected file => some s!"Workbook '{file}' is password protected"
  | .missingSharedText file index =>
    some s!"Shared string {index} referenced by '{file}' does not exist"
  | .wrongMediaType => some "Invalid OpenDocument spreadsheet MIME type"
  | .markup error => error.message?
  | .number fault => some fault.message
  | .pattern fault => some fault.message
  | .invalidParameter name reason => some s!"Invalid parameter '{name}': {reason}"
  | .unknownTable file table => some s!"Workbook '{file}' defines no table named '{table}'"
  | .overflow => none
  | .reading file inner => inner.message?.map fun m => s!"Failed to read workbook '{file}': {m}"

/-- An error met while the sheets of an opened workbook were read. Whatever breaks off the program
does so from there, too. -/
def Error.whileReading (file : String) : Error → Error
  | .overflow => .overflow
  | error => .reading file error

/-- What words or texts can hold, or an overflow. -/
def ofWord {α : Type} : Option α → Except Error α
  | some value => .ok value
  | none => .error .overflow

/-- Fold over the events of a document, and fail where its reading does. -/
def foldDocument {σ : Type} (step : σ → Markup.Event → Except Error σ) (state : σ)
    (document : Markup.Document) : Except Error σ :=
  match document.events.foldlM step state with
  | .error error => .error error
  | .ok state =>
    match document.error with
    | some error => .error (.markup error)
    | none => .ok state

def ofMarkup {α : Type} : Except Markup.Error α → Except Error α
  | .ok value => .ok value
  | .error error => .error (.markup error)

/-- A reader goes on with the text behind which something was put, unless that was at fault. -/
@[simp]
def goOn {σ : Type} (keep : String → σ) : String × Except Markup.Error Unit → Except Error σ
  | (text, .ok ()) => .ok (keep text)
  | (_, .error error) => .error (.markup error)

end DataDictionary.Workbook
