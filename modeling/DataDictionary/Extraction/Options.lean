import DataDictionary.Layout
import DataDictionary.Selection

/-!
# Options of an extraction

Which sheets of a workbook are read, how they are laid out, and whether the integrity of their
tables is looked at.
-/

namespace DataDictionary

structure Options where
  /-- Patterns of the names of sheets; none of them selects every sheet. -/
  sheetPatterns : List String := []
  sheetLimit : Option Nat := none
  layout : Layout := {}
  checkIntegrity : Bool := true
deriving DecidableEq, Repr

namespace Options

def selection (options : Options) : Except Glob.Fault Selection :=
  match options.sheetPatterns with
  | [] => .ok { limit := options.sheetLimit }
  | patterns =>
    match patterns.mapM fun pattern => Glob.read pattern.toList with
    | .ok patterns => .ok { patterns := some patterns, limit := options.sheetLimit }
    | .error fault => .error fault

open Json (fields? withDefault? optional? strings? count? bool?)

/-- Read options; what is missing has its default. -/
def ofJson? (json : Json) : Option Options := do
  let fields ← fields? ["sheet_patterns", "sheet_limit", "layout", "check_integrity"] json
  let sheetPatterns ← withDefault? [] strings? fields "sheet_patterns"
  let sheetLimit ← optional? count? fields "sheet_limit"
  let layout ← withDefault? {} Layout.ofJson? fields "layout"
  let checkIntegrity ← withDefault? true bool? fields "check_integrity"
  some { sheetPatterns, sheetLimit, layout, checkIntegrity }

end Options

end DataDictionary
