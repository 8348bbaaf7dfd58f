import DataDictionary.Markup.Content
import DataDictionary.Workbook.Error

/-!
# Texts of cells and shared items

The text of a cell or of a shared item is what its `t` elements hold, one after the other. Phonetic
guides, which spell a text out once more, are passed over. The value of a cell is text throughout.
-/

namespace DataDictionary.Workbook.OpenXml

open Markup

/-- The text collected so far. -/
structure ItemText where
  /-- A phonetic guide is being passed over. -/
  phonetic : Bool := false
  /-- Character data counts. -/
  inText : Bool
  text : String := ""
deriving DecidableEq, Repr

namespace ItemText

/-- The text of an item that holds elements for its text. -/
def ofItem : ItemText := { inText := false }

/-- The text of a value, which is the text itself. -/
def ofValue : ItemText := { inText := true }

/-- Character data that counts where text does. -/
def append (item : ItemText) (content : Except Markup.Error String) : Except Error ItemText :=
  if item.inText then
    goOn (fun text => { item with text }) (pushContent item.text content)
  else .ok item

def step (item : ItemText) : Event → Except Error ItemText
  | .start tag =>
    if tag.name.is "rPh" then .ok { item with phonetic := true }
    else if tag.name.is "t" && !item.phonetic then .ok { item with inText := true }
    else .ok item
  | .finish name =>
    if name.is "rPh" then .ok { item with phonetic := false }
    else if name.is "t" then .ok { item with inText := false }
    else .ok item
  | .text s => item.append (content s)
  | .cdata s => item.append (content s)
  | .reference name => item.append (referenceContent name)
  | _ => .ok item

end ItemText

def ends (name : String) : Event → Bool
  | .finish n => n.is name
  | _ => false

/-! ### The shared list -/

/-- The shared items collected so far, and the one that is being read. -/
structure SharedTexts where
  items : Array String := #[]
  current : Option ItemText := none

namespace SharedTexts

def step (shared : SharedTexts) (event : Event) : Except Error SharedTexts :=
  match shared.current with
  | some item =>
    if ends "si" event then .ok { items := shared.items.push item.text, current := none }
    else (item.step event).map fun item => { shared with current := some item }
  | none =>
    match event with
    | .start tag =>
      if tag.name.is "si" then .ok { shared with current := some .ofItem } else .ok shared
    | _ => .ok shared

/-- The items at the end of the part; one that was not ended counts. -/
def finish (shared : SharedTexts) : Array String :=
  match shared.current with
  | some item => shared.items.push item.text
  | none => shared.items

def ofDocument (document : Document) : Except Error (Array String) :=
  (foldDocument step {} document).map finish

end SharedTexts

end DataDictionary.Workbook.OpenXml
