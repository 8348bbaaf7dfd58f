import DataDictionary.Markup.Event
import DataDictionary.Text.Split

/-!
# Content of text and attributes

Text is read with its line ends made one, references are replaced by what they stand for. A number
that names no character stands for nothing in text and is an error in an attribute.
-/

namespace DataDictionary.Markup

open Text

/-- A text in which every line end is a line feed. -/
def normalizeLines : List Char → List Char
  | [] => []
  | '\r' :: '\n' :: rest => '\n' :: normalizeLines rest
  | '\r' :: '\u0085' :: rest => '\n' :: normalizeLines rest
  | c :: rest =>
    (if c == '\r' || c == '\u0085' || c == '\u2028' then '\n' else c) :: normalizeLines rest

def content (bytes : List UInt8) : Except Error String :=
  match Utf8.decode? bytes with
  | some s => .ok (String.ofList (normalizeLines s.toList))
  | none => .error .encoding

/-- The five names that stand for a character without being declared. -/
def predefined? (name : List Char) : Option Char :=
  if name == "lt".toList then some '<'
  else if name == "gt".toList then some '>'
  else if name == "amp".toList then some '&'
  else if name == "apos".toList then some '\''
  else if name == "quot".toList then some '"'
  else none

def charOf? (n : Nat) : Option Char := if n.isValidChar then some (Char.ofNat n) else none

/-- Character references hold a number of 32 bits. -/
def readCode : List Char → Except WholeFault Nat
  | 'x' :: digits => readWhole 16 (Nat.pow 2 32) digits
  | digits => readWhole 10 (Nat.pow 2 32) digits

def referenceText (name : List Char) : Except Error (List Char) :=
  match name with
  | '#' :: number =>
    match readCode number with
    | .ok code => .ok (charOf? code).toList
    | .error fault => .error (.number fault)
  | _ =>
    match predefined? name with
    | some c => .ok [c]
    | none => .error (.unknownEntity (String.ofList name))

/-- What a reference event stands for. -/
def referenceContent (name : List UInt8) : Except Error String :=
  match content name with
  | .error error => .error error
  | .ok name => (referenceText name.toList).map String.ofList

/-- Put content behind a text, which stays as it is if the content is at fault. -/
@[simp]
def pushContent (text : String) : Except Error String → String × Except Error Unit
  | .ok s => (text ++ s, .ok ())
  | .error error => (text, .error error)

/-- Put what a reference stands for behind a text. -/
def pushReference (text : String) (name : List UInt8) : String × Except Error Unit :=
  pushContent text (referenceContent name)

/-- Put references behind a text, one after the other, up to the first that is at fault. -/
def pushReferences (text : String) : List (List UInt8) → String × Except Error Unit
  | [] => (text, .ok ())
  | name :: rest =>
    match pushReference text name with
    | (text, .ok ()) => pushReferences text rest
    | (text, .error error) => (text, .error error)

/-- The character that a reference in an attribute stands for. -/
def attributeReference? (name : List Char) : Option Char :=
  match name with
  | '#' :: number =>
    let digits := match number with | 'x' :: digits => digits | digits => digits
    if digits.head? == some '+' then none
    else
      match readCode number with
      | .ok code => if code = 0 then none else charOf? code
      | .error _ => none
  | _ => predefined? name

/-- The value of an attribute, its references replaced; `name` collects a reference that has
begun, last character first. -/
def unescapeFrom : Option (List Char) → List Char → Except Error (List Char)
  | none, [] => .ok []
  | some _, [] => .error .escape
  | none, c :: rest =>
    if c == '&' then unescapeFrom (some []) rest
    else (unescapeFrom none rest).map (c :: ·)
  | some name, c :: rest =>
    if c == '&' then .error .escape
    else if c == ';' then
      match attributeReference? name.reverse with
      | some d => (unescapeFrom none rest).map (d :: ·)
      | none => .error .escape
    else unescapeFrom (some (c :: name)) rest

def Attribute.text (a : Attribute) : Except Error String :=
  match Utf8.decode? a.value with
  | none => .error .attributeEncoding
  | some s => (unescapeFrom none s.toList).map String.ofList

/-- The first attribute of the given name; what is at fault before it is an error. -/
def findAttribute (name : String) :
    List (Except AttributeFault Attribute) → Except Error (Option Attribute)
  | [] => .ok none
  | .error fault :: _ => .error (.attribute fault)
  | .ok a :: rest => if a.name.is name then .ok (some a) else findAttribute name rest

def Tag.attribute? (tag : Tag) (name : String) : Except Error (Option String) :=
  match findAttribute name tag.attributes with
  | .error error => .error error
  | .ok none => .ok none
  | .ok (some a) => a.text.map some

/-- The count that the attribute of the given name holds. -/
def Tag.count? (tag : Tag) (name : String) : Except Error (Option Nat) :=
  match tag.attribute? name with
  | .error error => .error error
  | .ok none => .ok none
  | .ok (some value) =>
    match readCount value.toList with
    | .ok n => .ok (some n)
    | .error _ => .error (.attributeValue name value)

end DataDictionary.Markup
