import DataDictionary.Text.Utf8
import DataDictionary.Text.Whole

/-!
# Markup events

A document is read as a flat list of events. Tags are not matched with each other here: what an
element holds is for the reader of the events to say. A self-closing tag gives a start and an end.
Everything is kept as the bytes that were written, which need not be UTF-8.
-/

namespace DataDictionary.Markup

inductive AttributeFault where
  | expectedEq
  | expectedValue
  | unquotedValue
  | expectedQuote
  | duplicated
deriving DecidableEq, Repr

/-- Why a document, or a part of it that is looked at, cannot be read. -/
inductive Error where
  /-- Markup that has no end, or is of no known kind. -/
  | unterminated
  /-- Markup where there may be none. -/
  | illFormed
  | attribute (fault : AttributeFault)
  /-- A reference in an attribute that stands for no character. -/
  | escape
  /-- An attribute that is no UTF-8. -/
  | attributeEncoding
  /-- Text that is no UTF-8. -/
  | encoding
  /-- A character reference without a proper number. -/
  | number (fault : Text.WholeFault)
  | unknownEntity (name : String)
  /-- An attribute whose value is not what its name calls for. -/
  | attributeValue (name value : String)
deriving DecidableEq, Repr

/-- How an error is told, where the library has words of its own for it. -/
def Error.message? : Error → Option String
  | .number fault => some fault.message
  | .unknownEntity name => some s!"Unknown XML entity '&{name};'"
  | .attributeValue name value => some s!"Cannot parse attribute '{name}' value '{value}'"
  | _ => none

def bytesOf (s : String) : List UInt8 := s.toUTF8.data.toList

structure Name where
  bytes : List UInt8
deriving DecidableEq, Repr

def Name.is (name : Name) (s : String) : Bool := name.bytes == bytesOf s

/-- The name without its namespace prefix. -/
def Name.localPart (name : Name) : Name :=
  match name.bytes.dropWhile (· != 58) with
  | _ :: rest => ⟨rest⟩
  | [] => name

/-- The name as text, with U+FFFD for what is no UTF-8. -/
def Name.display (name : Name) : String := Text.Utf8.decodeLossy name.bytes

/-- An attribute as written: its value still holds references. -/
structure Attribute where
  name : Name
  value : List UInt8
deriving DecidableEq, Repr

/-- A start tag with its attributes in order. -/
structure Tag where
  name : Name
  /-- The attributes and what is wrong between them. -/
  attributes : List (Except AttributeFault Attribute) := []
  /-- The same where a repeated name is a fault, behind which reading goes on at the next white
  space. -/
  distinctAttributes : List (Except AttributeFault Attribute) := attributes

/-- A piece of a document. -/
inductive Event where
  | start (tag : Tag)
  | finish (name : Name)
  | text (content : List UInt8)
  | cdata (content : List UInt8)
  /-- A reference between `&` and `;`. -/
  | reference (name : List UInt8)
  | comment
  | declaration
  | instruction
  | doctype

/-- The events of a document, and the error that ends them if it cannot be read to its end. -/
structure Document where
  events : List Event
  error : Option Error := none

end DataDictionary.Markup
