import DataDictionary.Json.Basic
import DataDictionary.Binary64.Layout

/-!
# Writing JSON

Two layouts of one value: the compact one holds no white space, the indented one sets every item on
a line of its own, two spaces deeper than what holds it. Only quotes, backslashes and control
characters are escaped.
-/

namespace DataDictionary.Json

open Text

def hexDigit (n : Nat) : Char := if n < 10 then Char.ofNat (48 + n) else Char.ofNat (87 + n)

/-- A character inside a quoted text. -/
def escaped (c : Char) : List Char :=
  match c with
  | '"' => ['\\', '"']
  | '\\' => ['\\', '\\']
  | '\n' => ['\\', 'n']
  | '\t' => ['\\', 't']
  | '\r' => ['\\', 'r']
  | '\x08' => ['\\', 'b']
  | '\x0c' => ['\\', 'f']
  | c =>
    if c.toNat < 0x20 then
      ['\\', 'u', '0', '0', hexDigit (c.toNat / 16), hexDigit (c.toNat % 16)]
    else [c]

def quoted (s : String) : List Char := '"' :: s.toList.flatMap escaped ++ ['"']

def Number.chars : Number → List Char
  | .integer n => (if n < 0 then ['-'] else []) ++ decimal n.natAbs
  | .float x => x.document

/-! ### Compact layout -/

mutual

/-- A value without white space. -/
def compactChars : Json → List Char
  | .null => "null".toList
  | .bool b => (if b then "true" else "false").toList
  | .number n => n.chars
  | .string s => quoted s
  | .unpaired => "null".toList
  | .array items => '[' :: compactItems items ++ [']']
  | .object members => '{' :: compactMembers members ++ ['}']

/-- The items of a list, with commas between them. -/
def compactItems : List Json → List Char
  | [] => []
  | [item] => compactChars item
  | item :: items => compactChars item ++ ',' :: compactItems items

/-- The members of an object, with commas between them. -/
def compactMembers : List (String × Json) → List Char
  | [] => []
  | [(key, value)] => quoted key ++ ':' :: compactChars value
  | (key, value) :: members => quoted key ++ ':' :: compactChars value ++ ',' :: compactMembers members

end

def compact (value : Json) : String := String.ofList value.compactChars

/-! ### Indented layout -/

def newline (depth : Nat) : List Char := '\n' :: List.replicate (2 * depth) ' '

mutual

/-- A value whose inner lines start at a depth. -/
def indentedChars (depth : Nat) : Json → List Char
  | .null => "null".toList
  | .bool b => (if b then "true" else "false").toList
  | .number n => n.chars
  | .string s => quoted s
  | .unpaired => "null".toList
  | .array [] => ['[', ']']
  | .array (item :: items) =>
    '[' :: indentedItems (depth + 1) (item :: items) ++ newline depth ++ [']']
  | .object [] => ['{', '}']
  | .object (member :: members) =>
    '{' :: indentedMembers (depth + 1) (member :: members) ++ newline depth ++ ['}']

/-- The items of a list, each on a new line. -/
def indentedItems (depth : Nat) : List Json → List Char
  | [] => []
  | [item] => newline depth ++ indentedChars depth item
  | item :: items => newline depth ++ indentedChars depth item ++ ',' :: indentedItems depth items

/-- The members of an object, each on a new line. -/
def indentedMembers (depth : Nat) : List (String × Json) → List Char
  | [] => []
  | [(key, value)] => newline depth ++ quoted key ++ ':' :: ' ' :: indentedChars depth value
  | (key, value) :: members =>
    newline depth ++ quoted key ++ ':' :: ' ' :: indentedChars depth value ++
      ',' :: indentedMembers depth members

end

def indented (value : Json) : String := String.ofList (value.indentedChars 0)

end DataDictionary.Json
