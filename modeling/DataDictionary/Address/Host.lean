import DataDictionary.Address.DomainName
import DataDictionary.Text.Utf8
import DataDictionary.Text.Whole

/-!
# Hosts of addresses

A host is a domain name, four numbers, or eight numbers in brackets.
-/

namespace DataDictionary.Address

open Text

/-- The bytes of a text, with every percent sign and two hexadecimal digits made one byte. -/
def percentBytes : List Char → List UInt8
  | '%' :: a :: b :: rest =>
    if digitValue a < 16 && digitValue b < 16 then
      UInt8.ofNat (digitValue a * 16 + digitValue b) :: percentBytes rest
    else 37 :: percentBytes (a :: b :: rest)
  | c :: rest => (String.singleton c).toUTF8.toList ++ percentBytes rest
  | [] => []

def percentDecoded (s : List Char) : List Char := (Utf8.decodeLossy (percentBytes s)).toList

/-! ### Four numbers -/

/-- Read a number that may be hexadecimal or octal. -/
def readPart (s : List Char) : Option Nat :=
  let read (base : Nat) (digits : List Char) : Option Nat :=
    if digits.all (digitValue · < base) then
      some (digits.foldl (fun n c => n * base + digitValue c) 0)
    else none
  match s with
  | [] => none
  | '0' :: 'x' :: digits | '0' :: 'X' :: digits => read 16 digits
  | '0' :: digits => read 8 digits
  | digits => read 10 digits

/-- Labels without the empty one behind a point at the end. -/
def withoutRoot (labels : List (List Char)) : List (List Char) :=
  if 1 < labels.length && labels.getLast? == some [] then labels.dropLast else labels

/-- The name ends in a number and so must be an address of four numbers. -/
def endsInNumber (labels : List (List Char)) : Bool :=
  match (withoutRoot labels).getLast? with
  | some label =>
    (!label.isEmpty && label.all fun c => '0' ≤ c && c ≤ '9') || (readPart label).isSome
  | none => false

/-- Up to four numbers, of which the last fills the bytes that are left. -/
def isFourNumbers (labels : List (List Char)) : Bool :=
  match (withoutRoot labels).mapM readPart with
  | none => false
  | some numbers =>
    numbers.length ≤ 4 && numbers.dropLast.all (· ≤ 255) &&
      (numbers.getLast?.map (decide <| · < Nat.pow 256 (5 - numbers.length))).getD false

/-! ### Eight numbers -/

/-- A group of up to four hexadecimal digits. -/
def isGroup (s : List Char) : Bool := !s.isEmpty && s.length ≤ 4 && s.all (digitValue · < 16)

/-- Four decimal numbers of one byte, without leading zeros. -/
def isTail (s : List Char) : Bool :=
  let parts := splitAt '.' s
  parts.length == 4 && parts.all fun part =>
    !part.isEmpty && part.length ≤ 3 && part.all (fun c => '0' ≤ c && c ≤ '9') &&
      (part.length == 1 || part.head? != some '0') &&
      part.foldl (fun n c => n * 10 + digitValue c) 0 ≤ 255

/-- How many groups colons separate; four numbers at the end count for two. -/
def groupCount (s : List Char) (atEnd : Bool) : Option Nat :=
  if s.isEmpty then some 0
  else
    let parts := splitAt ':' s
    let last := parts.getLast?.getD []
    if parts.all isGroup then some parts.length
    else if atEnd && parts.dropLast.all isGroup && isTail last then some (parts.length + 1)
    else none

/-- Eight groups, or fewer around one double colon. -/
def isEightNumbers (s : List Char) : Bool :=
  match cutOn "::".toList s with
  | none => groupCount s true == some 8
  | some (before, after) =>
    match groupCount before false, groupCount after true with
    | some a, some b => a + b ≤ 7
    | _, _ => false

/-! ### Hosts -/

/-- A host that addresses can name. -/
inductive Host where
  /-- Four or eight numbers. -/
  | numbers
  /-- A domain name by its labels. -/
  | name (labels : List (List Char))
deriving DecidableEq, Repr

/-- Brackets around eight numbers; `none` without an opening bracket. -/
def bracketed? : List Char → Option Bool
  | '[' :: rest => some (rest.getLast? == some ']' && isEightNumbers rest.dropLast)
  | _ => none

/-- Read a host where addresses name computers. -/
def Host.read? (s : List Char) : Option Host :=
  match bracketed? s with
  | some ok => if ok then some .numbers else none
  | none =>
    match nameLabels? (percentDecoded s) with
    | none => none
    | some labels =>
      if labels == [[]] then none
      else if !endsInNumber labels then some (.name labels)
      else if isFourNumbers labels then some .numbers
      else none

/-- This computer, where a file is concerned. -/
def Host.this : Host := .name ["localhost".toList]

/-- Characters that no other host holds. -/
def deniedInOpaque : List Char := "\x00\t\n\r #/:<>?@[\\]^|".toList

/-- A host where the scheme of the address gives hosts no meaning. -/
def isOpaqueHost (s : List Char) : Bool :=
  match bracketed? s with
  | some ok => ok
  | none => !s.any deniedInOpaque.contains

end DataDictionary.Address
