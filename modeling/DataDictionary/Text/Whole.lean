/-!
# Whole numbers as text

An unsigned number is written with an optional plus sign and digits of its base, and must stay
below the limit of the word that is to hold it. A text that is no such number fails in one of three
ways; a foreign character is reported only if no excess digit stands before it.
-/

namespace DataDictionary.Text

/-- Why a text is no unsigned number. -/
inductive WholeFault where
  | empty
  | invalidDigit
  | tooLarge
deriving DecidableEq, Repr

def WholeFault.message : WholeFault → String
  | .empty => "cannot parse integer from empty string"
  | .invalidDigit => "invalid digit found in string"
  | .tooLarge => "number too large to fit in target type"

/-- The value of an ASCII digit, letters counting from ten. -/
def digitValue (c : Char) : Nat :=
  if '0' ≤ c && c ≤ '9' then c.toNat - '0'.toNat
  else if 'a' ≤ c && c ≤ 'z' then c.toNat - 'a'.toNat + 10
  else if 'A' ≤ c && c ≤ 'Z' then c.toNat - 'A'.toNat + 10
  else 36

/-- Read digits behind the number read so far. -/
def digitsFrom (base limit value : Nat) : List Char → Except WholeFault Nat
  | [] => .ok value
  | c :: rest =>
    if base ≤ digitValue c then .error .invalidDigit
    else if limit ≤ value * base + digitValue c then .error .tooLarge
    else digitsFrom base limit (value * base + digitValue c) rest

/-- Read an unsigned number below `limit`. -/
def readWhole (base limit : Nat) : List Char → Except WholeFault Nat
  | [] => .error .empty
  | ['+'] => .error .invalidDigit
  | '+' :: rest => digitsFrom base limit 0 rest
  | rest => digitsFrom base limit 0 rest

/-- Counts, rows and columns are words of 64 bits. -/
def wordLimit : Nat := Nat.pow 2 64

/-- The number behind `n`, if it is a word. -/
def next? (n : Nat) : Option Nat := if n + 1 < wordLimit then some (n + 1) else none

/-- A sum that stays a word. -/
def saturatingAdd (a b : Nat) : Nat := min (a + b) (wordLimit - 1)

def readCount (s : List Char) : Except WholeFault Nat := readWhole 10 wordLimit s

/-- The bytes of a text are counted by words with a sign. -/
def textLimit : Nat := Nat.pow 2 63

/-- A text of `n` spaces, if texts can be that long. -/
def spaces? (n : Nat) : Option String :=
  if n < textLimit then some (String.ofList (List.replicate n ' ')) else none

def decimal (n : Nat) : List Char := Nat.toDigits 10 n

end DataDictionary.Text
