import DataDictionary.Binary64.Basic
import DataDictionary.Text.LetterCase

/-!
# Reading numbers

A number is written with an optional sign, digits with an optional point (one side of it may be
empty), and an optional exponent; or as one of the words for what is not finite, in any case. It
reads as the number nearest to the value written.
-/

namespace DataDictionary.Binary64

def isDigit (c : Char) : Bool := '0' ≤ c && c ≤ '9'

/-- The number that ASCII digits make behind `value`. -/
def digitsValue (value : Nat) (digits : List Char) : Nat :=
  digits.foldl (fun n c => 10 * n + (c.toNat - '0'.toNat)) value

/-- A sign in front of a text, true for minus. -/
def readSign : List Char → Bool × List Char
  | '-' :: rest => (true, rest)
  | '+' :: rest => (false, rest)
  | rest => (false, rest)

/-- Read the exponent that must fill the rest of the text. -/
def readExponent (s : List Char) : Option Int :=
  let (negative, digits) := readSign s
  if digits.isEmpty || !digits.all isDigit then none
  else
    let n : Int := digitsValue 0 digits
    some (if negative then -n else n)

/-- Read an unsigned number in digits: the digits without the point, and the power of ten. -/
def readDecimal (s : List Char) : Option (Nat × Int) :=
  let whole := s.takeWhile isDigit
  let rest := s.dropWhile isDigit
  let (fraction, rest) :=
    match rest with
    | '.' :: rest => (rest.takeWhile isDigit, rest.dropWhile isDigit)
    | rest => ([], rest)
  if whole.isEmpty && fraction.isEmpty then none
  else
    let digits := digitsValue 0 (whole ++ fraction)
    match rest with
    | [] => some (digits, -fraction.length)
    | c :: rest =>
      if c == 'e' || c == 'E' then
        (readExponent rest).map fun exponent => (digits, exponent - fraction.length)
      else none

def read? (s : List Char) : Option Binary64 :=
  let (negative, rest) := readSign s
  match readDecimal rest with
  | some (digits, exponent) => some (ofDecimal negative digits exponent)
  | none =>
    if Text.sameAscii rest "inf".toList || Text.sameAscii rest "infinity".toList then
      some (.infinite negative)
    else if Text.sameAscii rest "nan".toList then some .nan
    else none

end DataDictionary.Binary64
