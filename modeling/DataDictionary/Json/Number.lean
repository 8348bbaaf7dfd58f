import DataDictionary.Json.Basic
import DataDictionary.Binary64.Reader
import DataDictionary.Text.Whole

/-!
# Reading JSON numbers

A number without fraction and exponent that fits a 64-bit word is an integer. Any other is
floating point, and is read by scaling: the leading digits that fit 64 bits make the significand,
which is rounded, and then multiplied or divided by a rounded power of ten. A number beyond the
format reads as an infinity, which no value that is taken out of a document may be.
-/

namespace DataDictionary.Json

open Binary64
open Text (wordLimit)

/-- The digits of a number collected so far: a significand below 2^64, the power of ten to scale
it by, and whether further digits are left out. -/
structure Significand where
  digits : Nat
  exponent : Int
  full : Bool

/-- Take up a digit before the point. -/
def Significand.wholeDigit (s : Significand) (c : Char) : Significand :=
  let digits := s.digits * 10 + (c.toNat - '0'.toNat)
  if s.full || wordLimit ≤ digits then ⟨s.digits, s.exponent + 1, true⟩
  else ⟨digits, s.exponent, false⟩

/-- Take up a digit behind the point. -/
def Significand.fractionDigit (s : Significand) (c : Char) : Significand :=
  let digits := s.digits * 10 + (c.toNat - '0'.toNat)
  if s.full || wordLimit ≤ digits then { s with full := true } else ⟨digits, s.exponent - 1, false⟩

/-- The greatest power of ten that one multiplication or division scales by. -/
def greatestPower : Nat := 308

/-- Divide by a power of ten, in steps of the greatest one. -/
def scaleDown (x : Binary64) (power : Nat) : Binary64 :=
  if power ≤ greatestPower then x.div (ofDecimal false 1 power)
  else if x.isZero then x
  else scaleDown (x.div (ofDecimal false 1 greatestPower)) (power - greatestPower)
termination_by power
decreasing_by simp only [greatestPower] at *; omega

/-- The number of a significand. -/
def Significand.scaled (s : Significand) : Binary64 :=
  let x := Binary64.ofInt s.digits
  if s.exponent < 0 then scaleDown x s.exponent.natAbs
  else if x.isZero then x
  else if s.exponent ≤ greatestPower then x.mul (ofDecimal false 1 s.exponent)
  else .infinite false

/-- A floating-point number of a sign and a significand. -/
def Number.ofSignificand (negative : Bool) (s : Significand) : Number :=
  .float (if negative then s.scaled.neg else s.scaled)

/-- A whole number: an integer where a word holds it, and a floating-point number otherwise; minus
zero is one of these. -/
def Number.ofWhole (negative : Bool) (s : Significand) : Number :=
  if s.full then Number.ofSignificand negative s
  else if !negative then .integer s.digits
  else if s.digits = 0 || wordLimit / 2 < s.digits then Number.ofSignificand true s
  else .integer (-s.digits)

/-- Read the exponent behind its mark. -/
def readExponent (s : List Char) : Option (Int × List Char) :=
  let (negative, rest) := readSign s
  let digits := rest.takeWhile isDigit
  if digits.isEmpty then none
  else
    let n : Int := digitsValue 0 digits
    some (if negative then -n else n, rest.dropWhile isDigit)

/-- Read what may follow the digits of a number that is no integer. -/
def readScale (negative : Bool) (s : Significand) : List Char → Option (Number × List Char)
  | c :: rest =>
    if c == 'e' || c == 'E' then do
      let (exponent, rest) ← readExponent rest
      some (Number.ofSignificand negative { s with exponent := s.exponent + exponent }, rest)
    else some (Number.ofSignificand negative s, c :: rest)
  | [] => some (Number.ofSignificand negative s, [])

/-- Read what follows the digits in front of the point. -/
def readFraction (negative : Bool) (collected : Significand) :
    List Char → Option (Number × List Char)
  | '.' :: rest =>
    let fraction := rest.takeWhile isDigit
    if fraction.isEmpty then none
    else
      readScale negative (fraction.foldl Significand.fractionDigit { collected with full := false })
        (rest.dropWhile isDigit)
  | c :: rest =>
    if c == 'e' || c == 'E' then readScale negative collected (c :: rest)
    else some (Number.ofWhole negative collected, c :: rest)
  | [] => some (Number.ofWhole negative collected, [])

/-- Read a number without its sign. -/
def readUnsigned (negative : Bool) (s : List Char) : Option (Number × List Char) :=
  let whole := s.takeWhile isDigit
  if whole.isEmpty || (whole.length != 1 && whole.head? == some '0') then none
  else
    readFraction negative (whole.foldl Significand.wholeDigit ⟨0, 0, false⟩) (s.dropWhile isDigit)

def readNumber : List Char → Option (Number × List Char)
  | '-' :: rest => readUnsigned true rest
  | rest => readUnsigned false rest

end DataDictionary.Json
