import DataDictionary.Binary64.Shortest
import DataDictionary.Text.Whole

/-!
# Numbers as text

Two forms of a number, both of its shortest decimal. In documents a number always shows a fraction
or an exponent, so that it is told from an integer; in running text whole numbers are written as
integers and no exponent is ever used.
-/

namespace DataDictionary.Binary64

open Text

def Decimal.chars (d : Decimal) : List Char := decimal d.digits

/-- The exponent of the leading digit. -/
def Decimal.leading (d : Decimal) : Int := d.chars.length - 1 + d.exponent

/-- A decimal written without an exponent; `fraction` is put behind a whole number. -/
def Decimal.positional (fraction : List Char) (d : Decimal) : List Char :=
  let digits := d.chars
  if 0 ≤ d.exponent then digits ++ List.replicate d.exponent.toNat '0' ++ fraction
  else
    let point := digits.length - (-d.exponent).toNat
    if point = 0 then
      "0.".toList ++ List.replicate ((-d.exponent).toNat - digits.length) '0' ++ digits
    else digits.take point ++ '.' :: digits.drop point

/-- A decimal written with an exponent, whose sign is always shown. -/
def Decimal.scientific (d : Decimal) : List Char :=
  let fraction :=
    match d.chars with
    | c :: [] => [c]
    | c :: rest => c :: '.' :: rest
    | [] => []
  let exponent := d.leading
  fraction ++ 'e' :: (if 0 ≤ exponent then '+' else '-') :: decimal exponent.natAbs

def signChars (negative : Bool) : List Char := if negative then ['-'] else []

/-- A number as documents hold it: positional while the leading digit stands between the fifth
place behind the point and the sixteenth before it. What is not finite is written as null. -/
def document : Binary64 → List Char
  | .finite negative rank =>
    let d := shortest .toEven rank
    signChars negative ++
      (if -5 ≤ d.leading && d.leading ≤ 15 then d.positional ".0".toList else d.scientific)
  | _ => "null".toList

/-- A number in running text. Whole numbers below 10^15 drop the sign of a zero. -/
def text : Binary64 → List Char
  | .finite negative rank =>
    if fractionUnits rank == 0 && wholePart rank < Nat.pow 10 15 then
      signChars (negative && wholePart rank != 0) ++ decimal (wholePart rank)
    else signChars negative ++ (shortest .upward rank).positional []
  | .infinite negative => signChars negative ++ "inf".toList
  | .nan => "NaN".toList

end DataDictionary.Binary64
