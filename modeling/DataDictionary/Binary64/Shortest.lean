import DataDictionary.Binary64.Basic

/-!
# Shortest decimals

The decimal with the fewest digits that reads back as a given number, and of those the nearest to
it. The digits are looked for on coarser grids first; on each grid only the two neighbours of the
number come into question. Seventeen digits always suffice; should they ever not, all digits of the
number are written.
-/

namespace DataDictionary.Binary64

structure Decimal where
  digits : Nat
  exponent : Int
deriving DecidableEq, Repr

/-- Which of two decimals at the same distance is taken. -/
inductive Tie where
  | toEven
  | upward
deriving DecidableEq, Repr

/-- The decimal reads back as the magnitude of this rank. -/
def Decimal.readsBack (d : Decimal) (rank : Nat) : Bool :=
  match ofDecimal false d.digits d.exponent with
  | .finite _ r => r.val == rank
  | _ => false

/-- The number of units of `10 ^ exponent`, as a ratio. -/
def unitsOfPower (exponent : Int) : Nat × Nat :=
  (Nat.pow 10 exponent.toNat * unitsPerOne, Nat.pow 10 (-exponent).toNat)

/-- The decimal on the grid of `10 ^ exponent` that reads back as a magnitude, if there is one; of
two the nearer. -/
def onGrid (tie : Tie) (rank : Nat) (exponent : Int) : Option Decimal :=
  let (num, den) := unitsOfPower exponent
  let scaled := units rank * den
  let low := scaled / num
  let below : Decimal := ⟨low, exponent⟩
  let above : Decimal := ⟨low + 1, exponent⟩
  match below.readsBack rank, above.readsBack rank with
  | false, false => none
  | true, false => some below
  | false, true => some above
  | true, true =>
    match compare (2 * (scaled % num)) num with
    | .lt => some below
    | .gt => some above
    | .eq =>
      match tie with
      | .upward => some above
      | .toEven => some (if low % 2 == 0 then below else above)

/-- The exponent of the leading decimal digit of a magnitude other than zero, looked for downward
from `start`. -/
def leadingFrom (rank : Nat) (start : Int) : Nat → Int
  | 0 => start
  | steps + 1 =>
    let (num, den) := unitsOfPower start
    if num ≤ units rank * den then start else leadingFrom rank (start - 1) steps

/-- The exponent of the leading decimal digit of a magnitude other than zero. -/
def leadingExponent (rank : Nat) : Int :=
  let binary : Int := ((units rank).log2 : Int) - 1074
  leadingFrom rank (binary * 30103 / 100000 + 2) 6

/-- A decimal without the zeros that its digits end with. -/
def Decimal.stripZeros (d : Decimal) : Nat → Decimal
  | 0 => d
  | steps + 1 =>
    if d.digits != 0 && d.digits % 10 == 0 then
      Decimal.stripZeros ⟨d.digits / 10, d.exponent + 1⟩ steps
    else d

/-- All digits of a magnitude: a unit is `5 ^ 1074 * 10 ^ -1074`. -/
def exactDecimal (rank : Nat) : Decimal := ⟨units rank * Nat.pow 5 1074, -1074⟩

def shortest (tie : Tie) (rank : Nat) : Decimal :=
  if rank = 0 then ⟨0, 0⟩
  else
    let leading := leadingExponent rank
    match (List.range 17).findSome? fun (n : Nat) => onGrid tie rank (leading - n) with
    | some d => d.stripZeros 20
    | none => exactDecimal rank

end DataDictionary.Binary64
