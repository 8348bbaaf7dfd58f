/-!
# Numbers of the binary64 format

A finite number is a sign and a *rank*: its place among the magnitudes of the format, counted up
from zero. Ranks are ordered as the magnitudes are, and every magnitude is a whole number of
*units* of 2^-1074, so all arithmetic here is exact arithmetic on naturals followed by one
rounding, to the nearest magnitude and to the even rank on a tie.
-/

namespace DataDictionary

/-- How many magnitudes stand between a power of two and the next. -/
def Binary64.binade : Nat := Nat.pow 2 52

/-- How many finite magnitudes there are. -/
def Binary64.magnitudes : Nat := 2047 * binade

inductive Binary64 where
  | finite (negative : Bool) (rank : Fin Binary64.magnitudes)
  | infinite (negative : Bool)
  | nan
deriving DecidableEq, Repr

namespace Binary64

/-! ### Magnitudes -/

def unitsPerOne : Nat := Nat.pow 2 1074

/-- The magnitude of a rank, in units. Up to 2^53 each rank is one unit more; behind that, every
2^52 ranks double the distance. -/
def units (rank : Nat) : Nat :=
  if rank < binade then rank else (binade + rank % binade) * Nat.pow 2 (rank / binade - 1)

/-- A quotient rounded to the nearest whole number, a tie to the even one. -/
def roundToEven (num den : Nat) : Nat :=
  let whole := num / den
  match compare (2 * (num % den)) den with
  | .lt => whole
  | .gt => whole + 1
  | .eq => if whole % 2 == 0 then whole else whole + 1

/-- A quotient rounded to the nearest whole number, a tie to the greater one. -/
def roundHalfUp (num den : Nat) : Nat := (2 * num + den) / (2 * den)

/-- The rank nearest to `num / den` units, as if there were no greatest magnitude. -/
def nearestRank (num den : Nat) : Nat :=
  let doublings := (num / den).log2 - 52
  doublings * binade + roundToEven num (den * Nat.pow 2 doublings)

/-- The number of a sign and a rank; past the greatest magnitude, an infinity. -/
def ofRank (negative : Bool) (rank : Nat) : Binary64 :=
  if h : rank < magnitudes then .finite negative ⟨rank, h⟩ else .infinite negative

/-- The number nearest to `num / den`. -/
def ofRatio (negative : Bool) (num den : Nat) : Binary64 :=
  ofRank negative (nearestRank (num * unitsPerOne) den)

def zero : Binary64 := ofRank false 0

/-- The number nearest to an integer. -/
def ofInt (n : Int) : Binary64 := ofRatio (n < 0) n.natAbs 1

/-- The number nearest to `digits * 10 ^ exponent`. Exponents that lead beyond the format are
answered without working the power out. -/
def ofDecimal (negative : Bool) (digits : Nat) (exponent : Int) : Binary64 :=
  let scale := (Nat.toDigits 10 digits).length + exponent
  if digits = 0 then ofRank negative 0
  else if 400 < scale then .infinite negative
  else if scale < -400 then ofRank negative 0
  else ofRatio negative (digits * Nat.pow 10 exponent.toNat) (Nat.pow 10 (-exponent).toNat)

/-! ### Signs and classes -/

def isFinite : Binary64 → Bool
  | .finite _ _ => true
  | _ => false

/-- The same magnitude with the other sign. -/
def neg : Binary64 → Binary64
  | .finite negative rank => .finite (!negative) rank
  | .infinite negative => .infinite (!negative)
  | .nan => .nan

def isZero : Binary64 → Bool
  | .finite _ rank => rank.val == 0
  | _ => false

/-- The number with the sign of a zero dropped: numbers are equal as numbers iff these are the
same. -/
def plain (x : Binary64) : Binary64 := if x.isZero then zero else x

/-! ### Order -/

/-- A key that orders the numbers; the infinities stand outside all finite ones. -/
def orderKey? : Binary64 → Option Int
  | .finite negative rank => some (if negative then -(rank.val : Int) else rank.val)
  | .infinite negative => some (if negative then -(magnitudes : Int) else magnitudes)
  | .nan => none

/-- At most; what is undefined compares with nothing. -/
def le (x y : Binary64) : Bool :=
  match x.orderKey?, y.orderKey? with
  | some a, some b => a ≤ b
  | _, _ => false

/-! ### Arithmetic on finite numbers -/

/-- The rounded product of two finite numbers. -/
def mulFinite (s : Bool) (a : Nat) (t : Bool) (b : Nat) : Binary64 :=
  ofRatio (s != t) (units a * units b) (unitsPerOne * unitsPerOne)

def mul : Binary64 → Binary64 → Binary64
  | .finite s a, .finite t b => mulFinite s a t b
  | .infinite s, .infinite t => .infinite (s != t)
  | .infinite s, .finite t b => if b.val == 0 then .nan else .infinite (s != t)
  | .finite s a, .infinite t => if a.val == 0 then .nan else .infinite (s != t)
  | _, _ => .nan

/-- The quotient by a finite number other than zero, rounded. -/
def div : Binary64 → Binary64 → Binary64
  | .finite s a, .finite t b =>
    if b.val == 0 then (if a.val == 0 then .nan else .infinite (s != t))
    else ofRatio (s != t) (units a) (units b)
  | .infinite s, .finite t _ => .infinite (s != t)
  | .finite s _, .infinite t => ofRank (s != t) 0
  | _, _ => .nan

def wholePart (rank : Nat) : Nat := units rank / unitsPerOne

/-- The units of a magnitude above its whole part. -/
def fractionUnits (rank : Nat) : Nat := units rank % unitsPerOne

end Binary64

end DataDictionary
