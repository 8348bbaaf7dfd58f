import DataDictionary.Text.Whole

/-!
# Dates of the Gregorian calendar

Dates are counted by days, through all years, before and after the calendar was introduced. Inside
a cycle of 400 years a year is taken to begin on the first of March, so that the leap day comes
last. Years reach from 262144 BCE to 262142 CE.
-/

namespace DataDictionary

structure Date where
  year : Int
  month : Nat
  day : Nat
deriving DecidableEq, Repr

namespace Date

/-- A year with a 29th of February. -/
def isLeap (year : Int) : Bool := year % 4 == 0 && (year % 100 != 0 || year % 400 == 0)

def daysIn (year : Int) (month : Nat) : Nat :=
  if month == 2 then (if isLeap year then 29 else 28)
  else if month == 4 || month == 6 || month == 9 || month == 11 then 30
  else 31

/-- The years that dates are kept in. -/
def inYears (year : Int) : Bool := -262143 ≤ year && year ≤ 262142

def exists? (d : Date) : Bool :=
  inYears d.year && 1 ≤ d.month && d.month ≤ 12 && 1 ≤ d.day && d.day ≤ daysIn d.year d.month

/-- The days of a cycle of 400 years. -/
def cycleDays : Nat := 146097

/-- The year of a cycle, counted from its first March, that a day of the cycle falls into. -/
def yearOfCycle (day : Nat) : Nat := (day - day / 1460 + day / 36524 - day / 146096) / 365

/-- The day `n` days after the first of March of the year 0. -/
def ofDays (n : Int) : Date :=
  let cycle := Int.fdiv n cycleDays
  let day := (Int.fmod n cycleDays).toNat
  let year := yearOfCycle day
  let dayOfYear := day - (365 * year + year / 4 - year / 100)
  let month := (5 * dayOfYear + 2) / 153
  { year := 400 * cycle + year + (if month < 10 then 0 else 1)
    month := if month < 10 then month + 3 else month - 9
    day := dayOfYear - (153 * month + 2) / 5 + 1 }

/-- The 30th of December 1899, as days after the first of March of the year 0. -/
def december1899 : Int := 693899

/-! ### Text -/

/-- A number with at least `width` digits. -/
def padded (width n : Nat) : List Char :=
  let digits := Text.decimal n
  List.replicate (width - digits.length) '0' ++ digits

/-- A year: four digits, or a sign and at least four where these do not do. -/
def yearChars (year : Int) : List Char :=
  if 0 ≤ year && year ≤ 9999 then padded 4 year.toNat
  else (if year < 0 then '-' else '+') :: padded 4 year.natAbs

/-- Year, month and day, with hyphens between them. -/
def chars (d : Date) : List Char :=
  yearChars d.year ++ '-' :: padded 2 d.month ++ '-' :: padded 2 d.day

end Date

/-- A time of day in seconds after midnight, with colons between hours, minutes and seconds. -/
def clockChars (seconds : Nat) : List Char :=
  Date.padded 2 (seconds / 3600) ++ ':' :: Date.padded 2 (seconds / 60 % 60) ++
    ':' :: Date.padded 2 (seconds % 60)

end DataDictionary
