import DataDictionary.Binary64.Reader
import DataDictionary.Calendar.Date
import DataDictionary.Text.Blank

/-!
# Serial dates

Spreadsheets count days from an epoch and write the time of day as a fraction. Under the epoch of
1900 the count holds a day that never was, the 29th of February 1900, with the number 60: serials
below it are one day behind the calendar.
-/

namespace DataDictionary

inductive Epoch where
  | from1900
  | from1904
deriving DecidableEq, Repr

/-- What a serial shows: its day, its time of day, or both. -/
inductive SerialKind where
  | date
  | dateTime
  | time
deriving DecidableEq, Repr

namespace Serial

/-- Days between the 30th of December 1899 and the day of a serial of zero. -/
def offset (epoch : Epoch) (days : Int) : Int :=
  match epoch with
  | .from1904 => 1462
  | .from1900 => if days < 60 then 1 else 0

/-- The whole days of a serial; `none` for a count that is infinite. -/
def wholeDays : Binary64 → Option Int
  | .finite negative rank =>
    let days : Int := Binary64.wholePart rank
    some (if negative then -days else days)
  | .nan => some 0
  | .infinite _ => none

/-- The second of the day of a serial: the fraction of a day, rounded, before the next midnight. -/
def secondOfDay : Binary64 → Nat
  | .finite _ rank =>
    match Binary64.ofRatio false (Binary64.fractionUnits rank * 86400) Binary64.unitsPerOne with
    | .finite _ product => min (Binary64.roundHalfUp (Binary64.units product) Binary64.unitsPerOne) 86399
    | _ => 86399
  | _ => 0

/-- The day of a serial, if the calendar reaches it. -/
def day (epoch : Epoch) (serial : Binary64) : Option Date := do
  let days ← wholeDays serial
  let date := Date.ofDays (Date.december1899 + days + offset epoch days)
  if Date.inYears date.year then some date else none

/-- The text of a serial that is written as a number. -/
def chars (kind : SerialKind) (epoch : Epoch) (value : List Char) : Option (List Char) := do
  let serial ← Binary64.read? (Text.trim value)
  let date ← day epoch serial
  some <|
    match kind with
    | .date => date.chars
    | .time => clockChars (secondOfDay serial)
    | .dateTime => date.chars ++ ' ' :: clockChars (secondOfDay serial)

end Serial

end DataDictionary
