import DataDictionary.Cell

/-!
# Number formats

A number is a date or a time if its format shows one. Built-in formats are known by their id; a
format code is looked through for date and time letters outside quoted literals, bracketed sections
and escapes.
-/

namespace DataDictionary.NumberFormat

/-- The kind of a built-in format; `none` for ids of other formats. -/
def builtin? (epoch : Epoch) (id : String) : Option CellKind :=
  if id == "22" then some (.serial .dateTime epoch)
  else if ["14", "15", "16", "17"].contains id then some (.serial .date epoch)
  else if ["18", "19", "20", "21", "45", "46", "47"].contains id then some (.serial .time epoch)
  else none

/-- Where the reading of a format code stands, and what it has met. -/
structure Scan where
  escaped : Bool := false
  literal : Bool := false
  bracket : Bool := false
  date : Bool := false
  time : Bool := false
deriving DecidableEq, Repr

def Scan.step (scan : Scan) (c : Char) : Scan :=
  if scan.escaped then { scan with escaped := false }
  else if c == '_' || c == '\\' then { scan with escaped := true }
  else if c == '"' && !scan.bracket then { scan with literal := !scan.literal }
  else if c == '[' && !scan.literal then { scan with bracket := true }
  else if c == ']' && scan.bracket then { scan with bracket := false }
  else if scan.literal || scan.bracket then scan
  else if c == 'Y' || c == 'y' || c == 'D' || c == 'd' then { scan with date := true }
  else if c == 'H' || c == 'h' || c == 'S' || c == 's' then { scan with time := true }
  else scan

/-- The kind of a format that shows a date, a time, both or neither. -/
def kindOf (epoch : Epoch) (date time : Bool) : CellKind :=
  match date, time with
  | true, true => .serial .dateTime epoch
  | true, false => .serial .date epoch
  | false, true => .serial .time epoch
  | false, false => .number

def custom (epoch : Epoch) (code : String) : CellKind :=
  let scan := code.toList.foldl Scan.step {}
  kindOf epoch scan.date scan.time

end DataDictionary.NumberFormat
