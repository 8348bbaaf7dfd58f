import DataDictionary.Calendar.Date
import DataDictionary.Text.Blank

/-!
# Written dates

The ways in which a date may be written to count as one: strictly, as the internet profile of
ISO 8601 has it, or loosely, as a date with or without a time of day, numbers of one or two digits
and white space before them allowed. The shape of a date is weaker than either: ten characters,
whose numbers need not make a day.
-/

namespace DataDictionary.Written

open Text

def isDigit (c : Char) : Bool := '0' ≤ c && c ≤ '9'

/-- The number behind `value` that the text starts with, of at most `most` digits, and how many
digits it has. -/
def digits (value taken most : Nat) : List Char → Nat × Nat × List Char
  | [] => (value, taken, [])
  | c :: rest =>
    if isDigit c && 0 < most then digits (10 * value + (c.toNat - 48)) (taken + 1) (most - 1) rest
    else (value, taken, c :: rest)

/-- A number of at least `least` and at most `most` digits in front of a text. -/
def number (least most : Nat) (s : List Char) : Option (Nat × List Char) :=
  let (value, taken, rest) := digits 0 0 most s
  if least ≤ taken then some (value, rest) else none

/-- The text behind one of the given characters. -/
def char (allowed : List Char) : List Char → Option (List Char)
  | c :: rest => if allowed.contains c then some rest else none
  | [] => none

/-- Hour, minute and second of a day; a leap second is allowed anywhere. -/
def isClock (hour minute second : Nat) : Bool := hour ≤ 23 && minute ≤ 59 && second ≤ 60

/-! ### The strict form -/

def skipFraction : List Char → Option (List Char)
  | '.' :: rest => if (rest.takeWhile isDigit).isEmpty then none else some (rest.dropWhile isDigit)
  | rest => some rest

def skipZone : List Char → Option (List Char)
  | [] => none
  | c :: rest =>
    if c == 'Z' || c == 'z' then some rest
    else do
      let rest ← char ['+', '-', '\u2212'] (c :: rest)
      let (hours, rest) ← number 2 2 rest
      let rest ← char [':'] rest
      let (minutes, rest) ← number 2 2 rest
      if hours ≤ 23 && minutes ≤ 59 then some rest else none

/-- A date with a time of day and a zone, all numbers with their full width. -/
def isStrict (s : List Char) : Bool :=
  let read := do
    let (year, s) ← number 4 4 s
    let s ← char ['-'] s
    let (month, s) ← number 2 2 s
    let s ← char ['-'] s
    let (day, s) ← number 2 2 s
    let s ← char ['T', 't', ' '] s
    let (hour, s) ← number 2 2 s
    let s ← char [':'] s
    let (minute, s) ← number 2 2 s
    let s ← char [':'] s
    let (second, s) ← number 2 2 s
    let s ← skipFraction s
    let s ← skipZone s
    some (Date.exists? ⟨year, month, day⟩ && isClock hour minute second && s.isEmpty)
  read == some true

/-! ### The loose forms -/

/-- A number of one or two digits, white space before it. -/
def looseNumber (s : List Char) : Option (Nat × List Char) := number 1 2 (trimStart s)

/-- A year: up to four digits, or any number of them behind a sign. -/
def looseYear (s : List Char) : Option (Int × List Char) :=
  match trimStart s with
  | '-' :: rest => (number 1 rest.length rest).map fun (n, rest) => (-n, rest)
  | '+' :: rest => (number 1 rest.length rest).map fun (n, rest) => (n, rest)
  | rest => (number 1 4 rest).map fun (n, rest) => (n, rest)

/-- A date with `separator` between its numbers, in front of a text. -/
def looseDate (separator : Char) (s : List Char) : Option (Date × List Char) := do
  let (year, s) ← looseYear s
  let s ← char [separator] s
  let (month, s) ← looseNumber s
  let s ← char [separator] s
  let (day, s) ← looseNumber s
  some (⟨year, month, day⟩, s)

/-- What may stand between a date and a time of day. -/
inductive Gap where
  | blank
  | letterT
deriving DecidableEq, Repr

def skipGap (gap : Gap) (s : List Char) : Option (List Char) :=
  match gap with
  | .blank => some (trimStart s)
  | .letterT => char ['T'] s

/-- A date and a time of day that fill the text. -/
def isLooseTime (gap : Gap) (withSeconds : Bool) (s : List Char) : Bool :=
  let read := do
    let (date, s) ← looseDate '-' s
    let s ← skipGap gap s
    let (hour, s) ← looseNumber s
    let s ← char [':'] s
    let (minute, s) ← looseNumber s
    let (second, s) ←
      if withSeconds then do
        let s ← char [':'] s
        looseNumber s
      else some (0, s)
    some (date.exists? && isClock hour minute second && s.isEmpty)
  read == some true

/-- A date that fills the text. -/
def isLooseDate (separator : Char) (s : List Char) : Bool :=
  match looseDate separator s with
  | some (date, s) => date.exists? && s.isEmpty
  | none => false

/-- The text, white space at its ends aside, is a date in one of the forms. -/
def isDate (s : List Char) : Bool :=
  let s := trim s
  isStrict s || isLooseTime .blank true s || isLooseTime .letterT true s ||
    isLooseTime .blank false s || isLooseDate '-' s || isLooseDate '/' s

end DataDictionary.Written
