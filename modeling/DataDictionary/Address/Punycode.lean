import DataDictionary.Text.Split

/-!
# Labels in ASCII

A label with other characters can be written in ASCII: its ASCII characters first, then, behind a
hyphen, numbers that say which character comes in next and where. A number is written by digits of
growing weight up to one below a threshold; the thresholds follow the sizes of the numbers before.
-/

namespace DataDictionary.Address.Punycode

/-- How many digits there are: the small letters, then the ten digits. -/
def base : Nat := 36

def digit? (c : Char) : Option Nat :=
  if 'a' ≤ c && c ≤ 'z' then some (c.toNat - 'a'.toNat)
  else if 'A' ≤ c && c ≤ 'Z' then some (c.toNat - 'A'.toNat)
  else if '0' ≤ c && c ≤ '9' then some (c.toNat - '0'.toNat + 26)
  else none

/-- The threshold of a digit: below it, the digit is the last of its number. -/
def threshold (position bias : Nat) : Nat := max 1 (min 26 (position - bias))

/-- Divide until the number is small, and count by how many digits it became shorter. -/
def shorten (n digits : Nat) : Nat × Nat :=
  if 455 < n then shorten (n / (base - 1)) (digits + base) else (n, digits)
termination_by n
decreasing_by exact Nat.div_lt_self (by omega) (by decide)

/-- The bias behind a number that was read as the `count`-th. -/
def adapt (number count : Nat) (isFirst : Bool) : Nat :=
  let n := if isFirst then number / 700 else number / 2
  let (n, digits) := shorten (n + n / count) 0
  digits + base * n / (n + 38)

/-- Where the reading of the numbers stands. -/
structure Decoder where
  text : List Char
  /-- The character that came in last. -/
  code : Nat := 128
  /-- Where the last number began to count. -/
  start : Nat := 0
  /-- Where it stands now. -/
  index : Nat := 0
  bias : Nat := 72
  /-- The weight of the next digit. -/
  weight : Nat := 1
  /-- The position of the next digit, in steps of the base. -/
  position : Nat := base

/-- Numbers are words of 32 bits. -/
def limit : Nat := Nat.pow 2 32

/-- A character comes in: the number is complete. -/
def Decoder.insert (decoder : Decoder) (index : Nat) : Option Decoder :=
  let count := decoder.text.length + 1
  let code := decoder.code + index / count
  let place := index % count
  if code.isValidChar then
    some {
      text := decoder.text.take place ++ Char.ofNat code :: decoder.text.drop place
      code
      start := place + 1
      index := place + 1
      bias := adapt (index - decoder.start) count (decoder.start == 0) }
  else none

def Decoder.step (decoder : Decoder) (c : Char) : Option Decoder := do
  let digit ← digit? c
  let index := decoder.index + digit * decoder.weight
  let threshold := threshold decoder.position decoder.bias
  let weight := decoder.weight * (base - threshold)
  if limit ≤ index then none
  else if digit < threshold then decoder.insert index
  else if limit ≤ weight then none
  else some { decoder with index, weight, position := decoder.position + base }

/-- The label that was written in ASCII. -/
def decode? (s : List Char) : Option (List Char) :=
  let numbers := (s.reverse.takeWhile (· != '-')).reverse
  let text := s.take (s.length - numbers.length - 1)
  if numbers.length + 1 == s.length then none
  else
    match numbers.foldlM Decoder.step { text } with
    | some decoder => if decoder.position == base then some decoder.text else none
    | none => none

end DataDictionary.Address.Punycode
