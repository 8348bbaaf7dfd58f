/-!
# UTF-8

Bytes are decoded one character at a time. A text is well formed if every step succeeds; a lossy
reading puts U+FFFD for each longest run of bytes that begins a character and does not finish it.
-/

namespace DataDictionary.Text.Utf8

/-- A byte that continues a character, between the given bounds. -/
def inTail (low high : Nat) (b : UInt8) : Bool := low ≤ b.toNat && b.toNat ≤ high

/-- How a character that starts with this byte goes on: the bits of the first byte, the bounds of
the second, and how many bytes follow that one. -/
structure Lead where
  bits : Nat
  low : Nat
  high : Nat
  more : Nat

/-- The lead bytes of characters of two to four bytes. -/
def lead? (b : UInt8) : Option Lead :=
  let n := b.toNat
  if 0xC2 ≤ n && n ≤ 0xDF then some ⟨n - 0xC0, 0x80, 0xBF, 0⟩
  else if n == 0xE0 then some ⟨0, 0xA0, 0xBF, 1⟩
  else if n == 0xED then some ⟨0xD, 0x80, 0x9F, 1⟩
  else if 0xE1 ≤ n && n ≤ 0xEF then some ⟨n - 0xE0, 0x80, 0xBF, 1⟩
  else if n == 0xF0 then some ⟨0, 0x90, 0xBF, 2⟩
  else if 0xF1 ≤ n && n ≤ 0xF3 then some ⟨n - 0xF0, 0x80, 0xBF, 2⟩
  else if n == 0xF4 then some ⟨4, 0x80, 0x8F, 2⟩
  else none

/-- Read `more` further bytes behind the code point collected so far. Gives the code point, or
`none` where the bytes break off, and the bytes left. -/
def tail (code : Nat) : Nat → List UInt8 → Option Nat × List UInt8
  | 0, rest => (some code, rest)
  | _ + 1, [] => (none, [])
  | more + 1, b :: rest =>
    if inTail 0x80 0xBF b then tail (code * 64 + (b.toNat - 0x80)) more rest else (none, b :: rest)

/-- The first character of `b :: rest`, or `none` where it is broken, and the bytes behind it. -/
def step (b : UInt8) (rest : List UInt8) : Option Char × List UInt8 :=
  if b.toNat < 0x80 then (some (Char.ofNat b.toNat), rest)
  else
    match lead? b, rest with
    | some lead, c :: rest' =>
      if inTail lead.low lead.high c then
        let (code, left) := tail (lead.bits * 64 + (c.toNat - 0x80)) lead.more rest'
        (code.map Char.ofNat, left)
      else (none, rest)
    | _, _ => (none, rest)

theorem tail_length (code more : Nat) (rest : List UInt8) :
    (tail code more rest).2.length ≤ rest.length := by
  induction more generalizing code rest with
  | zero => simp [tail]
  | succ more ih =>
    cases rest with
    | nil => simp [tail]
    | cons b rest =>
      simp only [tail]
      split
      · exact Nat.le_succ_of_le (ih _ _)
      · simp

theorem step_length (b : UInt8) (rest : List UInt8) : (step b rest).2.length ≤ rest.length := by
  simp only [step]
  split
  · simp
  · split
    · split
      · exact Nat.le_succ_of_le (tail_length _ _ _)
      · simp
    · simp

/-- The characters of a byte text, `none` for each broken one. -/
def characters : List UInt8 → List (Option Char)
  | [] => []
  | b :: rest => (step b rest).1 :: characters (step b rest).2
termination_by bytes => bytes.length
decreasing_by
  have := step_length b rest
  simp only [List.length_cons]; omega

/-- The text that the bytes stand for, if they are well formed. -/
def decode? (bytes : List UInt8) : Option String :=
  ((characters bytes).mapM id).map String.ofList

/-- The text that the bytes stand for, with U+FFFD for what is broken. -/
def decodeLossy (bytes : List UInt8) : String :=
  String.ofList ((characters bytes).map (·.getD '\uFFFD'))

end DataDictionary.Text.Utf8
