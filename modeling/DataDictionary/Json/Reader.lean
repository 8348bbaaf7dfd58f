import DataDictionary.Json.Number

/-!
# Reading JSON

A document is one value with white space around its parts. Reading is strict: no comments, no
trailing commas, no bare control characters in texts. A text with half of a surrogate pair is read,
but stands for nothing.
-/

namespace DataDictionary.Json

/-- White space between the parts of a document. -/
def isSpace (c : Char) : Bool := c == ' ' || c == '\n' || c == '\t' || c == '\r'

def skipSpace (s : List Char) : List Char := s.dropWhile isSpace

def hexValue (c : Char) : Option Nat :=
  if '0' ≤ c && c ≤ '9' then some (c.toNat - 48)
  else if 'a' ≤ c && c ≤ 'f' then some (c.toNat - 87)
  else if 'A' ≤ c && c ≤ 'F' then some (c.toNat - 55)
  else none

/-- A unit of 16 bits, from its four hexadecimal digits. -/
def hexUnit (a b c d : Char) : Option Nat := do
  some ((((← hexValue a) * 16 + (← hexValue b)) * 16 + (← hexValue c)) * 16 + (← hexValue d))

/-- The character that a letter behind a backslash stands for. -/
def unescape? : Char → Option Char
  | '"' => some '"'
  | '\\' => some '\\'
  | '/' => some '/'
  | 'b' => some '\x08'
  | 'f' => some '\x0c'
  | 'n' => some '\n'
  | 'r' => some '\r'
  | 't' => some '\t'
  | _ => none

/-- A unit that begins a surrogate pair. -/
def isHighSurrogate (n : Nat) : Bool := 0xD800 ≤ n && n < 0xDC00

/-- A unit that ends a surrogate pair. -/
def isLowSurrogate (n : Nat) : Bool := 0xDC00 ≤ n && n < 0xE000

/-- The character of a unit; `none` for half of a surrogate pair. -/
def charOf? (n : Nat) : Option Char := if n.isValidChar then some (Char.ofNat n) else none

/-- The unit at the front of a text that ends a surrogate pair. -/
def lowUnit? : List Char → Option Nat
  | '\\' :: 'u' :: a :: b :: c :: d :: _ => (hexUnit a b c d).filter isLowSurrogate
  | _ => none

/-- What was read of a text, `none` where half of a surrogate pair stands alone, and what follows
the closing quote. -/
abbrev TextRead := Option (List Char) × List Char

/-- Put a character, or half of one, in front of a text that was read. -/
def consChar (c : Option Char) (read : TextRead) : TextRead :=
  (read.1.bind fun s => c.map (· :: s), read.2)

/-- The character of a surrogate pair. -/
def pairChar (high low : Nat) : Char :=
  Char.ofNat (0x10000 + (high - 0xD800) * 0x400 + (low - 0xDC00))

/-- Read a text behind its opening quote. -/
def readText : List Char → Option TextRead
  | [] => none
  | '"' :: rest => some (some [], rest)
  | '\\' :: 'u' :: a :: b :: c :: d :: rest =>
    match hexUnit a b c d, lowUnit? rest with
    | none, _ => none
    | some high, some low =>
      if isHighSurrogate high then
        (readText (rest.drop 6)).map (consChar (some (pairChar high low)))
      else (readText rest).map (consChar (charOf? high))
    | some n, none => (readText rest).map (consChar (charOf? n))
  | '\\' :: c :: rest =>
    match unescape? c with
    | some d => (readText rest).map (consChar (some d))
    | none => none
  | c :: rest => if c.toNat < 0x20 || c == '\\' then none else (readText rest).map (consChar (some c))
termination_by s => s.length
decreasing_by all_goals simp only [List.length_cons, List.length_drop]; omega

/-- The value of a text that was read. -/
def ofText (s : Option (List Char)) : Json :=
  match s with
  | some s => .string (String.ofList s)
  | none => .unpaired

/-- The value of members that were read. -/
def ofMembers (members : List (Option String × Json)) : Json :=
  match members.mapM fun (key, value) => key.map (·, value) with
  | some members => .object members
  | none => .unpaired

mutual

/-- Read a value from the front of a text; `depth` bounds the nesting and the length of lists. -/
def readValue : Nat → List Char → Option (Json × List Char)
  | 0, _ => none
  | depth + 1, s =>
    match skipSpace s with
    | 'n' :: 'u' :: 'l' :: 'l' :: rest => some (.null, rest)
    | 't' :: 'r' :: 'u' :: 'e' :: rest => some (.bool true, rest)
    | 'f' :: 'a' :: 'l' :: 's' :: 'e' :: rest => some (.bool false, rest)
    | '"' :: rest => (readText rest).map fun (t, rest) => (ofText t, rest)
    | '[' :: rest =>
      match skipSpace rest with
      | ']' :: rest => some (.array [], rest)
      | rest => (readItems depth rest).map fun (items, rest) => (.array items, rest)
    | '{' :: rest =>
      match skipSpace rest with
      | '}' :: rest => some (.object [], rest)
      | rest => (readMembers depth rest).map fun (members, rest) => (ofMembers members, rest)
    | rest => (readNumber rest).map fun (n, rest) => (.number n, rest)

/-- Read the items of a list up to its closing bracket. -/
def readItems : Nat → List Char → Option (List Json × List Char)
  | 0, _ => none
  | depth + 1, s =>
    match readValue depth s with
    | none => none
    | some (item, rest) =>
      match skipSpace rest with
      | ',' :: rest => (readItems depth rest).map fun (items, rest) => (item :: items, rest)
      | ']' :: rest => some ([item], rest)
      | _ => none

/-- Read the members of an object up to its closing brace. -/
def readMembers : Nat → List Char → Option (List (Option String × Json) × List Char)
  | 0, _ => none
  | depth + 1, s =>
    match skipSpace s with
    | '"' :: rest =>
      match readText rest with
      | none => none
      | some (key, rest) =>
        match skipSpace rest with
        | ':' :: rest =>
          match readValue depth rest with
          | none => none
          | some (value, rest) =>
            let member := (key.map String.ofList, value)
            match skipSpace rest with
            | ',' :: rest =>
              (readMembers depth rest).map fun (members, rest) => (member :: members, rest)
            | '}' :: rest => some ([member], rest)
            | _ => none
        | _ => none
    | _ => none

end

/-- Read a document. A text of `n` characters holds fewer than `n + 1` values. -/
def read? (s : List Char) : Option Json :=
  match readValue (2 * s.length + 2) s with
  | some (value, rest) => if (skipSpace rest).isEmpty then some value else none
  | none => none

end DataDictionary.Json
