import DataDictionary.Address.NameTable
import DataDictionary.Address.Punycode
import DataDictionary.Text.Composition
import DataDictionary.Text.Direction
import DataDictionary.Text.Joining
import DataDictionary.Text.LetterCase
import DataDictionary.Text.Split

/-!
# Domain names

A domain name is made of labels with points between them. It may be written with characters of all
scripts: letters are made small, variants of characters are replaced, and what is left must be well
formed label by label. Where some label runs to the left, all must keep a direction.
-/

namespace DataDictionary.Address

open Text

/-! ### Characters -/

/-- The last of the entries that begins at or before `n`, and how far behind its beginning `n` is;
the entries stand by ascending beginnings. -/
def entryAt? {α : Type} (n : Nat) (entries : List (Nat × α)) : Option (α × Nat) :=
  ((entries.takeWhile (·.1 ≤ n)).getLast?).map fun (first, images) => (images, n - first)

/-- The character that replaces another, if it is a single one. -/
def replacement? (c : Char) : Option Char :=
  match shifted? replacedRuns c with
  | some d => some d
  | none => (entryAt? c.toNat replacedCharacters).bind fun (images, i) => images.toList[i]?

/-- The text that replaces a character. -/
def replacementText? (c : Char) : Option String :=
  (entryAt? c.toNat replacedTexts).bind fun (images, i) => images[i]?

/-- What a character of a name is written with; `none` if it may not be in a name. -/
def nameChars? (c : Char) : Option (List Char) :=
  if inRanges ignoredRanges c.toNat then some []
  else
    match replacement? c, replacementText? c with
    | some d, _ => some [d]
    | none, some s => some s.toList
    | none, none => if inRanges permittedRanges c.toNat then some [lowerChar c] else none

/-- A name as it is looked up, its labels not decoded. -/
def prepareName? (s : List Char) : Option (List Char) :=
  (s.mapM nameChars?).map fun parts => composed parts.flatten

/-! ### Labels -/

/-- What a label in ASCII begins with if it stands for one of other characters. -/
def asciiMark : List Char := "xn--".toList

/-- How long a label may be that is decoded. -/
def maxDecoded : Nat := 2000

/-- How long a label of other characters may be. -/
def maxLabel : Nat := 1000

def isAscii (c : Char) : Bool := c.toNat < 0x80

/-- The text would be prepared to itself. -/
def isPrepared (s : List Char) : Bool := s.all (fun c => nameChars? c == some [c]) && composed s == s

/-- The label that a prepared label stands for. -/
def decodeLabel? (label : List Char) : Option (List Char) :=
  match dropStart? asciiMark label with
  | none => some label
  | some code =>
    if code.all isAscii && code.length ≤ maxDecoded && code.getLast?.any (· != '-') then
      match Punycode.decode? code with
      | some decoded => if isPrepared decoded then some decoded else none
      | none => none
    else none

/-- The first character that does not come between letters satisfies `p`. -/
def meetsLetter (p : Char → Bool) (s : List Char) : Bool :=
  ((s.dropWhile isTransparent).head?.map p).getD false

/-- Joiners stand behind a sign that takes a vowel, and a non-joiner also between letters that would
be joined. `before` is what precedes the text, nearest character first. -/
def joinersFit (before : List Char) : List Char → Bool
  | [] => true
  | c :: rest =>
    let fits :=
      if c == '\u200c' || c == '\u200d' then
        before.head?.any (combiningClass · == viramaClass) ||
          c == '\u200c' && meetsLetter joinsNext before && meetsLetter joinsPrevious rest
      else true
    fits && joinersFit (c :: before) rest

/-- Characters that no label holds. -/
def deniedInNames : List Char := "%#/:<>?@[\\]^|".toList

/-- A character of ASCII that a label may hold; white space and control characters may not be. -/
def isLabelChar (c : Char) : Bool :=
  0x20 < c.toNat && c.toNat != 0x7F && !deniedInNames.contains c

/-- A decoded label is well formed. -/
def isLabel (label : List Char) : Bool :=
  label.all isLabelChar && !label.head?.any isMark && joinersFit [] label &&
    (label.all isAscii || label.length ≤ maxLabel)

/-! ### Directions -/

/-- The label holds a letter that runs to the left, or a digit that stands with such letters. -/
def turnsLeft (label : List Char) : Bool :=
  label.any fun c => direction c == .leftward || direction c == .arabicDigit

/-- The directions of a label fit each other: it starts with a letter, ends with a letter or digit
of that direction, marks aside, and holds nothing of the other one. -/
def keepsDirection (label : List Char) : Bool :=
  match label.map direction with
  | [] => true
  | first :: rest =>
    let ends (allowed : List Direction) :=
      (rest.reverse.dropWhile (· == .attached)).head?.all allowed.contains
    let holds (allowed : List Direction) := rest.all allowed.contains
    match first with
    | .rightward =>
      ends [.rightward, .europeanDigit] &&
        holds [.rightward, .europeanDigit, .neutral, .attached]
    | .leftward =>
      ends [.leftward, .arabicDigit, .europeanDigit] &&
        holds [.leftward, .arabicDigit, .europeanDigit, .neutral, .attached] &&
        !(rest.contains .arabicDigit && rest.contains .europeanDigit)
    | _ => false

/-! ### Names -/

/-- The labels of a name, prepared and decoded; `none` if it is not well formed. -/
def nameLabels? (s : List Char) : Option (List (List Char)) := do
  let labels ← (splitAt '.' (← prepareName? s)).mapM decodeLabel?
  if labels.all isLabel && (!labels.any turnsLeft || labels.all keepsDirection) then some labels
  else none

end DataDictionary.Address
