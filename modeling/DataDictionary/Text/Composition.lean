import DataDictionary.Text.CombiningClass
import DataDictionary.Text.CompositeTable

/-!
# Composition

A letter with marks can be written in more than one way. In the composed form, marks whose order
carries no meaning stand by ascending class, and a letter and a mark that have a composite are that
composite: normal form C, for texts without characters that it replaces one by one.
-/

namespace DataDictionary.Text

/-! ### Syllables of Hangul -/

/-- The first syllable; all others follow by vowel and final consonant. -/
def firstSyllable : Nat := 0xAC00

/-- The code points of the leading consonants, the vowels and the final consonants start here; the
last of these starts with one that is no final. -/
def firstLead : Nat := 0x1100

@[inherit_doc firstLead] def firstVowel : Nat := 0x1161

@[inherit_doc firstLead] def firstFinal : Nat := 0x11A7

/-- How many leading consonants, vowels and final consonants there are; having none counts. -/
def leadCount : Nat := 19

@[inherit_doc leadCount] def vowelCount : Nat := 21

@[inherit_doc leadCount] def finalCount : Nat := 28

/-- The syllable of a lead and a vowel, or of such a syllable and a final. -/
def composeSyllable? (a b : Nat) : Option Nat :=
  if firstLead ≤ a && a < firstLead + leadCount && firstVowel ≤ b && b < firstVowel + vowelCount then
    some (firstSyllable + ((a - firstLead) * vowelCount + (b - firstVowel)) * finalCount)
  else if firstSyllable ≤ a && a < firstSyllable + leadCount * vowelCount * finalCount &&
      (a - firstSyllable) % finalCount == 0 && firstFinal < b && b < firstFinal + finalCount then
    some (a + (b - firstFinal))
  else none

/-- The two parts of a syllable. -/
def splitSyllable? (c : Nat) : Option (Nat × Nat) :=
  let n := c - firstSyllable
  if firstSyllable ≤ c && n < leadCount * vowelCount * finalCount then
    if n % finalCount == 0 then
      some (firstLead + n / finalCount / vowelCount, firstVowel + n / finalCount % vowelCount)
    else some (c - n % finalCount, firstFinal + n % finalCount)
  else none

/-! ### Pairs -/

def compose? (a b : Char) : Option Char :=
  match composeSyllable? a.toNat b.toNat with
  | some c => some (Char.ofNat c)
  | none =>
    compositeRows.findSome? fun row =>
      if row.mark == b.toNat then (row.bases.toList.zip row.composites.toList).lookup a else none

def split? (c : Char) : Option (Char × Char) :=
  match splitSyllable? c.toNat with
  | some (a, b) => some (Char.ofNat a, Char.ofNat b)
  | none =>
    compositeRows.findSome? fun row =>
      ((row.composites.toList.zip row.bases.toList).lookup c).map (·, Char.ofNat row.mark)

/-! ### Texts -/

def maxMarks : Nat := 3

/-- A composite taken apart as far as `steps` go, in front of a text. -/
def takeApart (c : Char) (rest : List Char) : Nat → List Char
  | 0 => c :: rest
  | steps + 1 =>
    match split? c with
    | some (a, b) => takeApart a (b :: rest) steps
    | none => c :: rest

/-- Put a character in front of a text, behind the marks of lower class with which it begins. -/
def insertByClass (c : Char) : List Char → List Char
  | [] => [c]
  | d :: rest =>
    if 0 < combiningClass d && combiningClass d < combiningClass c then d :: insertByClass c rest
    else c :: d :: rest

/-- A text with all composites taken apart and its marks by ascending class. -/
def decomposed (s : List Char) : List Char :=
  (s.flatMap (takeApart · [] maxMarks)).foldr insertByClass []

/-- Compose `base` with what follows it. `marks` stand between them, last mark first. -/
def composeFrom (base : Char) (marks : List Char) : List Char → List Char
  | [] => base :: marks.reverse
  | c :: rest =>
    let isFree := marks.head?.all fun mark => combiningClass mark < combiningClass c
    match if isFree then compose? base c else none with
    | some d => composeFrom d marks rest
    | none =>
      if combiningClass c == 0 then base :: marks.reverse ++ composeFrom c [] rest
      else composeFrom base (c :: marks) rest

/-- A text with every letter and mark composed that can be. -/
def composed (s : List Char) : List Char :=
  match (decomposed s).dropWhile (combiningClass · != 0) with
  | base :: rest =>
    (decomposed s).takeWhile (combiningClass · != 0) ++ composeFrom base [] rest
  | [] => decomposed s

end DataDictionary.Text
