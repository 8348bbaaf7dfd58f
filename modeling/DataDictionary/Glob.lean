/-!
# Glob patterns

Patterns for names: `*` stands for any text, `?` for any character, brackets for one character out
of a set or, with `!`, outside it. `**` must be a whole component of a path and stands for any
number of components. Case counts, and neither slashes nor leading dots are special to the other
wildcards.
-/

namespace DataDictionary.Glob

/-- A member of a character set. -/
inductive Member where
  | one (c : Char)
  | range (first last : Char)
deriving DecidableEq, Repr

def Member.contains : Member → Char → Bool
  | .one d, c => c == d
  | .range first last, c => first ≤ c && c ≤ last

inductive Token where
  | char (c : Char)
  | any
  | within (members : List Member)
  | except (members : List Member)
  | sequence
  | components
deriving DecidableEq, Repr

structure Pattern where
  tokens : List Token
deriving DecidableEq, Repr

/-- What is wrong with a pattern. -/
inductive Flaw where
  | wildcards
  | recursiveWildcards
  | range
deriving DecidableEq, Repr

/-- A flaw and the character of the pattern near which it lies. -/
structure Fault where
  position : Nat
  flaw : Flaw
deriving DecidableEq, Repr

def Flaw.message : Flaw → String
  | .wildcards => "wildcards are either regular `*` or recursive `**`"
  | .recursiveWildcards => "recursive wildcards must form a single path component"
  | .range => "invalid range pattern"

def Fault.message (fault : Fault) : String :=
  "Pattern syntax error near position " ++ toString fault.position ++ ": " ++ fault.flaw.message

/-! ### Reading -/

/-- The members of a set: ranges where a hyphen stands between two characters. -/
def members : List Char → List Member
  | a :: '-' :: b :: rest => .range a b :: members rest
  | a :: rest => .one a :: members rest
  | [] => []

/-- The characters of a set up to its closing bracket, of which the first is always a member, and
what follows the bracket. -/
def setBody : List Char → Option (List Char × List Char)
  | first :: rest =>
    let body := rest.takeWhile (· != ']')
    match rest.dropWhile (· != ']') with
    | _ :: after => some (first :: body, after)
    | [] => none
  | [] => none

/-- Read a set behind its opening bracket. -/
def readSet : List Char → Option (Token × List Char)
  | '!' :: rest => (setBody rest).map fun (body, after) => (.except (members body), after)
  | rest => (setBody rest).map fun (body, after) => (.within (members body), after)

/-- What a run of stars is read as, where `position` is its place, `before` the character before it
and `after` the text behind it. -/
def readStars (position count : Nat) (before : Option Char) (after : List Char) :
    Except Fault (Token × List Char) :=
  if count = 1 then .ok (.sequence, after)
  else if 2 < count then .error ⟨position + 2, .wildcards⟩
  else if before != none && before != some '/' then .error ⟨position - 1, .recursiveWildcards⟩
  else
    match after with
    | [] => .ok (.components, [])
    | '/' :: rest => .ok (.components, rest)
    | _ => .error ⟨position + 2, .recursiveWildcards⟩

/-- Put a token behind others. A second run of components adds nothing to the one before it, unless
that one begins the pattern. -/
def addToken (tokens : List Token) (token : Token) : List Token :=
  if token == .components && 1 < tokens.length && tokens.getLast? == some .components then tokens
  else tokens ++ [token]

/-- Read the rest of a pattern, where `before` is the character before it. -/
def readFrom (text : List Char) : Nat → Option Char → List Token → List Char →
    Except Fault (List Token)
  | 0, _, tokens, _ => .ok tokens
  | _, _, tokens, [] => .ok tokens
  | fuel + 1, before, tokens, c :: rest =>
    let position := text.length - (c :: rest).length
    if c == '*' then
      let count := (c :: rest).takeWhile (· == '*') |>.length
      match readStars position count before ((c :: rest).dropWhile (· == '*')) with
      | .error fault => .error fault
      | .ok (token, after) =>
        let last := text[text.length - after.length - 1]?
        readFrom text fuel last (addToken tokens token) after
    else if c == '[' then
      match readSet rest with
      | none => .error ⟨position, .range⟩
      | some (token, after) => readFrom text fuel (some ']') (addToken tokens token) after
    else
      readFrom text fuel (some c) (addToken tokens (if c == '?' then .any else .char c)) rest

def read (text : List Char) : Except Fault Pattern :=
  (readFrom text text.length none [] text).map Pattern.mk

/-! ### Matching -/

/-- The outcome of matching a text. A text that ends where the pattern still needs a character is
told apart: no longer run before it can help. -/
inductive Outcome where
  | matched
  | mismatch
  | exhausted
deriving DecidableEq, Repr

/-- A token for one character admits it. -/
def Token.admits : Token → Char → Bool
  | .char d, c => c == d
  | .any, _ => true
  | .within members, c => members.any (·.contains c)
  | .except members, c => !members.any (·.contains c)
  | _, _ => false

/-- Match what follows a wildcard, by `next`, at every place where the wildcard may end: after any
character, or after slashes only. Behind the last character the wildcard may always end. -/
def matchRun (afterSlash : Bool) (next : List Char → Outcome) : List Char → Outcome
  | [] => next []
  | c :: rest =>
    if afterSlash && c != '/' then matchRun afterSlash next rest
    else
      match next rest with
      | .mismatch => matchRun afterSlash next rest
      | outcome => outcome

def matchTokens : List Token → List Char → Outcome
  | [], [] => .matched
  | [], _ :: _ => .mismatch
  | .sequence :: tokens, text =>
    match matchTokens tokens text with
    | .mismatch => matchRun false (matchTokens tokens) text
    | outcome => outcome
  | .components :: tokens, text =>
    match matchTokens tokens text with
    | .mismatch => matchRun true (matchTokens tokens) text
    | outcome => outcome
  | _ :: _, [] => .exhausted
  | token :: tokens, c :: rest => if token.admits c then matchTokens tokens rest else .mismatch

def Pattern.accepts (pattern : Pattern) (name : String) : Bool :=
  matchTokens pattern.tokens name.toList == .matched

end DataDictionary.Glob
