import DataDictionary.Markup.Attributes

/-!
# From bytes to events

Text runs up to the next `<` or `&`. Markup runs up to the `>` that closes it, which is sought in
its own way for each kind: outside quotes in a tag, behind a question mark in an instruction,
behind two hyphens or brackets in a comment or a section of character data, and outside inner
brackets in a document type. End tags are only asked to close some element.
-/

namespace DataDictionary.Markup

/-- What stands before the first `>` at which `stops` holds, and what follows it; `step` takes the
state from byte to byte. -/
def upToClose {σ : Type} (step : σ → UInt8 → σ) (stops : σ → Bool) :
    σ → List UInt8 → Option (List UInt8 × List UInt8)
  | _, [] => none
  | state, b :: rest =>
    if b == 62 && stops state then some ([], rest)
    else (upToClose step stops (step state b) rest).map fun (before, after) => (b :: before, after)

theorem upToClose_length {σ : Type} {step : σ → UInt8 → σ} {stops : σ → Bool} {state : σ}
    {s before after : List UInt8} (h : upToClose step stops state s = some (before, after)) :
    after.length < s.length := by
  induction s generalizing state before with
  | nil => simp [upToClose] at h
  | cons b s ih =>
    simp only [upToClose] at h
    split at h
    · obtain ⟨_, rfl⟩ : [] = before ∧ s = after := by simpa using h
      simp
    · obtain ⟨⟨before', after'⟩, hc, hab⟩ := Option.map_eq_some_iff.1 h
      obtain ⟨_, rfl⟩ : b :: before' = before ∧ after' = after := by simpa using hab
      have := ih hc
      simp only [List.length_cons]; omega

/-- The quote that is open behind a byte of a tag. -/
def quoteStep (quote : Option UInt8) (b : UInt8) : Option UInt8 :=
  match quote with
  | some q => if b == q then none else some q
  | none => if b == 34 || b == 39 then some b else none

def tagBody (s : List UInt8) : Option (List UInt8 × List UInt8) :=
  upToClose quoteStep Option.isNone none s

/-- How many bytes were passed, and the last two of them. -/
structure Passed where
  count : Nat := 0
  last : UInt8 := 0
  previous : UInt8 := 0

def Passed.step (passed : Passed) (b : UInt8) : Passed := ⟨passed.count + 1, b, passed.last⟩

/-- The content of an instruction, which begins and ends with a question mark. -/
def instructionBody (s : List UInt8) : Option (List UInt8 × List UInt8) :=
  upToClose Passed.step (fun passed => passed.last == 63) {} s

/-- The content of a comment, from the exclamation mark to the two hyphens. -/
def commentBody (s : List UInt8) : Option (List UInt8 × List UInt8) :=
  upToClose Passed.step
    (fun passed => 5 ≤ passed.count && passed.last == 45 && passed.previous == 45) {} s

/-- The content of a section of character data, from the exclamation mark to the two brackets. -/
def cdataBody (s : List UInt8) : Option (List UInt8 × List UInt8) :=
  upToClose Passed.step (fun passed => passed.last == 93 && passed.previous == 93) {} s

/-- The content of a document type, in which inner brackets are balanced. -/
def doctypeBody (s : List UInt8) : Option (List UInt8 × List UInt8) :=
  upToClose (fun depth b => if b == 60 then depth + 1 else if b == 62 then depth - 1 else depth)
    (· == 0) 0 s

/-- A byte with ASCII capitals made small. -/
def lowerByte (b : UInt8) : UInt8 := if 65 ≤ b && b ≤ 90 then b + 32 else b

/-- The content without the white space it ends with, unless there is nothing else. -/
def trimName (content : List UInt8) : List UInt8 :=
  if content.all isSpace then content else (content.reverse.dropWhile isSpace).reverse

/-- A piece of markup that was read: its events, how many elements are open behind it, and what
follows it. -/
structure Piece where
  events : List Event
  openElements : Nat
  rest : List UInt8

/-- Read markup behind `<!`; `s` starts with the exclamation mark. -/
def readDeclaration (openElements : Nat) (s : List UInt8) : Except Error Piece :=
  match s with
  | _ :: kind :: _ =>
    if kind == 91 then
      match cdataBody s with
      | some (content, rest) =>
        if (bytesOf "![CDATA[").isPrefixOf content then
          let inner := (content.drop 8).take (content.length - 10)
          .ok ⟨[.cdata inner], openElements, rest⟩
        else .error .unterminated
      | none => .error .unterminated
    else if kind == 45 then
      match commentBody s with
      | some (content, rest) =>
        if (bytesOf "!--").isPrefixOf content then .ok ⟨[.comment], openElements, rest⟩
        else .error .unterminated
      | none => .error .unterminated
    else if kind == 68 || kind == 100 then
      match doctypeBody s with
      | some (content, rest) =>
        if (content.take 8).map lowerByte == bytesOf "!doctype" then
          if (content.drop 8).all isSpace then .error .illFormed
          else .ok ⟨[.doctype], openElements, rest⟩
        else .error .unterminated
      | none => .error .unterminated
    else .error .unterminated
  | _ => .error .unterminated

def readInstruction (openElements : Nat) (s : List UInt8) : Except Error Piece :=
  match instructionBody s with
  | some (content, rest) =>
    if content.length < 2 then .error .unterminated
    else
      let inner := (content.drop 1).take (content.length - 2)
      let isDeclaration :=
        (bytesOf "xml").isPrefixOf inner && ((inner.drop 3).head?.map isSpace).getD true
      .ok ⟨[if isDeclaration then .declaration else .instruction], openElements, rest⟩
  | none => .error .unterminated

/-- Read an end tag behind `</`. -/
def readEnd (openElements : Nat) (s : List UInt8) : Except Error Piece :=
  match tagBody s with
  | some (content, rest) =>
    if openElements = 0 then .error .illFormed
    else .ok ⟨[.finish ⟨trimName content⟩], openElements - 1, rest⟩
  | none => .error .unterminated

/-- Read a start tag behind `<`. -/
def readStart (openElements : Nat) (s : List UInt8) : Except Error Piece :=
  match tagBody s with
  | some (content, rest) =>
    if content.getLast? == some 47 then
      let tag := Tag.ofBytes content.dropLast
      .ok ⟨[.start tag, .finish tag.name], openElements, rest⟩
    else .ok ⟨[.start (Tag.ofBytes content)], openElements + 1, rest⟩
  | none => .error .unterminated

/-- Read markup behind `<`. -/
def readMarkup (openElements : Nat) (s : List UInt8) : Except Error Piece :=
  match s with
  | [] => .error .unterminated
  | b :: rest =>
    if b == 33 then readDeclaration openElements s
    else if b == 63 then readInstruction openElements s
    else if b == 47 then readEnd openElements rest
    else readStart openElements s

/-- A byte that ends a reference. -/
def endsReference (b : UInt8) : Bool := b == 59 || b == 38 || b == 60

def readReference (openElements : Nat) (s : List UInt8) : Except Error Piece :=
  match s.dropWhile (!endsReference ·) with
  | b :: rest =>
    if b == 59 then
      .ok ⟨[.reference (s.takeWhile (!endsReference ·))], openElements, rest⟩
    else .error .illFormed
  | [] => .error .illFormed

/-- A byte that ends a run of text. -/
def endsText (b : UInt8) : Bool := b == 60 || b == 38

/-- Read the piece that begins with `b`. -/
def readPiece (openElements : Nat) (b : UInt8) (s : List UInt8) : Except Error Piece :=
  if b == 60 then readMarkup openElements s
  else if b == 38 then readReference openElements s
  else
    .ok ⟨[.text (b :: s.takeWhile (!endsText ·))], openElements, s.dropWhile (!endsText ·)⟩

/-- Read pieces up to the end of the bytes or to an error. -/
def readPieces : Nat → Nat → List UInt8 → Document
  | _, _, [] => { events := [] }
  | 0, _, _ => { events := [] }
  | fuel + 1, openElements, b :: s =>
    match readPiece openElements b s with
    | .error error => { events := [], error := some error }
    | .ok piece =>
      let rest := readPieces fuel piece.openElements piece.rest
      { rest with events := piece.events ++ rest.events }

/-- Bytes without the mark of their encoding. -/
def dropByteOrderMark : List UInt8 → List UInt8
  | 0xEF :: 0xBB :: 0xBF :: rest => rest
  | bytes => bytes

/-- Read a document. Every piece takes at least a byte. -/
def Document.ofBytes (bytes : List UInt8) : Document :=
  let bytes := dropByteOrderMark bytes
  readPieces bytes.length 0 bytes

end DataDictionary.Markup
