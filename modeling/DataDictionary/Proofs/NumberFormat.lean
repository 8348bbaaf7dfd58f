import DataDictionary.NumberFormat
import Mathlib.Data.List.Basic

/-!
# Format codes in segments

A format code is written in segments: literals in quotes, sections in brackets, escapes and plain
characters. It is a date or a time if one of its plain characters says so, and what literals,
sections and escapes hold does not matter. This is so for segments that are closed. An escape mark
counts in literals and in sections, too, and takes the mark that would close them if it is the last
character; then the code behind it is passed over.
-/

namespace DataDictionary.NumberFormat

/-! ### Segments -/

/-- The characters that make an escape with the one behind them. -/
def escapeMarks : List Char := ['_', '\\']

/-- The letters that show a date. -/
def dateLetters : List Char := ['Y', 'y', 'D', 'd']

/-- The letters that show a time. -/
def timeLetters : List Char := ['H', 'h', 'S', 's']

/-- A segment of a format code. -/
inductive Segment where
  | literal (text : List Char) (quote_notMem : '"' ∉ text)
  | bracketed (text : List Char) (bracket_notMem : ']' ∉ text)
  | escape (mark c : Char) (mark_mem : mark ∈ escapeMarks)
  | plain (c : Char) (notMem : c ∉ '"' :: '[' :: escapeMarks)

namespace Segment

/-- The segment as it is written. -/
def chars : Segment → List Char
  | .literal text _ => '"' :: text ++ ['"']
  | .bracketed text _ => '[' :: text ++ [']']
  | .escape mark c _ => [mark, c]
  | .plain c _ => [c]

/-- The character of a plain segment. -/
def plain? : Segment → Option Char
  | .plain c _ => some c
  | _ => none

/-- What the segment holds in quotes or brackets. -/
def content : Segment → List Char
  | .literal text _ => text
  | .bracketed text _ => text
  | _ => []

end Segment

/-- The format code of segments. -/
def codeOf (segments : List Segment) : String := String.ofList (segments.flatMap Segment.chars)

/-- One of the plain characters is among the letters. -/
def Shows (letters : List Char) (segments : List Segment) : Prop :=
  ∃ c ∈ segments.filterMap Segment.plain?, c ∈ letters

instance (letters : List Char) (segments : List Segment) : Decidable (Shows letters segments) :=
  List.decidableBEx (· ∈ letters) (segments.filterMap Segment.plain?)

/-- The kind of a format by what its plain characters show. -/
def kindShown (epoch : Epoch) (segments : List Segment) : CellKind :=
  if Shows dateLetters segments then
    if Shows timeLetters segments then .serial .dateTime epoch else .serial .date epoch
  else
    if Shows timeLetters segments then .serial .time epoch else .number

/-- An escape mark at the end of the text still waits for its character. -/
def waits (text : List Char) : Bool :=
  text.foldl (fun waiting c => !waiting && escapeMarks.contains c) false

/-- No escape takes the mark that closes the segment. -/
def Segment.IsClosed (segment : Segment) : Prop := waits segment.content = false
deriving Decidable

/-! ### Reading segments -/

namespace Scan

/-- Outside literals and sections, where a date or a time may have been met. -/
def outside (date time : Bool) : Scan := { date, time }

/-- In a section or else in a literal, where an escape may wait for its character. -/
def inside (bracket waiting date time : Bool) : Scan :=
  { escaped := waiting, literal := !bracket, bracket, date, time }

variable {date time : Bool}

/-- In a text nothing counts but escapes and the mark that closes it. -/
lemma step_inside (bracket waiting : Bool) {c : Char} (hc : c ≠ if bracket then ']' else '"') :
    (inside bracket waiting date time).step c =
      inside bracket (!waiting && escapeMarks.contains c) date time := by
  cases waiting with
  | true => rfl
  | false =>
    by_cases hmark : c ∈ escapeMarks
    · have hmark' : c = '_' ∨ c = '\\' := by simpa [escapeMarks] using hmark
      simp [step, inside, hmark, hmark']
    · have hmark' : ¬ (c = '_' ∨ c = '\\') := by simpa [escapeMarks] using hmark
      cases bracket with
      | true => simp_all [step, inside]
      | false => simp_all [step, inside]

lemma foldl_inside (bracket : Bool) {text : List Char}
    (htext : (if bracket then ']' else '"') ∉ text) (waiting : Bool) :
    text.foldl step (inside bracket waiting date time) =
      inside bracket (text.foldl (fun waiting c => !waiting && escapeMarks.contains c) waiting)
        date time := by
  -- Of the state nothing changes but whether an escape waits, so that is left open.
  induction text generalizing waiting with
  | nil => rfl
  | cons c text ih =>
    obtain ⟨hc, htext⟩ := not_or.mp (mt List.mem_cons.mpr htext)
    rw [List.foldl_cons, List.foldl_cons, step_inside bracket waiting (Ne.symm hc), ih htext]

lemma step_plain {c : Char} (hc : c ∉ '"' :: '[' :: escapeMarks) :
    (outside date time).step c =
      outside (date || dateLetters.contains c) (time || timeLetters.contains c) := by
  simp only [escapeMarks, List.mem_cons, List.not_mem_nil, or_false, not_or] at hc
  obtain ⟨hquote, hbracket, hunderscore, hbackslash⟩ := hc
  by_cases hdate : c ∈ dateLetters
  · simp only [dateLetters, List.mem_cons, List.not_mem_nil, or_false] at hdate
    rcases hdate with rfl | rfl | rfl | rfl <;>
      simp [step, outside, dateLetters, timeLetters]
  by_cases htime : c ∈ timeLetters
  · simp only [timeLetters, List.mem_cons, List.not_mem_nil, or_false] at htime
    rcases htime with rfl | rfl | rfl | rfl <;>
      simp [step, outside, dateLetters, timeLetters]
  · simp_all [step, outside, dateLetters, timeLetters]

/-- What a text in quotes or brackets leaves: it is closed unless an escape takes the mark. -/
lemma foldl_content (bracket : Bool) {text : List Char}
    (htext : (if bracket then ']' else '"') ∉ text) :
    (text ++ [if bracket then ']' else '"']).foldl step (inside bracket false date time) =
      if waits text then inside bracket false date time else outside date time := by
  rw [List.foldl_append, foldl_inside bracket htext, ← waits, List.foldl_cons, List.foldl_nil]
  cases bracket <;> cases waits text <;> rfl

/-- A segment in quotes or brackets is passed over if it is closed, and goes on if it is not. -/
lemma foldl_literal {text : List Char} (quote_notMem : '"' ∉ text) :
    (Segment.literal text quote_notMem).chars.foldl step (outside date time) =
      if waits text then inside false false date time else outside date time :=
  foldl_content false quote_notMem

lemma foldl_bracketed {text : List Char} (bracket_notMem : ']' ∉ text) :
    (Segment.bracketed text bracket_notMem).chars.foldl step (outside date time) =
      if waits text then inside true false date time else outside date time :=
  foldl_content true bracket_notMem

/-- A closed segment adds what its plain character shows. -/
lemma foldl_of_isClosed {segment : Segment} (h : segment.IsClosed) :
    segment.chars.foldl step (outside date time) =
      outside (date || segment.plain?.any dateLetters.contains)
        (time || segment.plain?.any timeLetters.contains) := by
  cases segment with
  | literal text htext =>
    rw [foldl_literal htext, show waits text = false from h]
    simp [Segment.plain?]
  | bracketed text htext =>
    rw [foldl_bracketed htext, show waits text = false from h]
    simp [Segment.plain?]
  | escape mark c hmark =>
    simp only [escapeMarks, List.mem_cons, List.not_mem_nil, or_false] at hmark
    rcases hmark with rfl | rfl <;> simp [Segment.chars, Segment.plain?, step, outside]
  | plain c hc =>
    rw [Segment.chars, List.foldl_cons, List.foldl_nil, step_plain hc]
    rfl

lemma foldl_flatMap {segments : List Segment} (h : ∀ segment ∈ segments, segment.IsClosed) :
    (segments.flatMap Segment.chars).foldl step (outside date time) =
      outside (date || (segments.filterMap Segment.plain?).any dateLetters.contains)
        (time || (segments.filterMap Segment.plain?).any timeLetters.contains) := by
  induction segments generalizing date time with
  | nil => simp
  | cons segment segments ih =>
    rw [List.forall_mem_cons] at h
    rw [List.flatMap_cons, List.foldl_append, foldl_of_isClosed h.1, ih h.2]
    cases hplain : segment.plain? <;> simp [hplain, Bool.or_assoc]

/-- Behind a segment that is not closed, plain letters are passed over. -/
lemma foldl_of_not_isClosed {segment : Segment} (h : ¬ segment.IsClosed) :
    ∃ bracket, segment.chars.foldl step (outside date time) =
      inside bracket false date time := by
  cases segment with
  | literal text htext =>
    have hwaits : waits text = true := eq_true_of_ne_false h
    exact ⟨false, by rw [foldl_literal htext, if_pos hwaits]⟩
  | bracketed text htext =>
    have hwaits : waits text = true := eq_true_of_ne_false h
    exact ⟨true, by rw [foldl_bracketed htext, if_pos hwaits]⟩
  | escape | plain => exact absurd rfl h

end Scan

/-! ### Kinds of format codes -/

lemma shows_iff (letters : List Char) (segments : List Segment) :
    Shows letters segments ↔
      (segments.filterMap Segment.plain?).any letters.contains = true := by
  simp only [Shows, List.any_eq_true, List.contains_iff_mem]

lemma custom_of_isClosed (epoch : Epoch) {segments : List Segment}
    (h : ∀ segment ∈ segments, segment.IsClosed) :
    custom epoch (codeOf segments) = kindShown epoch segments := by
  have hscan : (segments.flatMap Segment.chars).foldl Scan.step (Scan.outside false false) = _ :=
    Scan.foldl_flatMap h
  simp only [custom, codeOf, String.toList_ofList, kindShown, shows_iff]
  rw [show ({} : Scan) = Scan.outside false false from rfl, hscan]
  simp only [Scan.outside, Bool.false_or]
  cases (segments.filterMap Segment.plain?).any dateLetters.contains <;>
    cases (segments.filterMap Segment.plain?).any timeLetters.contains <;> rfl

/-- A plain letter that shows a date. -/
def Segment.year : Segment := .plain 'y' (by decide)

/-- A year behind a segment that is not closed is not seen. -/
lemma custom_of_not_isClosed (epoch : Epoch) {segment : Segment} (h : ¬ segment.IsClosed) :
    custom epoch (codeOf [segment, .year]) ≠ kindShown epoch [segment, .year] := by
  -- The year is taken for the content of the segment, so neither a date nor a time is met.
  obtain ⟨bracket, hscan⟩ : ∃ bracket, segment.chars.foldl Scan.step (Scan.outside false false) =
      Scan.inside bracket false false false := Scan.foldl_of_not_isClosed h
  have hnumber : custom epoch (codeOf [segment, .year]) = .number := by
    simp only [custom, codeOf, String.toList_ofList, List.flatMap_cons, List.flatMap_nil,
      List.append_nil, List.foldl_append]
    rw [show ({} : Scan) = Scan.outside false false from rfl, hscan]
    cases bracket <;> rfl
  have hdate : Shows dateLetters [segment, .year] := by
    refine ⟨'y', ?_, by decide⟩
    rw [List.mem_filterMap]
    exact ⟨.year, by simp, rfl⟩
  rw [hnumber, kindShown, if_pos hdate]
  split <;> simp

/-- The kind of a format is what its plain characters show, whatever its closed literals, sections
and escapes hold; and this is so of no segments but the closed ones. -/
theorem custom_codeOf (epoch : Epoch) :
    (∀ segments : List Segment, (∀ segment ∈ segments, segment.IsClosed) →
      custom epoch (codeOf segments) = kindShown epoch segments) ∧
    ∀ segment : Segment, segment.IsClosed ↔
      ∀ behind : List Segment, (∀ other ∈ behind, other.IsClosed) →
        custom epoch (codeOf (segment :: behind)) = kindShown epoch (segment :: behind) := by
  refine ⟨fun segments => custom_of_isClosed epoch, fun segment => ⟨?_, ?_⟩⟩
  · intro h behind hbehind
    exact custom_of_isClosed epoch (List.forall_mem_cons.mpr ⟨h, hbehind⟩)
  · intro h
    by_contra hopen
    refine custom_of_not_isClosed epoch hopen (h [.year] ?_)
    rw [List.forall_mem_singleton]
    rfl

/-- A language, a date whose literal has a mark that is escaped, and a blank as wide as a letter. -/
def stamp : List Segment :=
  [.bracketed "$-409".toList (by decide), .plain 'd' (by decide),
    .literal "\\\\ of ".toList (by decide), .plain 'm' (by decide), .escape '_' 'h' (by decide),
    .plain 's' (by decide)]

theorem custom_codeOf_stamp :
    codeOf stamp = "[$-409]d\"\\\\ of \"m_hs" ∧ (∀ segment ∈ stamp, segment.IsClosed) ∧
    custom .from1904 (codeOf stamp) = .serial .dateTime .from1904 := by
  have hclosed : ∀ segment ∈ stamp, segment.IsClosed := by decide
  have hkind := (custom_codeOf .from1904).1 stamp hclosed
  refine ⟨by decide, hclosed, hkind.trans ?_⟩
  decide

/-- A literal that ends in an escape mark, and a year behind it. -/
def fiscalYear : List Segment := .literal "FY_".toList (by decide) :: List.replicate 4 .year

/-- The year is outside the literal, and is not seen. -/
theorem custom_fiscalYear_ne :
    codeOf fiscalYear = "\"FY_\"yyyy" ∧
    kindShown .from1900 fiscalYear = .serial .date .from1900 ∧
    custom .from1900 (codeOf fiscalYear) ≠ kindShown .from1900 fiscalYear := by
  decide

end DataDictionary.NumberFormat
