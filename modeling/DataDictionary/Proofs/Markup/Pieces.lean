import DataDictionary.Markup.Lexer
import Mathlib.Data.List.Basic

/-!
# Documents that are cut off

A document is read piece by piece, and no piece depends on what comes behind the next `<`. So the
events of a document that ends in front of a `<` are the first of any document that goes on from
there. A document that ends inside a tag is found to be at fault, whatever was open; one that ends
anywhere else is not, even if elements are open.
-/

namespace DataDictionary.Markup

/-! ### Pieces in front of more -/

section UpToClose

variable {σ : Type} {step : σ → UInt8 → σ} {stops : σ → Bool}

lemma upToClose_append {state : σ} {s before after : List UInt8}
    (h : upToClose step stops state s = some (before, after)) (more : List UInt8) :
    upToClose step stops state (s ++ more) = some (before, after ++ more) := by
  induction s generalizing state before with
  | nil => exact absurd h (by simp [upToClose])
  | cons b s ih =>
    rw [upToClose] at h
    rw [List.cons_append, upToClose]
    split at h
    · next hclose =>
      obtain ⟨rfl, rfl⟩ := Prod.mk.inj (Option.some.inj h)
      rw [if_pos hclose]
    · next hclose =>
      obtain ⟨⟨before', after'⟩, hrest, heq⟩ := Option.map_eq_some_iff.mp h
      obtain ⟨rfl, rfl⟩ := Prod.mk.inj heq
      rw [if_neg hclose, ih hrest, Option.map_some]

/-- Nothing is closed without a `>`. -/
lemma upToClose_eq_none {s : List UInt8} (h : 62 ∉ s) (state : σ) :
    upToClose step stops state s = none := by
  induction s generalizing state with
  | nil => rfl
  | cons b s ih =>
    obtain ⟨hb, hs⟩ := not_or.mp (mt List.mem_cons.mpr h)
    have hclose : (b == 62) = false := beq_eq_false_iff_ne.mpr (Ne.symm hb)
    rw [upToClose, hclose, Bool.false_and, if_neg Bool.false_ne_true, ih hs, Option.map_none]

/-- It is closed by the first `>` at which it may be. -/
lemma upToClose_eq {before : List UInt8} {state : σ}
    (hstop : stops (before.foldl step state) = true)
    (h : ∀ p q, before = p ++ 62 :: q → stops (p.foldl step state) = false) (rest : List UInt8) :
    upToClose step stops state (before ++ 62 :: rest) = some (before, rest) := by
  induction before generalizing state with
  | nil =>
    have hclose : stops state = true := hstop
    rw [List.nil_append, upToClose, hclose]
    rfl
  | cons b before ih =>
    have hopen : ¬(b == 62 && stops state) = true := by
      rw [Bool.and_eq_true, beq_iff_eq]
      rintro ⟨rfl, hstate⟩
      have hstate' : stops state = false := h [] before rfl
      exact absurd (hstate'.symm.trans hstate) Bool.false_ne_true
    have hrest := ih hstop fun p q heq => h (b :: p) q (congrArg (b :: ·) heq)
    rw [List.cons_append, upToClose, if_neg hopen, hrest, Option.map_some]

end UpToClose

namespace Piece

/-- A piece with more behind it. -/
def before (piece : Piece) (more : List UInt8) : Piece := { piece with rest := piece.rest ++ more }

end Piece

variable {openElements : Nat} {s more : List UInt8} {piece : Piece}

lemma readEnd_append (h : readEnd openElements s = .ok piece) :
    readEnd openElements (s ++ more) = .ok (piece.before more) := by
  cases hbody : tagBody s with
  | none => simp [readEnd, hbody] at h
  | some body =>
    have hmap : readEnd openElements (s ++ more) =
        (readEnd openElements s).map (·.before more) := by
      rw [readEnd, readEnd, hbody, tagBody, upToClose_append hbody]
      dsimp only
      split <;> rfl
    rw [hmap, h, Except.map]

lemma readStart_append (h : readStart openElements s = .ok piece) :
    readStart openElements (s ++ more) = .ok (piece.before more) := by
  cases hbody : tagBody s with
  | none => simp [readStart, hbody] at h
  | some body =>
    have hmap : readStart openElements (s ++ more) =
        (readStart openElements s).map (·.before more) := by
      rw [readStart, readStart, hbody, tagBody, upToClose_append hbody]
      dsimp only
      split <;> rfl
    rw [hmap, h, Except.map]

lemma readInstruction_append (h : readInstruction openElements s = .ok piece) :
    readInstruction openElements (s ++ more) = .ok (piece.before more) := by
  cases hbody : instructionBody s with
  | none => simp [readInstruction, hbody] at h
  | some body =>
    have hmap : readInstruction openElements (s ++ more) =
        (readInstruction openElements s).map (·.before more) := by
      rw [readInstruction, readInstruction, hbody, instructionBody, upToClose_append hbody]
      dsimp only
      split <;> rfl
    rw [hmap, h, Except.map]

lemma readDeclaration_append (h : readDeclaration openElements s = .ok piece) :
    readDeclaration openElements (s ++ more) = .ok (piece.before more) := by
  match s, h with
  | mark :: kind :: rest, h =>
    have hmap : readDeclaration openElements (mark :: kind :: rest ++ more) =
        (readDeclaration openElements (mark :: kind :: rest)).map (·.before more) := by
      simp only [readDeclaration, List.cons_append] at h ⊢
      split
      · next hkind =>
        cases hbody : cdataBody (mark :: kind :: rest) with
        | none => simp [hkind, hbody] at h
        | some body =>
          rw [cdataBody, ← List.cons_append, ← List.cons_append, upToClose_append hbody]
          dsimp only
          split <;> rfl
      split
      · next hkind =>
        cases hbody : commentBody (mark :: kind :: rest) with
        | none => simp [*] at h
        | some body =>
          rw [commentBody, ← List.cons_append, ← List.cons_append, upToClose_append hbody]
          dsimp only
          split <;> rfl
      split
      · next hkind =>
        cases hbody : doctypeBody (mark :: kind :: rest) with
        | none => simp [*] at h
        | some body =>
          rw [doctypeBody, ← List.cons_append, ← List.cons_append, upToClose_append hbody]
          dsimp only
          split
          · split <;> rfl
          · rfl
      · rfl
    rw [hmap, h, Except.map]

lemma readMarkup_append (h : readMarkup openElements s = .ok piece) :
    readMarkup openElements (s ++ more) = .ok (piece.before more) := by
  cases s with
  | nil => exact absurd h (by simp [readMarkup])
  | cons b rest =>
    rw [List.cons_append]
    simp only [readMarkup] at h ⊢
    split at h
    · next hb =>
      rw [if_pos hb]
      exact readDeclaration_append h
    split at h
    · next hb hb' =>
      rw [if_neg hb, if_pos hb']
      exact readInstruction_append h
    split at h
    · next hb hb' hb'' =>
      rw [if_neg hb, if_neg hb', if_pos hb'']
      exact readEnd_append h
    · next hb hb' hb'' =>
      rw [if_neg hb, if_neg hb', if_neg hb'']
      exact readStart_append h

section Stop

variable {p : UInt8 → Bool} {b : UInt8}

lemma takeWhile_append_stop (hb : p b = false) (s rest : List UInt8) :
    (s ++ b :: rest).takeWhile p = s.takeWhile p := by
  induction s with
  | nil => simp [hb]
  | cons c s ih => simp only [List.cons_append, List.takeWhile_cons, ih]

lemma dropWhile_append_stop (hb : p b = false) (s rest : List UInt8) :
    (s ++ b :: rest).dropWhile p = s.dropWhile p ++ b :: rest := by
  induction s with
  | nil => simp [hb]
  | cons c s ih =>
    simp only [List.cons_append, List.dropWhile_cons, ih]
    split <;> rfl

end Stop

lemma readReference_append (h : readReference openElements s = .ok piece) (lost : List UInt8) :
    readReference openElements (s ++ 60 :: lost) = .ok (piece.before (60 :: lost)) := by
  have hstop : (!endsReference 60) = false := by decide
  rw [readReference] at h
  rw [readReference, dropWhile_append_stop hstop, takeWhile_append_stop hstop]
  split at h
  · next b rest hdrop =>
    rw [hdrop, List.cons_append]
    dsimp only
    split at h
    · next hb =>
      obtain rfl := Except.ok.inj h
      rw [if_pos hb]
      rfl
    · exact absurd h (by simp)
  · exact absurd h (by simp)

/-- A piece stays the same in front of a `<`, which ends any text. -/
lemma readPiece_append {b : UInt8} (h : readPiece openElements b s = .ok piece)
    (lost : List UInt8) :
    readPiece openElements b (s ++ 60 :: lost) = .ok (piece.before (60 :: lost)) := by
  rw [readPiece] at h ⊢
  split at h
  · next hb =>
    rw [if_pos hb]
    exact readMarkup_append h
  split at h
  · next hb hb' =>
    rw [if_neg hb, if_pos hb']
    exact readReference_append h lost
  · next hb hb' =>
    have hstop : (!endsText 60) = false := by decide
    rw [if_neg hb, if_neg hb', dropWhile_append_stop hstop, takeWhile_append_stop hstop]
    obtain rfl := Except.ok.inj h
    rfl

/-! ### Pieces take bytes -/

lemma length_rest_readDeclaration (h : readDeclaration openElements s = .ok piece) :
    piece.rest.length ≤ s.length := by
  match s, h with
  | mark :: kind :: rest, h =>
    grind [readDeclaration, cdataBody, commentBody, doctypeBody, → upToClose_length]

lemma length_rest_readMarkup (h : readMarkup openElements s = .ok piece) :
    piece.rest.length ≤ s.length := by
  cases s with
  | nil => exact absurd h (by simp [readMarkup])
  | cons b rest =>
    grind [readMarkup, readInstruction, readEnd, readStart, instructionBody, tagBody,
      → length_rest_readDeclaration, → upToClose_length]

lemma length_rest_readPiece {b : UInt8} (h : readPiece openElements b s = .ok piece) :
    piece.rest.length ≤ s.length := by
  grind [readPiece, readReference, → length_rest_readMarkup, length_dropWhile_le]

/-! ### Documents -/

/-- From bytes with elements open, events are read up to a rest with others open. -/
inductive Scans : Nat → List UInt8 → List Event → Nat → List UInt8 → Prop
  | done (openElements : Nat) (rest : List UInt8) : Scans openElements rest [] openElements rest
  | piece {openElements : Nat} {b : UInt8} {s : List UInt8} {piece : Piece} {events : List Event}
      {openBehind : Nat} {rest : List UInt8} :
      readPiece openElements b s = .ok piece →
      Scans piece.openElements piece.rest events openBehind rest →
      Scans openElements (b :: s) (piece.events ++ events) openBehind rest

section Scans

variable {openBehind : Nat} {rest : List UInt8} {events : List Event}

lemma Scans.append (h : Scans openElements s events openBehind rest) (lost : List UInt8) :
    Scans openElements (s ++ 60 :: lost) events openBehind (rest ++ 60 :: lost) := by
  induction h with
  | done openElements rest => exact .done openElements _
  | piece hpiece _ ih =>
    have hscans := Scans.piece (readPiece_append hpiece lost) ih
    exact hscans

lemma Scans.trans {openLast : Nat} {last : List UInt8} {more : List Event}
    (h : Scans openElements s events openBehind rest)
    (hmore : Scans openBehind rest more openLast last) :
    Scans openElements s (events ++ more) openLast last := by
  induction h with
  | done => exact hmore
  | piece hpiece _ ih =>
    rw [List.append_assoc]
    exact .piece hpiece (ih hmore)

lemma Scans.readPieces_eq (h : Scans openElements s events openBehind rest) {fuel : Nat}
    (hfuel : s.length ≤ fuel) : ∃ left, rest.length ≤ left ∧ readPieces fuel openElements s =
      { events := events ++ (readPieces left openBehind rest).events
        error := (readPieces left openBehind rest).error } := by
  -- a piece takes a byte at least, so that fuel for all bytes leaves fuel for the rest
  induction h generalizing fuel with
  | done => exact ⟨fuel, hfuel, rfl⟩
  | @piece openElements b s piece events openBehind rest hpiece _ ih =>
    cases fuel with
    | zero => exact absurd hfuel (by simp)
    | succ fuel =>
      have hrest : piece.rest.length ≤ fuel :=
        Nat.le_trans (length_rest_readPiece hpiece) (Nat.le_of_succ_le_succ hfuel)
      obtain ⟨left, hleft, heq⟩ := ih hrest
      refine ⟨left, hleft, ?_⟩
      rw [readPieces, hpiece]
      simp only [heq, List.append_assoc]

/-- A document without an error is read to its end. -/
lemma scans_of_error_eq_none {fuel : Nat} (hfuel : s.length ≤ fuel)
    (h : (readPieces fuel openElements s).error = none) :
    ∃ openBehind, Scans openElements s (readPieces fuel openElements s).events openBehind [] := by
  induction fuel generalizing openElements s with
  | zero =>
    obtain rfl := List.length_eq_zero_iff.mp (Nat.le_zero.mp hfuel)
    exact ⟨openElements, .done openElements []⟩
  | succ fuel ih =>
    cases s with
    | nil => exact ⟨openElements, .done openElements []⟩
    | cons b s =>
      rw [readPieces] at h ⊢
      cases hpiece : readPiece openElements b s with
      | error error => exact absurd h (by simp [hpiece])
      | ok piece =>
        have hrest : piece.rest.length ≤ fuel :=
          Nat.le_trans (length_rest_readPiece hpiece) (Nat.le_of_succ_le_succ hfuel)
        rw [hpiece] at h
        obtain ⟨openBehind, hscans⟩ := ih hrest h
        exact ⟨openBehind, .piece hpiece hscans⟩

end Scans

/-- Markup that is not closed has no end, whatever it is. -/
lemma readMarkup_of_notMem {lost : List UInt8} (h : 62 ∉ lost) (openElements : Nat) :
    readMarkup openElements lost = .error .unterminated := by
  have hnone {σ : Type} (step : σ → UInt8 → σ) (stops : σ → Bool) (state : σ) :
      upToClose step stops state lost = none :=
    upToClose_eq_none h state
  cases lost with
  | nil => rfl
  | cons b rest =>
    have hrest : tagBody rest = none :=
      upToClose_eq_none (mt (List.mem_cons_of_mem b) h) none
    simp only [readMarkup, readInstruction, readEnd, readStart, instructionBody, tagBody, hnone]
      at hrest ⊢
    split
    · rw [readDeclaration.eq_def]
      simp only [cdataBody, commentBody, doctypeBody, hnone]
      split <;> simp
    · simp [hrest]

lemma dropByteOrderMark_append (kept lost : List UInt8) :
    dropByteOrderMark (kept ++ 60 :: lost) = dropByteOrderMark kept ++ 60 :: lost := by
  rcases kept with - | ⟨a, - | ⟨b, - | ⟨c, rest⟩⟩⟩
  · rfl
  · simp [dropByteOrderMark]
  · simp [dropByteOrderMark]
  · by_cases hmark : a = 0xEF ∧ b = 0xBB ∧ c = 0xBF
    · obtain ⟨rfl, rfl, rfl⟩ := hmark
      rfl
    · have hkept (s : List UInt8) : dropByteOrderMark (a :: b :: c :: s) = a :: b :: c :: s := by
        rw [dropByteOrderMark.eq_def]
        split
        · next heq =>
          simp only [List.cons.injEq] at heq
          exact absurd ⟨heq.1, heq.2.1, heq.2.2.1⟩ hmark
        · rfl
      rw [hkept rest, List.cons_append, List.cons_append, List.cons_append, hkept]

/-- What is read of a document that ends in front of a `<` is the beginning of what is read of any
document that goes on from there. If the `<` is closed nowhere, that is all, and an error. -/
theorem Document.ofBytes_append {kept : List UInt8} (h : (Document.ofBytes kept).error = none)
    (lost : List UInt8) : ∃ more error,
      Document.ofBytes (kept ++ 60 :: lost) =
        { events := (Document.ofBytes kept).events ++ more, error } ∧
      (62 ∉ lost → more = [] ∧ error = some .unterminated) := by
  obtain ⟨openBehind, hscans⟩ := scans_of_error_eq_none (Nat.le_refl _) h
  obtain ⟨left, hleft, heq⟩ := (hscans.append lost).readPieces_eq (Nat.le_refl _)
  refine ⟨(readPieces left openBehind (60 :: lost)).events,
    (readPieces left openBehind (60 :: lost)).error, ?_, ?_⟩
  · rw [Document.ofBytes, dropByteOrderMark_append]
    exact heq
  · intro hlost
    -- the rest begins with the `<`, so that there is fuel for one more piece
    cases left with
    | zero => exact absurd hleft (by simp)
    | succ left =>
      have hpiece : readPiece openBehind 60 lost = .error .unterminated :=
        readMarkup_of_notMem hlost openBehind
      rw [readPieces, hpiece]
      exact ⟨rfl, rfl⟩

end DataDictionary.Markup
