import DataDictionary.Proofs.Markup.Pieces
import DataDictionary.Proofs.Markup.Written
import DataDictionary.Proofs.Text.Ascii

/-!
# Ways to write character data

A text can be cut into fragments, and each of them written in a way of its own: as it is, by the
name or the number of a character, or as a section in which no character has a meaning. Each
fragment is read as an event, those aside that are written as they are and follow each other, which
are one event.
-/

namespace DataDictionary.Markup

open Text

/-! ### Fragments -/

/-- A base in which characters are numbered. -/
inductive Radix
  | decimal
  | hexadecimal

namespace Radix

def base : Radix → Nat
  | decimal => 10
  | hexadecimal => 16

/-- What stands in front of the digits. -/
def mark : Radix → List Char
  | decimal => []
  | hexadecimal => ['x']

/-- The digits, in letters of either case and with any zeros in front, are the number of the
character. -/
structure Numbers (radix : Radix) (digits : List Char) (c : Char) : Prop where
  ne_nil : digits ≠ []
  digit : ∀ d ∈ digits, digitValue d < radix.base
  value : digitsValue radix.base 0 digits = c.toNat

end Radix

/-- A piece of character data in one of the ways to write it. -/
inductive Fragment
  | plain (s : List Char) (free : ∀ c ∈ s, c ≠ '<' ∧ c ≠ '&')
  | named (c : Char) (name : String) (entity : entity? c = some name)
  | numbered (c : Char) (radix : Radix) (digits : List Char) (numbers : radix.Numbers digits c)
  | cdata (s : List Char) (free : ¬"]]>".toList <:+: s)

namespace Fragment

/-- The characters of the fragment. -/
def text : Fragment → List Char
  | plain s _ | cdata s _ => s
  | named c _ _ | numbered c _ _ _ => [c]

/-- The fragment as it is written. -/
def written : Fragment → List Char
  | plain s _ => s
  | named _ name _ => '&' :: name.toList ++ [';']
  | numbered _ radix digits _ => '&' :: ('#' :: radix.mark ++ digits) ++ [';']
  | cdata s _ => "<![CDATA[".toList ++ s ++ "]]>".toList

/-- The event of a fragment that is not written as it is. -/
def event? : Fragment → Option Event
  | plain _ _ => none
  | named _ name _ => some (.reference (bytesOf name))
  | numbered _ radix digits _ =>
    some (.reference (bytesOf (String.ofList ('#' :: radix.mark ++ digits))))
  | cdata s _ => some (.cdata (bytesOf (String.ofList s)))

/-- The events of fragments behind characters that are written as they are. -/
def eventsFrom (run : List Char) : List Fragment → List Event
  | [] => runEvents run
  | fragment :: rest =>
    match fragment.event? with
    | none => eventsFrom (run ++ fragment.text) rest
    | some event => runEvents run ++ event :: eventsFrom [] rest

/-- The events of fragments. -/
def eventsOf (fragments : List Fragment) : List Event := eventsFrom [] fragments

end Fragment

/-! ### Reading what is written -/

variable {openElements : Nat} {rest : List UInt8}

/-- No byte of a text is one that ends a run of it. -/
lemma all_not_endsText {s : List Char} (h : ∀ c ∈ s, c ≠ '<' ∧ c ≠ '&') :
    ∀ b ∈ bytesOf (String.ofList s), (!endsText b) = true := by
  intro b hb
  rw [Utf8.bytesOf_ofList] at hb
  rw [endsText, Bool.not_eq_true', Bool.or_eq_false_iff, beq_eq_false_iff_ne, beq_eq_false_iff_ne]
  constructor
  · rintro rfl
    exact (h '<' (Utf8.mem_of_byte_mem (by decide) hb)).1 rfl
  · rintro rfl
    exact (h '&' (Utf8.mem_of_byte_mem (by decide) hb)).2 rfl

lemma all_not_endsReference {s : List Char} (h : ∀ c ∈ s, c ≠ ';' ∧ c ≠ '&' ∧ c ≠ '<') :
    ∀ b ∈ bytesOf (String.ofList s), (!endsReference b) = true := by
  intro b hb
  rw [Utf8.bytesOf_ofList] at hb
  rw [endsReference, Bool.not_eq_true', Bool.or_eq_false_iff, Bool.or_eq_false_iff,
    beq_eq_false_iff_ne, beq_eq_false_iff_ne, beq_eq_false_iff_ne]
  refine ⟨⟨?_, ?_⟩, ?_⟩
  · rintro rfl
    exact (h ';' (Utf8.mem_of_byte_mem (by decide) hb)).1 rfl
  · rintro rfl
    exact (h '&' (Utf8.mem_of_byte_mem (by decide) hb)).2.1 rfl
  · rintro rfl
    exact (h '<' (Utf8.mem_of_byte_mem (by decide) hb)).2.2 rfl

/-- Characters that are written as they are make one text, up to the next tag or reference. -/
lemma scans_runEvents {run : List Char} (h : ∀ c ∈ run, c ≠ '<' ∧ c ≠ '&') {b : UInt8}
    (hb : endsText b = true) :
    Scans openElements (bytesOf (String.ofList run) ++ b :: rest) (runEvents run) openElements
      (b :: rest) := by
  have hrun := all_not_endsText h
  have hstop : (!endsText b) = false := by rw [hb, Bool.not_true]
  cases run with
  | nil => exact .done _ _
  | cons c run =>
    obtain ⟨first, more, hbytes⟩ : ∃ first more,
        bytesOf (String.ofList (c :: run)) = first :: more := by
      obtain ⟨first, more, hc, -⟩ := Utf8.step_utf8EncodeChar c []
      exact ⟨first, _, by rw [Utf8.bytesOf_ofList, List.flatMap_cons, hc, List.cons_append]⟩
    rw [runEvents, List.isEmpty_cons, if_neg Bool.false_ne_true, hbytes]
    rw [hbytes, List.forall_mem_cons] at hrun
    have htake : (more ++ b :: rest).takeWhile (!endsText ·) = more := by
      rw [takeWhile_append_stop hstop, List.takeWhile_eq_self_iff.mpr hrun.2]
    have hdrop : (more ++ b :: rest).dropWhile (!endsText ·) = b :: rest := by
      rw [dropWhile_append_stop hstop, List.dropWhile_eq_nil_iff.mpr hrun.2, List.nil_append]
    have hfirst : (first == 60) = false ∧ (first == 38) = false := by
      simpa [endsText] using hrun.1
    have hpiece : readPiece openElements first (more ++ b :: rest) =
        .ok ⟨[.text (first :: more)], openElements, b :: rest⟩ := by
      rw [readPiece, hfirst.1, hfirst.2, htake, hdrop]
      rfl
    exact .piece hpiece (.done _ _)

lemma scans_reference {name : List Char} (h : ∀ c ∈ name, c ≠ ';' ∧ c ≠ '&' ∧ c ≠ '<') :
    Scans openElements (bytesOf (String.ofList ('&' :: name ++ [';'])) ++ rest)
      [.reference (bytesOf (String.ofList name))] openElements rest := by
  have hname := all_not_endsReference h
  have hbytes : bytesOf (String.ofList ('&' :: name ++ [';'])) ++ rest =
      38 :: (bytesOf (String.ofList name) ++ 59 :: rest) := by
    have hmark : String.utf8EncodeChar '&' = [38] := rfl
    have hend : String.utf8EncodeChar ';' = [59] := rfl
    simp only [Utf8.bytesOf_ofList, List.cons_append, List.flatMap_cons, List.flatMap_append,
      List.flatMap_nil, hmark, hend, List.append_assoc, List.nil_append]
  have hstop : (!endsReference 59) = false := by decide
  have hpiece : readPiece openElements 38 (bytesOf (String.ofList name) ++ 59 :: rest) =
      .ok ⟨[.reference (bytesOf (String.ofList name))], openElements, rest⟩ := by
    have htake : (bytesOf (String.ofList name) ++ 59 :: rest).takeWhile (!endsReference ·) =
        bytesOf (String.ofList name) := by
      rw [takeWhile_append_stop hstop, List.takeWhile_eq_self_iff.mpr hname]
    have hdrop : (bytesOf (String.ofList name) ++ 59 :: rest).dropWhile (!endsReference ·) =
        59 :: rest := by
      rw [dropWhile_append_stop hstop, List.dropWhile_eq_nil_iff.mpr hname, List.nil_append]
    simp [readPiece, readReference, htake, hdrop]
  rw [hbytes]
  exact .piece hpiece (.done _ _)

/-- Two brackets were passed last only if the bytes end with them. -/
lemma Passed.isSuffix_of_brackets {p : List UInt8}
    (h : ((p.foldl Passed.step {}).last == 93 && (p.foldl Passed.step {}).previous == 93) = true) :
    [93, 93] <:+ p := by
  rw [Bool.and_eq_true, beq_iff_eq, beq_iff_eq] at h
  obtain ⟨hlast, hprevious⟩ := h
  obtain rfl | ⟨q, b, rfl⟩ := List.eq_nil_or_concat' p
  · exact absurd hlast (by decide)
  rw [List.foldl_append] at hlast hprevious
  obtain rfl : b = 93 := hlast
  obtain rfl | ⟨r, a, rfl⟩ := List.eq_nil_or_concat' q
  · exact absurd hprevious (by decide)
  rw [List.foldl_append] at hprevious
  obtain rfl : a = 93 := hprevious
  exact ⟨r, by rw [List.append_assoc]; rfl⟩

/-- A section ends with the first two brackets in front of a `>`. -/
lemma cdataBody_eq {s : List Char} (h : ¬"]]>".toList <:+: s) (rest : List UInt8) :
    cdataBody (bytesOf (String.ofList ("![CDATA[".toList ++ s ++ "]]".toList)) ++ 62 :: rest) =
      some (bytesOf (String.ofList ("![CDATA[".toList ++ s ++ "]]".toList)), rest) := by
  refine upToClose_eq ?_ (fun p q heq => Bool.eq_false_iff.mpr fun hstop => h ?_) rest
  · rw [Utf8.bytesOf_ofList, List.flatMap_append, List.foldl_append]
    rfl
  · obtain ⟨r, rfl⟩ := Passed.isSuffix_of_brackets hstop
    have hinfix : "]]>".toList.flatMap String.utf8EncodeChar <:+:
        ("![CDATA[".toList ++ s ++ "]]".toList).flatMap String.utf8EncodeChar := by
      rw [← Utf8.bytesOf_ofList ("![CDATA[".toList ++ s ++ "]]".toList), heq]
      exact ⟨r, q, by simp [String.utf8EncodeChar]⟩
    have hchars := Utf8.isInfix_of_bytes (by simp) hinfix
    rw [List.append_assoc] at hchars
    have hbehind : "]]".toList ++ ['>'] <:+: s ++ "]]".toList :=
      isInfix_of_append (by decide) hchars
    exact isInfix_of_append_right (by decide) hbehind

lemma scans_cdata {s : List Char} (h : ¬"]]>".toList <:+: s) :
    Scans openElements (bytesOf (String.ofList ("<![CDATA[".toList ++ s ++ "]]>".toList)) ++ rest)
      [.cdata (bytesOf (String.ofList s))] openElements rest := by
  have hbody : bytesOf (String.ofList ("![CDATA[".toList ++ s ++ "]]".toList)) =
      [33, 91, 67, 68, 65, 84, 65, 91] ++ (bytesOf (String.ofList s) ++ [93, 93]) := by
    rw [Utf8.bytesOf_ofList, List.flatMap_append, List.flatMap_append, Utf8.bytesOf_ofList,
      List.append_assoc]
    rfl
  have hbytes : bytesOf (String.ofList ("<![CDATA[".toList ++ s ++ "]]>".toList)) ++ rest =
      60 :: (bytesOf (String.ofList ("![CDATA[".toList ++ s ++ "]]".toList)) ++ 62 :: rest) := by
    rw [hbody, Utf8.bytesOf_ofList, List.flatMap_append, List.flatMap_append, Utf8.bytesOf_ofList]
    simp [String.utf8EncodeChar]
  have hcdata := cdataBody_eq h rest
  have hpiece : readPiece openElements 60
      (bytesOf (String.ofList ("![CDATA[".toList ++ s ++ "]]".toList)) ++ 62 :: rest) =
        .ok ⟨[.cdata (bytesOf (String.ofList s))], openElements, rest⟩ := by
    have hmark : bytesOf "![CDATA[" <+: 33 :: 91 :: 67 :: 68 :: 65 :: 84 :: 65 :: 91 ::
        (bytesOf (String.ofList s) ++ [93, 93]) := ⟨_, rfl⟩
    rw [hbody] at hcdata ⊢
    simp only [List.cons_append, List.nil_append, List.append_assoc] at hcdata ⊢
    simp [readPiece, readMarkup, readDeclaration, hcdata, hmark]
  rw [hbytes]
  exact .piece hpiece (.done _ _)

/-- The name of a character has no mark that ends it. -/
lemma not_mem_name {c : Char} {name : String} (h : entity? c = some name) :
    ∀ d ∈ name.toList, d ≠ ';' ∧ d ≠ '&' ∧ d ≠ '<' := by
  have hmem := entity?_eq_some h
  simp only [List.mem_cons, Prod.mk.injEq, List.not_mem_nil, or_false] at hmem
  rcases hmem with ⟨-, rfl⟩ | ⟨-, rfl⟩ | ⟨-, rfl⟩ | ⟨-, rfl⟩ | ⟨-, rfl⟩ <;> simp

/-- The number of a character has no mark that ends it. -/
lemma Radix.Numbers.not_mem_name {radix : Radix} {digits : List Char} {c : Char}
    (h : radix.Numbers digits c) :
    ∀ d ∈ '#' :: radix.mark ++ digits, d ≠ ';' ∧ d ≠ '&' ∧ d ≠ '<' := by
  have hmark : ∀ d ∈ '#' :: radix.mark, d ≠ ';' ∧ d ≠ '&' ∧ d ≠ '<' := by
    cases radix <;> simp [Radix.mark]
  intro d hd
  rcases List.mem_append.mp hd with hd | hd
  · exact hmark d hd
  · have hdigit := h.digit d hd
    refine ⟨?_, ?_, ?_⟩ <;>
    · rintro rfl
      cases radix <;> exact absurd hdigit (by decide)

namespace Fragment

variable {fragment : Fragment} {event : Event}

/-- A fragment that is not written as it is begins with a mark, which ends the text before it. -/
lemma exists_written_eq (h : fragment.event? = some event) :
    ∃ b more, endsText b = true ∧ bytesOf (String.ofList fragment.written) = b :: more := by
  have hmark : ∃ c s, (c = '&' ∨ c = '<') ∧ fragment.written = c :: s := by
    cases fragment with
    | plain => exact absurd h (by simp [event?])
    | named | numbered => exact ⟨'&', _, .inl rfl, rfl⟩
    | cdata => exact ⟨'<', _, .inr rfl, rfl⟩
  obtain ⟨c, s, hc, hwritten⟩ := hmark
  rw [hwritten, Utf8.bytesOf_ofList, List.flatMap_cons]
  rcases hc with rfl | rfl
  · exact ⟨38, _, rfl, rfl⟩
  · exact ⟨60, _, rfl, rfl⟩

/-- A fragment that is not written as it is, is read as its event. -/
lemma scans_written (h : fragment.event? = some event) :
    Scans openElements (bytesOf (String.ofList fragment.written) ++ rest) [event] openElements
      rest := by
  cases fragment with
  | plain => exact absurd h (by simp [event?])
  | named c name hentity =>
    obtain rfl := Option.some.inj h
    have hname : Scans openElements (bytesOf (String.ofList ('&' :: name.toList ++ [';'])) ++ rest)
        [.reference (bytesOf (String.ofList name.toList))] openElements rest :=
      scans_reference (not_mem_name hentity)
    rw [String.ofList_toList] at hname
    exact hname
  | numbered c radix digits hnumbers =>
    obtain rfl := Option.some.inj h
    exact scans_reference hnumbers.not_mem_name
  | cdata s hs =>
    obtain rfl := Option.some.inj h
    exact scans_cdata hs

lemma eq_plain_of_event? (h : fragment.event? = none) :
    ∃ s free, fragment = plain s free := by
  cases fragment with
  | plain s free => exact ⟨s, free, rfl⟩
  | named | numbered | cdata => exact absurd h (by simp [event?])

/-- Fragments behind characters that are written as they are, are read as their events up to the
next tag. -/
lemma scans_eventsFrom {run : List Char} (h : ∀ c ∈ run, c ≠ '<' ∧ c ≠ '&')
    (fragments : List Fragment) :
    Scans openElements
      (bytesOf (String.ofList (run ++ fragments.flatMap written)) ++ 60 :: rest)
      (eventsFrom run fragments) openElements (60 :: rest) := by
  induction fragments generalizing run with
  | nil =>
    rw [List.flatMap_nil, List.append_nil]
    exact scans_runEvents h rfl
  | cons fragment fragments ih =>
    rw [List.flatMap_cons, eventsFrom]
    cases hevent : fragment.event? with
    | none =>
      obtain ⟨s, hs, rfl⟩ := eq_plain_of_event? hevent
      have hrun : ∀ c ∈ run ++ s, c ≠ '<' ∧ c ≠ '&' :=
        fun c hc => (List.mem_append.mp hc).elim (h c) (hs c)
      have hscans := ih hrun
      rwa [List.append_assoc] at hscans
    | some event =>
      obtain ⟨b, more, hb, hwritten⟩ := exists_written_eq hevent
      have hbytes : bytesOf (String.ofList (run ++ (fragment.written ++ fragments.flatMap written)))
            ++ 60 :: rest =
          bytesOf (String.ofList run) ++ (bytesOf (String.ofList fragment.written) ++
            (bytesOf (String.ofList (fragments.flatMap written)) ++ 60 :: rest)) := by
        simp only [Utf8.bytesOf_ofList, List.flatMap_append, List.append_assoc]
      rw [hbytes]
      have hrest := ih (List.forall_mem_nil _)
      refine Scans.trans ?_ ((scans_written hevent).trans hrest)
      rw [hwritten, List.cons_append]
      exact scans_runEvents h hb

/-- Fragments are read as their events, up to the next tag. -/
theorem scans_eventsOf (fragments : List Fragment) :
    Scans openElements (bytesOf (String.ofList (fragments.flatMap written)) ++ 60 :: rest)
      (eventsOf fragments) openElements (60 :: rest) :=
  scans_eventsFrom (List.forall_mem_nil _) fragments

end Fragment

/-! ### What a fragment stands for -/

lemma charOf?_toNat (c : Char) : charOf? c.toNat = some c := by
  have hvalid : c.toNat.isValidChar := c.valid
  rw [charOf?, if_pos hvalid, Char.ofNat_toNat]

/-- The code is the number: digits behind the mark of their base and possibly a plus sign. -/
inductive IsCode : List Char → Nat → Prop
  | intro (radix : Radix) {sign digits : List Char} {n : Nat} (sign_eq : sign = [] ∨ sign = ['+'])
      (numeral : IsNumeral radix.base digits n) (fits : n < Nat.pow 2 32) :
    IsCode (radix.mark ++ (sign ++ digits)) n

/-- The mark of hexadecimal numbers is neither a sign nor a decimal digit. -/
lemma mark_ne_of_isNumeral (rest : List Char) {sign digits : List Char} {n : Nat}
    (hsign : sign = [] ∨ sign = ['+']) (h : IsNumeral 10 digits n) :
    'x' :: rest ≠ sign ++ digits := by
  rcases hsign with rfl | rfl
  · rintro heq
    rw [List.nil_append] at heq
    exact absurd (h.digit 'x' (heq ▸ List.mem_cons_self)) (by decide)
  · exact fun heq => absurd (List.cons.inj heq).1 (by decide)

lemma readCode_eq_ok_iff {s : List Char} {n : Nat} : readCode s = .ok n ↔ IsCode s n := by
  rw [readCode.eq_def]
  split
  · next rest =>
    rw [readWhole_eq_ok_iff (by decide) (by decide)]
    constructor
    · rintro ⟨hn, sign, digits, hsign, hdigits, rfl⟩
      exact .intro .hexadecimal hsign hdigits hn
    · intro h
      generalize hs : 'x' :: rest = s at h
      obtain ⟨radix, hsign, hdigits, hn⟩ := h
      cases radix with
      | decimal =>
        have hne := mark_ne_of_isNumeral rest hsign hdigits
        exact absurd hs hne
      | hexadecimal => exact ⟨hn, _, _, hsign, hdigits, (List.cons.inj hs).2⟩
  · next hmark =>
    rw [readWhole_eq_ok_iff (by decide) (by decide)]
    constructor
    · rintro ⟨hn, sign, digits, hsign, hdigits, rfl⟩
      exact .intro .decimal hsign hdigits hn
    · rintro ⟨radix, hsign, hdigits, hn⟩
      cases radix with
      | decimal => exact ⟨hn, _, _, hsign, hdigits, rfl⟩
      | hexadecimal => exact absurd rfl (hmark _)

/-- A code has nothing but digits behind its mark and its sign. -/
lemma IsCode.notMem {number : List Char} {n : Nat} (h : IsCode number n) {c : Char}
    (hc : digitValue c = 36) (hplus : c ≠ '+') : c ∉ number := by
  obtain ⟨radix, hsign, hdigits, -⟩ := h
  rw [List.mem_append, List.mem_append, not_or, not_or]
  refine ⟨?_, ?_, fun hmem => ?_⟩
  · cases radix with
    | decimal => exact List.not_mem_nil
    | hexadecimal =>
      rw [Radix.mark, List.mem_singleton]
      rintro rfl
      exact absurd hc (by decide)
  · rcases hsign with rfl | rfl
    · exact List.not_mem_nil
    · exact mt List.mem_singleton.mp hplus
  · have hdigit := hdigits.digit c hmem
    rw [hc] at hdigit
    cases radix <;> exact absurd hdigit (by decide)

lemma IsCode.isLined {number : List Char} {n : Nat} (h : IsCode number n) :
    IsLined ('#' :: number) := by
  refine List.forall_mem_cons.mpr ⟨by decide, fun d hd => ?_⟩
  have hreturn : d ≠ '\r' := fun hne => h.notMem (by decide) (by decide) (hne ▸ hd)
  have hnext : d ≠ '\u0085' := fun hne => h.notMem (by decide) (by decide) (hne ▸ hd)
  have hseparator : d ≠ '\u2028' := fun hne => h.notMem (by decide) (by decide) (hne ▸ hd)
  simp [lineChar, hreturn, hnext, hseparator]

/-- A reference by a number stands for the character of the number, if there is one. -/
lemma referenceContent_number {number : List Char} {n : Nat} (h : IsCode number n) :
    referenceContent (bytesOf (String.ofList ('#' :: number))) =
      .ok (String.ofList (charOf? n).toList) := by
  rw [referenceContent, content_bytesOf, String.toList_ofList, normalizeLines_of_isLined h.isLined]
  simp only [String.toList_ofList, referenceText, readCode_eq_ok_iff.mpr h, Except.map]

namespace Radix.Numbers

variable {radix : Radix} {digits : List Char} {c : Char}

lemma isCode (h : radix.Numbers digits c) : IsCode (radix.mark ++ digits) c.toNat := by
  have hlimit : c.toNat < Nat.pow 2 32 := by
    have hvalid : c.toNat < 0xD800 ∨ 0xDFFF < c.toNat ∧ c.toNat < 0x110000 := c.valid
    have hpow : Nat.pow 2 32 = 4294967296 := rfl
    rw [hpow]
    omega
  exact .intro radix (.inl rfl) ⟨h.ne_nil, h.digit, h.value⟩ hlimit

lemma referenceContent_eq (h : radix.Numbers digits c) :
    referenceContent (bytesOf (String.ofList ('#' :: radix.mark ++ digits))) =
      .ok (String.ofList [c]) := by
  have hcontent := referenceContent_number h.isCode
  rwa [charOf?_toNat] at hcontent

end Radix.Numbers

end DataDictionary.Markup
