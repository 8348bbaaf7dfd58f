import DataDictionary.Proofs.Markup.CharacterData
import DataDictionary.Workbook.Basic

/-!
# References in texts

A reference stands for a character by its name or by its number, and a number that names no
character stands for nothing. Whatever else is written between an ampersand and a semicolon is at
fault, and so is what is no text at all. The readers of workbooks put what references stand for
behind the text that they have collected; a reference at fault leaves that text as it is.
-/

namespace DataDictionary.Markup

open Text

/-! ### What a reference stands for -/

/-- The name is a reference: the number of a code point behind its mark, or one of five names. -/
inductive IsReference : List Char → Prop
  | number {number : List Char} {n : Nat} (code : IsCode number n) : IsReference ('#' :: number)
  | named {c : Char} {name : String} (entity : entity? c = some name) : IsReference name.toList

/-- The name is a way to write the character as a reference. -/
inductive Writes : List Char → Char → Prop
  | number {number : List Char} {c : Char} (code : IsCode number c.toNat) : Writes ('#' :: number) c
  | named {c : Char} {name : String} (entity : entity? c = some name) : Writes name.toList c

lemma entity?_of_predefined? {name : List Char} {c : Char} (h : predefined? name = some c) :
    entity? c = some (String.ofList name) := by
  rw [predefined?] at h
  split_ifs at h with hname hname hname hname hname <;>
  · obtain rfl := Option.some.inj h
    rw [eq_of_beq hname]
    rfl

lemma referenceContent_of_writes {name : List Char} {c : Char} (h : Writes name c) :
    referenceContent (bytesOf (String.ofList name)) = .ok (String.ofList [c]) := by
  cases h with
  | number code =>
    have hcontent := referenceContent_number code
    rwa [charOf?_toNat] at hcontent
  | named entity =>
    rw [String.ofList_toList]
    exact referenceContent_entity entity

/-- What stands for something, be it for no character, is a reference. -/
lemma isReference_of_referenceText {name chars : List Char} (h : referenceText name = .ok chars) :
    IsReference name := by
  rw [referenceText.eq_def] at h
  split at h
  · split at h
    · next hcode => exact .number (readCode_eq_ok_iff.mp hcode)
    · exact absurd h (by simp)
  · split at h
    · next hname =>
      rw [← String.toList_ofList (l := name)]
      exact .named (entity?_of_predefined? hname)
    · exact absurd h (by simp)

lemma IsReference.notMem {name : List Char} (h : IsReference name) : '\n' ∉ name := by
  cases h with
  | number code =>
    rw [List.mem_cons, not_or]
    exact ⟨by decide, code.notMem (by decide) (by decide)⟩
  | named entity =>
    have hmem := entity?_eq_some entity
    simp only [List.mem_cons, Prod.mk.injEq, List.not_mem_nil, or_false] at hmem
    rcases hmem with ⟨-, rfl⟩ | ⟨-, rfl⟩ | ⟨-, rfl⟩ | ⟨-, rfl⟩ | ⟨-, rfl⟩ <;> decide

/-- The bytes are those of a reference. -/
def HoldsReference (bytes : List UInt8) : Prop :=
  ∃ name, IsReference name ∧ bytes = bytesOf (String.ofList name)

/-- The bytes of references are just what stands for something: no other bytes are read as these
characters, since no line end is made one in them. -/
lemma holdsReference_iff {bytes : List UInt8} :
    HoldsReference bytes ↔ ∃ s, referenceContent bytes = .ok s := by
  constructor
  · rintro ⟨name, hname, rfl⟩
    cases hname with
    | number code => exact ⟨_, referenceContent_number code⟩
    | named entity =>
      rw [String.ofList_toList]
      exact ⟨_, referenceContent_entity entity⟩
  · rintro ⟨s, hs⟩
    rw [referenceContent] at hs
    split at hs
    · exact absurd hs (by simp)
    · next name hcontent =>
      cases htext : referenceText name.toList with
      | error error => exact absurd (htext ▸ hs) (by simp [Except.map])
      | ok chars =>
        have hname := isReference_of_referenceText htext
        refine ⟨name.toList, hname, ?_⟩
        rw [String.ofList_toList]
        exact eq_bytesOf_of_content hcontent hname.notMem

lemma exists_referenceContent_eq_error {bytes : List UInt8} (h : ¬HoldsReference bytes) :
    ∃ error, referenceContent bytes = .error error := by
  rw [holdsReference_iff] at h
  cases hcontent : referenceContent bytes with
  | error error => exact ⟨error, rfl⟩
  | ok s => exact absurd ⟨s, hcontent⟩ h

/-! ### Texts that references are put behind -/

/-- The bytes of references that are written like this. -/
def referenceBytes (names : List (List Char)) : List (List UInt8) :=
  names.map fun name => bytesOf (String.ofList name)

lemma pushReference_of_writes {name : List Char} {c : Char} (h : Writes name c) (text : String) :
    pushReference text (bytesOf (String.ofList name)) = (text ++ String.ofList [c], .ok ()) := by
  rw [pushReference, referenceContent_of_writes h, pushContent]

lemma pushReference_of_not_isValidChar {number : List Char} {n : Nat} (h : IsCode number n)
    (hn : ¬n.isValidChar) (text : String) :
    pushReference text (bytesOf (String.ofList ('#' :: number))) = (text, .ok ()) := by
  rw [pushReference, referenceContent_number h, charOf?, if_neg hn]
  simp

/-- References that write the characters of a text add the text, and what follows them is put behind
it. -/
lemma pushReferences_append {names : List (List Char)} {chars : List Char}
    (h : List.Forall₂ Writes names chars) (rest : List (List UInt8)) (text : String) :
    pushReferences text (referenceBytes names ++ rest) =
      pushReferences (text ++ String.ofList chars) rest := by
  induction h generalizing text with
  | nil => simp [referenceBytes]
  | @cons name c names chars hname _ ih =>
    have hstep := ih (text ++ String.ofList [c])
    rw [String.append_assoc, ← String.ofList_append] at hstep
    rw [referenceBytes, List.map_cons, List.cons_append, pushReferences,
      pushReference_of_writes hname]
    exact hstep

end DataDictionary.Markup

namespace DataDictionary.Workbook

open Markup

/-! ### Readers -/

lemma OpenXml.ItemText.step_reference {item : ItemText} (h : item.inText = true)
    (bytes : List UInt8) :
    item.step (.reference bytes) =
      goOn (fun text => { item with text }) (pushReference item.text bytes) := by
  rw [step, append, if_pos h, pushReference]

lemma OpenDocument.Cursor.step_reference {cursor : Cursor} (h : cursor.inText = true)
    (hbody : cursor.inAnnotation = false) (bytes : List UInt8) :
    cursor.step (.reference bytes) =
      goOn (fun value => { cursor with value }) (pushReference cursor.value bytes) := by
  have hcounts : (cursor.inText && !cursor.inAnnotation) = true := by rw [h, hbody]; rfl
  rw [step, appendContent, if_pos hcounts, pushReference]

/-- References read what they write: however the characters of a text are written as references,
these add the text. A number of no character adds nothing. What is no reference is at fault, and
the text that was collected so far, be it by references, stays. In this way the readers of
workbooks and of spreadsheets take up references in a text. -/
theorem pushReferences_decodes (text : String) :
    (∀ names chars, List.Forall₂ Writes names chars →
      pushReferences text (referenceBytes names) = (text ++ String.ofList chars, .ok ())) ∧
    (∀ number n, IsCode number n → ¬n.isValidChar →
      pushReference text (bytesOf (String.ofList ('#' :: number))) = (text, .ok ())) ∧
    (∀ bytes, ¬HoldsReference bytes → ∃ error, pushReference text bytes = (text, .error error) ∧
      ∀ names chars rest, List.Forall₂ Writes names chars →
        pushReferences text (referenceBytes names ++ bytes :: rest) =
          (text ++ String.ofList chars, .error error)) ∧
    (∀ (item : OpenXml.ItemText) bytes, item.inText = true →
      item.step (.reference bytes) =
        goOn (fun text => { item with text }) (pushReference item.text bytes)) ∧
    (∀ (cursor : OpenDocument.Cursor) bytes, cursor.inText = true → cursor.inAnnotation = false →
      cursor.step (.reference bytes) =
        goOn (fun value => { cursor with value }) (pushReference cursor.value bytes)) := by
  refine ⟨?_, ?_, ?_, ?_, ?_⟩
  · intro names chars h
    have hpush := pushReferences_append h [] text
    rwa [List.append_nil] at hpush
  · exact fun number n h hn => pushReference_of_not_isValidChar h hn text
  · intro bytes h
    obtain ⟨error, herror⟩ := exists_referenceContent_eq_error h
    have hpush (text : String) : pushReference text bytes = (text, .error error) := by
      rw [pushReference, herror, pushContent]
    refine ⟨error, hpush text, fun names chars rest hwrites => ?_⟩
    rw [pushReferences_append hwrites, pushReferences, hpush]
  · exact fun item bytes h => OpenXml.ItemText.step_reference h bytes
  · exact fun cursor bytes h hbody => OpenDocument.Cursor.step_reference h hbody bytes

theorem pushReferences_decodes_menu :
    List.Forall₂ Writes ["#x00e9".toList, "amp".toList, "#0060".toList] ['é', '&', '<'] ∧
    pushReferences "caf" (referenceBytes ["#x00e9".toList, "amp".toList, "#0060".toList]) =
      ("café&<", .ok ()) ∧
    IsCode "x+D800".toList 0xD800 ∧ ¬Nat.isValidChar 0xD800 ∧
    pushReference "caf" (bytesOf "#x+D800") = ("caf", .ok ()) ∧
    ¬HoldsReference (bytesOf "#X41") ∧
    ∃ error, pushReferences "caf" (referenceBytes ["#x00e9".toList] ++ [bytesOf "#X41"]) =
      ("café", .error error) := by
  obtain ⟨hwrites, hnumber, hfault, -⟩ := pushReferences_decodes "caf"
  have hletter : Writes "#x00e9".toList 'é' := .number (readCode_eq_ok_iff.mp (by decide))
  have hamp : Writes "amp".toList '&' := @Writes.named '&' "amp" rfl
  have hless : Writes "#0060".toList '<' := .number (readCode_eq_ok_iff.mp (by decide))
  have hall : List.Forall₂ Writes ["#x00e9".toList, "amp".toList, "#0060".toList] ['é', '&', '<'] :=
    .cons hletter (.cons hamp (.cons hless .nil))
  have hcode : IsCode "x+D800".toList 0xD800 := readCode_eq_ok_iff.mp (by decide)
  have hfaulty : ¬HoldsReference (bytesOf "#X41") := by
    have hcontent : referenceContent (bytesOf "#X41") = .error (.number .invalidDigit) := by
      decide +kernel
    rw [holdsReference_iff, hcontent]
    simp
  obtain ⟨error, -, hrest⟩ := hfault _ hfaulty
  exact ⟨hall, hwrites _ _ hall, hcode, by decide, hnumber _ _ hcode (by decide), hfaulty, error,
    hrest _ ['é'] [] (.cons hletter .nil)⟩

end DataDictionary.Workbook
