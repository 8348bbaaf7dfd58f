import DataDictionary.Proofs.Text.Split
import DataDictionary.Proofs.Text.Utf8

/-!
# ASCII characters among the bytes of a text

An ASCII character is one byte, and no other character has such a byte. So what consists of ASCII
characters stands among the bytes of a text only where it stands in the text.
-/

namespace DataDictionary.Text.Utf8

open Markup (bytesOf)

lemma bytesOf_ofList (s : List Char) :
    bytesOf (String.ofList s) = s.flatMap String.utf8EncodeChar := by
  rw [bytesOf_eq, String.toList_ofList]

/-- An ASCII character is one byte. -/
lemma utf8EncodeChar_of_lt {c : Char} (h : c.toNat < 128) :
    String.utf8EncodeChar c = [UInt8.ofNat c.toNat] := by
  have hval : c.val.toNat = c.toNat := rfl
  simp only [String.utf8EncodeChar, hval, if_pos (Nat.le_of_lt_succ h)]

/-- No other character has a byte of an ASCII character. -/
lemma le_of_mem_utf8EncodeChar {c : Char} (h : 128 ≤ c.toNat) {b : UInt8}
    (hb : b ∈ String.utf8EncodeChar c) : 128 ≤ b.toNat := by
  have hval : c.val.toNat = c.toNat := rfl
  have hbyte {n : Nat} (hlow : 128 ≤ n) (hhigh : n < 256) : 128 ≤ (UInt8.ofNat n).toNat := by
    rwa [toNat_ofNat hhigh]
  simp only [String.utf8EncodeChar, hval, if_neg (show ¬c.toNat ≤ 127 by omega)] at hb
  split at hb
  · simp only [List.mem_cons, List.not_mem_nil, or_false] at hb
    rcases hb with rfl | rfl <;> exact hbyte (by omega) (by omega)
  split at hb
  · simp only [List.mem_cons, List.not_mem_nil, or_false] at hb
    rcases hb with rfl | rfl | rfl <;> exact hbyte (by omega) (by omega)
  · simp only [List.mem_cons, List.not_mem_nil, or_false] at hb
    rcases hb with rfl | rfl | rfl | rfl <;> exact hbyte (by omega) (by omega)

/-- Only the ASCII character itself has its byte. -/
lemma eq_of_mem_utf8EncodeChar {c d : Char} (hc : c.toNat < 128)
    (h : UInt8.ofNat c.toNat ∈ String.utf8EncodeChar d) : d = c := by
  by_cases hd : d.toNat < 128
  · rw [utf8EncodeChar_of_lt hd, List.mem_singleton] at h
    have hnat := congrArg UInt8.toNat h
    rw [toNat_ofNat (by omega), toNat_ofNat (by omega)] at hnat
    exact (Char.toNat_inj.mp hnat).symm
  · have hle := le_of_mem_utf8EncodeChar (Nat.not_lt.mp hd) h
    rw [toNat_ofNat (by omega)] at hle
    omega

/-- A byte of an ASCII character among those of a text is that of the character in the text. -/
lemma mem_of_byte_mem {c : Char} (hc : c.toNat < 128) {s : List Char}
    (h : UInt8.ofNat c.toNat ∈ s.flatMap String.utf8EncodeChar) : c ∈ s := by
  obtain ⟨d, hd, hmem⟩ := List.mem_flatMap.mp h
  rwa [← eq_of_mem_utf8EncodeChar hc hmem]

lemma exists_of_byte_prefix {c : Char} (hc : c.toNat < 128) {bytes : List UInt8} {s : List Char}
    (h : UInt8.ofNat c.toNat :: bytes <+: s.flatMap String.utf8EncodeChar) :
    ∃ t, s = c :: t ∧ bytes <+: t.flatMap String.utf8EncodeChar := by
  cases s with
  | nil => exact absurd h (by simp)
  | cons d t =>
    obtain ⟨b, tail, hd, -⟩ := step_utf8EncodeChar d []
    rw [List.flatMap_cons, hd, List.cons_append, List.cons_prefix_cons] at h
    have hmem : UInt8.ofNat c.toNat ∈ String.utf8EncodeChar d := by
      rw [hd, h.1]
      exact List.mem_cons_self
    obtain rfl := eq_of_mem_utf8EncodeChar hc hmem
    obtain ⟨-, rfl⟩ := List.cons.inj ((utf8EncodeChar_of_lt hc).symm.trans hd)
    exact ⟨t, rfl, h.2⟩

/-- The bytes of ASCII characters begin those of a text only if the characters begin the text. -/
lemma isPrefix_of_bytes {part s : List Char} (hpart : ∀ c ∈ part, c.toNat < 128)
    (h : part.flatMap String.utf8EncodeChar <+: s.flatMap String.utf8EncodeChar) : part <+: s := by
  induction part generalizing s with
  | nil => exact List.nil_prefix
  | cons c part ih =>
    rw [List.forall_mem_cons] at hpart
    rw [List.flatMap_cons, utf8EncodeChar_of_lt hpart.1, List.singleton_append] at h
    obtain ⟨t, rfl, ht⟩ := exists_of_byte_prefix hpart.1 h
    exact List.cons_prefix_cons.mpr ⟨rfl, ih hpart.2 ht⟩

/-- The bytes of ASCII characters are found among those of a text only if the characters are found
in the text. -/
lemma isInfix_of_bytes {part s : List Char} (hpart : ∀ c ∈ part, c.toNat < 128)
    (h : part.flatMap String.utf8EncodeChar <:+: s.flatMap String.utf8EncodeChar) :
    part <:+: s := by
  obtain - | ⟨c, part⟩ := part
  · exact List.nil_infix
  have hc := hpart c (List.mem_cons_self ..)
  have hbytes : (c :: part).flatMap String.utf8EncodeChar =
      UInt8.ofNat c.toNat :: part.flatMap String.utf8EncodeChar := by
    rw [List.flatMap_cons, utf8EncodeChar_of_lt hc, List.singleton_append]
  induction s with
  | nil =>
    rw [hbytes, List.flatMap_nil, List.infix_nil] at h
    exact absurd h (List.cons_ne_nil _ _)
  | cons d s ih =>
    by_cases hd : d = c
    · subst hd
      -- The characters begin here or further on.
      have hnext : (d :: s).flatMap String.utf8EncodeChar =
          UInt8.ofNat d.toNat :: s.flatMap String.utf8EncodeChar := by
        rw [List.flatMap_cons, utf8EncodeChar_of_lt hc, List.singleton_append]
      rw [hnext, List.infix_cons_iff, ← hnext] at h
      rcases h with hprefix | hrest
      · exact (isPrefix_of_bytes hpart hprefix).isInfix
      · exact (ih hrest).trans (List.suffix_cons d s).isInfix
    · have hbyte : UInt8.ofNat c.toNat ∉ String.utf8EncodeChar d :=
        fun hmem => hd (eq_of_mem_utf8EncodeChar hc hmem)
      rw [hbytes, List.flatMap_cons] at h
      refine (ih ?_).trans (List.suffix_cons d s).isInfix
      rw [hbytes]
      exact isInfix_of_append hbyte h

end DataDictionary.Text.Utf8
