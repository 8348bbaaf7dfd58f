import DataDictionary.Markup.Event
import Mathlib.Tactic.IntervalCases

/-!
# Texts in UTF-8

The bytes of a text are read as that text, character by character, and no other bytes are read: the
bounds of the second byte leave one way to write each character.
-/

namespace DataDictionary.Text.Utf8

open Markup (bytesOf)

/-! ### Bytes of a character -/

section Encoding

variable {q r s t : Nat}

lemma val_ofNat {n : Nat} (h : n < 0xD800 ∨ 0xDFFF < n ∧ n < 0x110000) :
    (Char.ofNat n).val.toNat = n := by
  have hvalid : n.isValidChar := h
  rw [Char.ofNat, dif_pos hvalid]
  rfl

lemma utf8EncodeChar_one {n : Nat} (h : n < 128) :
    String.utf8EncodeChar (Char.ofNat n) = [UInt8.ofNat n] := by
  simp only [String.utf8EncodeChar, val_ofNat (n := n) (by omega)]
  rw [if_pos (by omega)]

lemma utf8EncodeChar_two (hlow : 2 ≤ q) (hhigh : q ≤ 31) (hr : r < 64) :
    String.utf8EncodeChar (Char.ofNat (q * 64 + r)) =
      [UInt8.ofNat (q + 192), UInt8.ofNat (r + 128)] := by
  simp only [String.utf8EncodeChar, val_ofNat (n := q * 64 + r) (by omega)]
  rw [if_neg (by omega), if_pos (by omega), show (q * 64 + r) / 64 % 32 = q by omega,
    show (q * 64 + r) % 64 = r by omega]

lemma utf8EncodeChar_three (hq : q ≤ 15) (hlow : q = 0 → 32 ≤ r) (hhigh : q = 13 → r ≤ 31)
    (hr : r < 64) (hs : s < 64) :
    String.utf8EncodeChar (Char.ofNat ((q * 64 + r) * 64 + s)) =
      [UInt8.ofNat (q + 224), UInt8.ofNat (r + 128), UInt8.ofNat (s + 128)] := by
  obtain ⟨n, hn⟩ : ∃ n, (q * 64 + r) * 64 + s = n := ⟨_, rfl⟩
  have hval : (Char.ofNat n).val.toNat = n := val_ofNat (by omega)
  simp only [String.utf8EncodeChar, hn, hval]
  rw [if_neg (by omega), if_neg (by omega), if_pos (by omega), show n / 4096 % 16 = q by omega,
    show n / 64 % 64 = r by omega, show n % 64 = s by omega]

lemma utf8EncodeChar_four (hq : q ≤ 4) (hlow : q = 0 → 16 ≤ r) (hhigh : q = 4 → r ≤ 15)
    (hr : r < 64) (hs : s < 64) (ht : t < 64) :
    String.utf8EncodeChar (Char.ofNat (((q * 64 + r) * 64 + s) * 64 + t)) =
      [UInt8.ofNat (q + 240), UInt8.ofNat (r + 128), UInt8.ofNat (s + 128),
        UInt8.ofNat (t + 128)] := by
  obtain ⟨n, hn⟩ : ∃ n, ((q * 64 + r) * 64 + s) * 64 + t = n := ⟨_, rfl⟩
  have hval : (Char.ofNat n).val.toNat = n := val_ofNat (by omega)
  simp only [String.utf8EncodeChar, hn, hval]
  rw [if_neg (by omega), if_neg (by omega), if_neg (by omega), show n / 262144 % 8 = q by omega,
    show n / 4096 % 64 = r by omega, show n / 64 % 64 = s by omega, show n % 64 = t by omega]

end Encoding

lemma toNat_ofNat {n : Nat} (h : n < 256) : (UInt8.ofNat n).toNat = n := by
  rw [UInt8.toNat_ofNat']
  exact Nat.mod_eq_of_lt h

/-- A byte with the bits of a continuation lies between bounds that its bits do. -/
lemma inTail_ofNat {low high r : Nat} (hr : r < 64) (hlow : low ≤ r + 128)
    (hhigh : r + 128 ≤ high) : inTail low high (UInt8.ofNat (r + 128)) = true := by
  have hbyte : (UInt8.ofNat (r + 128)).toNat = r + 128 := toNat_ofNat (by omega)
  simp only [inTail, hbyte, Bool.and_eq_true, decide_eq_true_eq]
  exact ⟨hlow, hhigh⟩

/-- A byte with the bits of a continuation is read for its bits. -/
lemma tail_succ (code more : Nat) {r : Nat} (hr : r < 64) (rest : List UInt8) :
    tail code (more + 1) (UInt8.ofNat (r + 128) :: rest) = tail (code * 64 + r) more rest := by
  rw [tail, if_pos (inTail_ofNat hr (by omega) (by omega)), toNat_ofNat (by omega),
    Nat.add_sub_cancel]

/-- A lead byte and a second byte between its bounds are read for their bits. -/
lemma step_of_lead? {b : UInt8} {lead : Lead} (hb : lead? b = some lead) {r : Nat} (hr : r < 64)
    (hlow : lead.low ≤ r + 128) (hhigh : r + 128 ≤ lead.high) (rest : List UInt8) :
    step b (UInt8.ofNat (r + 128) :: rest) =
      ((tail (lead.bits * 64 + r) lead.more rest).1.map Char.ofNat,
        (tail (lead.bits * 64 + r) lead.more rest).2) := by
  have hascii : ¬b.toNat < 0x80 := by
    intro h
    simp only [lead?, Bool.and_eq_true, decide_eq_true_eq, beq_iff_eq] at hb
    split_ifs at hb <;> omega
  rw [step.eq_def, if_neg hascii, hb]
  simp only [inTail_ofNat hr hlow hhigh, if_true]
  rw [toNat_ofNat (by omega), Nat.add_sub_cancel]

lemma lead?_two {q : Nat} (hlow : 2 ≤ q) (hhigh : q ≤ 31) :
    lead? (UInt8.ofNat (q + 192)) = some ⟨q, 0x80, 0xBF, 0⟩ := by
  interval_cases q <;> rfl

/-- The second byte of three excludes what fewer bytes hold, and halves of surrogate pairs. -/
lemma lead?_three {q r : Nat} (hq : q ≤ 15) (hlow : q = 0 → 32 ≤ r) (hhigh : q = 13 → r ≤ 31)
    (hr : r < 64) :
    ∃ low high, lead? (UInt8.ofNat (q + 224)) = some ⟨q, low, high, 1⟩ ∧ low ≤ r + 128 ∧
      r + 128 ≤ high := by
  interval_cases q <;> exact ⟨_, _, rfl, by omega, by omega⟩

/-- The second byte of four excludes what fewer bytes hold, and what lies beyond all characters. -/
lemma lead?_four {q r : Nat} (hq : q ≤ 4) (hlow : q = 0 → 16 ≤ r) (hhigh : q = 4 → r ≤ 15)
    (hr : r < 64) :
    ∃ low high, lead? (UInt8.ofNat (q + 240)) = some ⟨q, low, high, 2⟩ ∧ low ≤ r + 128 ∧
      r + 128 ≤ high := by
  interval_cases q <;> exact ⟨_, _, rfl, by omega, by omega⟩

/-- A number and its last six bits. -/
lemma exists_bits (n : Nat) : ∃ q r, r < 64 ∧ n = q * 64 + r :=
  ⟨n / 64, n % 64, Nat.mod_lt n (by decide), (Nat.div_add_mod' n 64).symm⟩

/-- The bytes of a character are read as the character. -/
lemma step_utf8EncodeChar (c : Char) (rest : List UInt8) :
    ∃ b t, String.utf8EncodeChar c = b :: t ∧ step b (t ++ rest) = (some c, rest) := by
  have hvalid : c.toNat < 0xD800 ∨ 0xDFFF < c.toNat ∧ c.toNat < 0x110000 := c.valid
  rw [← Char.ofNat_toNat c]
  generalize c.toNat = n at hvalid
  by_cases hone : n < 0x80
  · refine ⟨_, _, utf8EncodeChar_one hone, ?_⟩
    rw [step.eq_def, toNat_ofNat (by omega), if_pos hone, List.nil_append]
  obtain ⟨m, r, hr, rfl⟩ := exists_bits n
  by_cases htwo : m < 0x20
  · refine ⟨_, _, utf8EncodeChar_two (by omega) (by omega) hr, ?_⟩
    rw [List.singleton_append, step_of_lead? (lead?_two (by omega) (by omega)) hr
      (Nat.le_add_left 128 r) (by dsimp only; omega)]
    rfl
  obtain ⟨k, s, hs, rfl⟩ := exists_bits m
  by_cases hthree : k < 0x10
  · obtain ⟨low, high, hlead, hlow, hhigh⟩ :=
      lead?_three (q := k) (r := s) (by omega) (by omega) (by omega) hs
    refine ⟨_, _, utf8EncodeChar_three (by omega) (by omega) (by omega) hs hr, ?_⟩
    rw [List.cons_append, step_of_lead? hlead hs hlow hhigh, List.singleton_append,
      tail_succ _ _ hr]
    rfl
  obtain ⟨q, t, ht, rfl⟩ := exists_bits k
  obtain ⟨low, high, hlead, hlow, hhigh⟩ :=
    lead?_four (q := q) (r := t) (by omega) (by omega) (by omega) ht
  refine ⟨_, _, utf8EncodeChar_four (by omega) (by omega) (by omega) ht hs hr, ?_⟩
  rw [List.cons_append, step_of_lead? hlead ht hlow hhigh, List.cons_append, tail_succ _ _ hs,
    List.singleton_append, tail_succ _ _ hr]
  rfl

/-! ### Characters that are read -/

/-- A byte between bounds of continuations is one of six bits. -/
lemma exists_of_inTail {low high : Nat} {b : UInt8} (hlow : 0x80 ≤ low) (hhigh : high ≤ 0xBF)
    (h : inTail low high b = true) :
    ∃ r < 64, b = UInt8.ofNat (r + 128) ∧ low ≤ r + 128 ∧ r + 128 ≤ high := by
  simp only [inTail, Bool.and_eq_true, decide_eq_true_eq] at h
  refine ⟨b.toNat - 128, by omega, ?_, by omega, by omega⟩
  rw [Nat.sub_add_cancel (by omega), UInt8.ofNat_toNat]

lemma tail_zero_eq_some {code n : Nat} {rest left : List UInt8}
    (h : tail code 0 rest = (some n, left)) : code = n ∧ rest = left := by
  obtain ⟨hcode, hrest⟩ := Prod.mk.inj h
  exact ⟨Option.some.inj hcode, hrest⟩

lemma tail_succ_eq_some {code more n : Nat} {rest left : List UInt8}
    (h : tail code (more + 1) rest = (some n, left)) :
    ∃ r < 64, ∃ rest', rest = UInt8.ofNat (r + 128) :: rest' ∧
      tail (code * 64 + r) more rest' = (some n, left) := by
  cases rest with
  | nil => exact absurd h (by simp [tail])
  | cons b rest =>
    rw [tail] at h
    split at h
    · next htail =>
      obtain ⟨r, hr, rfl, -, -⟩ := exists_of_inTail (by decide) (by decide) htail
      rw [toNat_ofNat (by omega), Nat.add_sub_cancel] at h
      exact ⟨r, hr, rest, rfl, h⟩
    · exact absurd h (by simp)

/-- The lead bytes, by how many bytes follow the second, with the bounds of that one. -/
lemma lead?_eq_some {b : UInt8} {lead : Lead} (h : lead? b = some lead) :
    0x80 ≤ lead.low ∧ lead.high ≤ 0xBF ∧
      ((lead.more = 0 ∧ 2 ≤ lead.bits ∧ lead.bits ≤ 31 ∧ b = UInt8.ofNat (lead.bits + 192)) ∨
        (lead.more = 1 ∧ lead.bits ≤ 15 ∧ b = UInt8.ofNat (lead.bits + 224) ∧
          (lead.bits = 0 → 0xA0 ≤ lead.low) ∧ (lead.bits = 13 → lead.high ≤ 0x9F)) ∨
        (lead.more = 2 ∧ lead.bits ≤ 4 ∧ b = UInt8.ofNat (lead.bits + 240) ∧
          (lead.bits = 0 → 0x90 ≤ lead.low) ∧ (lead.bits = 4 → lead.high ≤ 0x8F))) := by
  have hbyte (n : Nat) (hn : b.toNat = n) : b = UInt8.ofNat n := by rw [← hn, UInt8.ofNat_toNat]
  simp only [lead?, Bool.and_eq_true, decide_eq_true_eq, beq_iff_eq] at h
  split_ifs at h <;> obtain rfl := Option.some.inj h <;> dsimp only
  · exact ⟨by omega, by omega, .inl ⟨rfl, by omega, by omega, hbyte _ (by omega)⟩⟩
  · exact ⟨by omega, by omega, .inr (.inl ⟨rfl, by omega, hbyte _ (by omega), by omega, by omega⟩)⟩
  · exact ⟨by omega, by omega, .inr (.inl ⟨rfl, by omega, hbyte _ (by omega), by omega, by omega⟩)⟩
  · exact ⟨by omega, by omega, .inr (.inl ⟨rfl, by omega, hbyte _ (by omega), by omega, by omega⟩)⟩
  · exact ⟨by omega, by omega, .inr (.inr ⟨rfl, by omega, hbyte _ (by omega), by omega, by omega⟩)⟩
  · exact ⟨by omega, by omega, .inr (.inr ⟨rfl, by omega, hbyte _ (by omega), by omega, by omega⟩)⟩
  · exact ⟨by omega, by omega, .inr (.inr ⟨rfl, by omega, hbyte _ (by omega), by omega, by omega⟩)⟩

/-- Bytes that are read as a code point, from the lead byte on, are those of its character. -/
lemma eq_utf8EncodeChar_of_tail {b : UInt8} {lead : Lead} (hlead : lead? b = some lead) {r n : Nat}
    (hr : r < 64) (hlow : lead.low ≤ r + 128) (hhigh : r + 128 ≤ lead.high) {rest left : List UInt8}
    (h : tail (lead.bits * 64 + r) lead.more rest = (some n, left)) :
    b :: UInt8.ofNat (r + 128) :: rest = String.utf8EncodeChar (Char.ofNat n) ++ left := by
  obtain ⟨-, -, ⟨hmore, hq, hq', rfl⟩ | ⟨hmore, hq, rfl, hzero, hlast⟩ |
    ⟨hmore, hq, rfl, hzero, hlast⟩⟩ := lead?_eq_some hlead <;> rw [hmore] at h
  · obtain ⟨rfl, rfl⟩ := tail_zero_eq_some h
    rw [utf8EncodeChar_two hq hq' hr]
    rfl
  · obtain ⟨s, hs, rest, rfl, hthird⟩ := tail_succ_eq_some h
    obtain ⟨rfl, rfl⟩ := tail_zero_eq_some hthird
    rw [utf8EncodeChar_three hq (by omega) (by omega) hr hs]
    rfl
  · obtain ⟨s, hs, rest, rfl, hthird⟩ := tail_succ_eq_some h
    obtain ⟨t, ht, rest, rfl, hfourth⟩ := tail_succ_eq_some hthird
    obtain ⟨rfl, rfl⟩ := tail_zero_eq_some hfourth
    rw [utf8EncodeChar_four hq (by omega) (by omega) hr hs ht]
    rfl

/-- What is read as a character are the bytes of the character. -/
lemma eq_utf8EncodeChar_of_step {b : UInt8} {rest left : List UInt8} {c : Char}
    (h : step b rest = (some c, left)) : b :: rest = String.utf8EncodeChar c ++ left := by
  rw [step.eq_def] at h
  split at h
  · next hascii =>
    obtain ⟨hc, rfl⟩ := Prod.mk.inj h
    obtain rfl := Option.some.inj hc
    rw [utf8EncodeChar_one hascii, UInt8.ofNat_toNat, List.singleton_append]
  split at h
  · next lead second rest hlead =>
    split at h
    · next htail =>
      obtain ⟨hbelow, habove, -⟩ := lead?_eq_some hlead
      obtain ⟨r, hr, rfl, hlow, hhigh⟩ := exists_of_inTail hbelow habove htail
      rw [toNat_ofNat (by omega), Nat.add_sub_cancel] at h
      obtain ⟨hc, rfl⟩ := Prod.mk.inj h
      obtain ⟨n, hn, rfl⟩ := Option.map_eq_some_iff.mp hc
      exact eq_utf8EncodeChar_of_tail hlead hr hlow hhigh (Prod.ext hn rfl)
    · exact absurd h (by simp)
  · exact absurd h (by simp)

/-! ### Texts -/

lemma bytesOf_eq (s : String) : bytesOf s = s.toList.flatMap String.utf8EncodeChar := by
  obtain ⟨l, rfl⟩ : ∃ l, s = String.ofList l := ⟨s.toList, String.ofList_toList.symm⟩
  simp [bytesOf, List.utf8Encode]

lemma characters_flatMap (s : List Char) :
    characters (s.flatMap String.utf8EncodeChar) = s.map some := by
  induction s with
  | nil => rw [List.flatMap_nil, characters, List.map_nil]
  | cons c s ih =>
    obtain ⟨b, t, hc, hstep⟩ := step_utf8EncodeChar c (s.flatMap String.utf8EncodeChar)
    rw [List.flatMap_cons, hc, List.cons_append, characters, hstep, ih, List.map_cons]

lemma eq_flatMap_of_characters {bytes : List UInt8} {s : List Char}
    (h : characters bytes = s.map some) : bytes = s.flatMap String.utf8EncodeChar := by
  fun_induction characters bytes generalizing s with
  | case1 =>
    obtain rfl := List.map_eq_nil_iff.mp h.symm
    rfl
  | case2 b rest ih =>
    obtain ⟨c, s, rfl, hc, hs⟩ := List.map_eq_cons_iff.mp h.symm
    have hstep : step b rest = (some c, (step b rest).2) := Prod.ext hc.symm rfl
    rw [List.flatMap_cons, ← ih hs.symm]
    exact eq_utf8EncodeChar_of_step hstep

lemma mapM_id_eq_some_iff {l : List (Option Char)} {s : List Char} :
    l.mapM id = some s ↔ l = s.map some := by
  induction l generalizing s with
  | nil => cases s <;> simp
  | cons a l ih =>
    cases a with
    | none => cases s <;> simp [List.mapM_cons]
    | some c =>
      have hstep : (some c :: l).mapM id = (l.mapM id).map (c :: ·) := by
        rw [List.mapM_cons]
        cases l.mapM id <;> rfl
      rw [hstep, Option.map_eq_some_iff]
      constructor
      · rintro ⟨chars, hchars, rfl⟩
        rw [ih.mp hchars, List.map_cons]
      · intro h
        obtain ⟨d, chars, rfl, hd, hchars⟩ := List.map_eq_cons_iff.mp h.symm
        obtain rfl := Option.some.inj hd
        exact ⟨chars, ih.mpr hchars.symm, rfl⟩

/-- Bytes stand for a text just if they are the bytes of the text. -/
theorem decode?_eq_some_iff {bytes : List UInt8} {s : String} :
    decode? bytes = some s ↔ bytes = bytesOf s := by
  rw [bytesOf_eq]
  constructor
  · intro h
    obtain ⟨chars, hchars, rfl⟩ := Option.map_eq_some_iff.mp h
    rw [String.toList_ofList]
    exact eq_flatMap_of_characters (mapM_id_eq_some_iff.mp hchars)
  · rintro rfl
    rw [decode?, mapM_id_eq_some_iff.mpr (characters_flatMap s.toList), Option.map_some,
      String.ofList_toList]

/-- The bytes of a text stand for the text. -/
lemma decode?_bytesOf (s : String) : decode? (bytesOf s) = some s := decode?_eq_some_iff.mpr rfl

lemma bytesOf_injective : Function.Injective bytesOf := by
  intro s t h
  have hdecode := congrArg decode? h
  rw [decode?_bytesOf, decode?_bytesOf] at hdecode
  exact Option.some.inj hdecode

end DataDictionary.Text.Utf8
