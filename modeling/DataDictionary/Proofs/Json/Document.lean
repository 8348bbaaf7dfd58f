import DataDictionary.Json.Reader
import DataDictionary.Json.Writer
import DataDictionary.Proofs.Json.Number

/-!
# Documents that are read back

What is written with indentation is read as the value that it was written from, if the numbers in
it are. Reading is bounded by the length of the text, which is never less than what the nesting and
the lists of the value call for.
-/

namespace DataDictionary.Json

open Text

/-! ### Texts -/

lemma hexValue_hexDigit : ∀ n < 16, hexValue (hexDigit n) = some n := by decide

lemma charOf?_toNat (c : Char) : charOf? c.toNat = some c := by
  rw [charOf?, if_pos (show c.toNat.isValidChar from c.valid), Char.ofNat_toNat]

/-- A control character is written by its number, which is no half of a surrogate pair. -/
lemma readText_number {c : Char} (hc : c.toNat < 0x20) (rest : List Char) :
    readText ('\\' :: 'u' :: '0' :: '0' :: hexDigit (c.toNat / 16) :: hexDigit (c.toNat % 16)
      :: rest) = (readText rest).map (consChar (some c)) := by
  have hunit : hexUnit '0' '0' (hexDigit (c.toNat / 16)) (hexDigit (c.toNat % 16))
      = some c.toNat := by
    have hzero : hexValue '0' = some 0 := by decide
    simp only [hexUnit, hzero, hexValue_hexDigit _ (show c.toNat / 16 < 16 by omega),
      hexValue_hexDigit _ (show c.toNat % 16 < 16 by omega), bind, Option.bind]
    congr 1
    omega
  have hhigh : isHighSurrogate c.toNat = false := by
    simp [isHighSurrogate]
    omega
  rw [readText, hunit]
  cases lowUnit? rest with
  | none => simp only [charOf?_toNat]
  | some low => simp [hhigh, charOf?_toNat]

lemma readText_plain {c : Char} (hquote : c ≠ '"') (hslash : c ≠ '\\') (hc : ¬ c.toNat < 0x20)
    (rest : List Char) : readText (c :: rest) = (readText rest).map (consChar (some c)) := by
  rw [readText.eq_def]
  split
  · next heq => exact absurd heq (by simp)
  · next heq => exact absurd (List.cons.inj heq).1 hquote
  · next heq => exact absurd (List.cons.inj heq).1 hslash
  · next heq => exact absurd (List.cons.inj heq).1 hslash
  · next heq =>
    obtain ⟨rfl, rfl⟩ := List.cons.inj heq
    simp [hc, hslash]

/-- A character is read as it was written. -/
lemma readText_escaped (c : Char) (rest : List Char) :
    readText (escaped c ++ rest) = (readText rest).map (consChar (some c)) := by
  rw [escaped.eq_def]
  split
  · simp [readText, unescape?]
  · simp [readText, unescape?]
  · simp [readText, unescape?]
  · simp [readText, unescape?]
  · simp [readText, unescape?]
  · simp [readText, unescape?]
  · simp [readText, unescape?]
  · next hquote hslash _ _ _ _ _ =>
    split
    · next hc => exact readText_number hc rest
    · next hc => exact readText_plain hquote hslash hc rest

lemma readText_flatMap_escaped (s rest : List Char) :
    readText (s.flatMap escaped ++ '"' :: rest) = some (some s, rest) := by
  induction s with
  | nil => simp [readText]
  | cons c s ih =>
    rw [List.flatMap_cons, List.append_assoc, readText_escaped, ih]
    rfl

/-- A text in quotes is read as it was written. -/
theorem readText_quoted (s : String) (rest : List Char) :
    ∃ t, quoted s ++ rest = '"' :: t ∧ readText t = some (some s.toList, rest) :=
  ⟨s.toList.flatMap escaped ++ '"' :: rest, by simp [quoted], readText_flatMap_escaped _ _⟩

/-! ### White space -/

lemma skipSpace_cons {c : Char} (h : isSpace c = false) (s : List Char) :
    skipSpace (c :: s) = c :: s := by
  simp [skipSpace, h]

lemma skipSpace_newline (depth : Nat) (s : List Char) :
    skipSpace (newline depth ++ s) = skipSpace s := by
  rw [skipSpace, skipSpace, List.dropWhile_append_of_pos]
  intro c hc
  obtain rfl | ⟨-, rfl⟩ := by simpa [newline] using hc
  · rfl
  · rfl

lemma skipSpace_skipSpace (s : List Char) : skipSpace (skipSpace s) = skipSpace s := by
  induction s with
  | nil => rfl
  | cons c s ih =>
    cases hc : isSpace c with
    | true => rwa [show skipSpace (c :: s) = skipSpace s by simp [skipSpace, hc]]
    | false => rw [skipSpace_cons hc, skipSpace_cons hc]

lemma readValue_skipSpace (fuel : Nat) (s : List Char) :
    readValue fuel (skipSpace s) = readValue fuel s := by
  cases fuel with
  | zero => simp only [readValue]
  | succ fuel => simp only [readValue, skipSpace_skipSpace]

lemma readItems_skipSpace (fuel : Nat) (s : List Char) :
    readItems fuel (skipSpace s) = readItems fuel s := by
  cases fuel with
  | zero => simp only [readItems]
  | succ fuel => simp only [readItems, readValue_skipSpace]

lemma readMembers_skipSpace (fuel : Nat) (s : List Char) :
    readMembers fuel (skipSpace s) = readMembers fuel s := by
  cases fuel with
  | zero => simp only [readMembers]
  | succ fuel => simp only [readMembers, skipSpace_skipSpace]

/-! ### Values -/

/-- All numbers of the value are read as they are written, and every text stands for itself. -/
inductive Readable : Json → Prop
  | null : Readable .null
  | bool (b : Bool) : Readable (.bool b)
  | number {n : Number} : readNumber n.chars = some (n, []) → Readable (.number n)
  | string (s : String) : Readable (.string s)
  | array {items : List Json} : (∀ item ∈ items, Readable item) → Readable (.array items)
  | object {members : List (String × Json)} :
    (∀ member ∈ members, Readable member.2) → Readable (.object members)

/-- The value is read from the front of a text, at any depth. -/
def ReadsBack (value : Json) : Prop :=
  ∀ (depth fuel : Nat) (rest : List Char), (indentedChars depth value).length < fuel →
    EndsNumber rest → readValue fuel (indentedChars depth value ++ rest) = some (value, rest)

/-- What the parts of a document other than numbers start with. -/
def markers : List Char := [' ', '\n', '\t', '\r', 'n', 't', 'f', '"', '[', '{', ']']

lemma ne_of_mem_markers {c d : Char} (hc : c = '-' ∨ Binary64.isDigit c = true)
    (hd : d ∈ markers) : c ≠ d := by
  have hmarkers : markers.all (fun d => d != '-' && !Binary64.isDigit d) = true := by decide
  rintro rfl
  have hne := List.all_eq_true.mp hmarkers c hd
  simp only [Bool.and_eq_true, bne_iff_ne, Bool.not_eq_true'] at hne
  rcases hc with hc | hc
  · exact hne.1 hc
  · exact absurd hc (by simp [hne.2])

lemma isSpace_eq_false {c : Char} (h : ∀ d ∈ markers, c ≠ d) : isSpace c = false := by
  simp only [markers, List.forall_mem_cons] at h
  simp [isSpace, h]

/-- A number is told from the start of any other value. -/
lemma readValue_number {c : Char} {s : List Char} (hc : c = '-' ∨ Binary64.isDigit c = true)
    (fuel : Nat) :
    readValue (fuel + 1) (c :: s) = (readNumber (c :: s)).map fun p => (.number p.1, p.2) := by
  have hne : ∀ d ∈ markers, c ≠ d := fun d hd => ne_of_mem_markers hc hd
  rw [readValue, skipSpace_cons (isSpace_eq_false hne)]
  split
  · exact absurd (List.cons.inj ‹_›).1 (hne _ (by decide))
  · exact absurd (List.cons.inj ‹_›).1 (hne _ (by decide))
  · exact absurd (List.cons.inj ‹_›).1 (hne _ (by decide))
  · exact absurd (List.cons.inj ‹_›).1 (hne _ (by decide))
  · exact absurd (List.cons.inj ‹_›).1 (hne _ (by decide))
  · exact absurd (List.cons.inj ‹_›).1 (hne _ (by decide))
  · rfl

/-- A value starts with neither white space nor the bracket that closes a list. -/
lemma Readable.exists_cons {value : Json} (h : Readable value) (depth : Nat) :
    ∃ c s, indentedChars depth value = c :: s ∧ isSpace c = false ∧ c ≠ ']' := by
  cases h with
  | null => exact ⟨'n', _, by simp [indentedChars]; rfl, by decide, by decide⟩
  | bool b => cases b with
    | true => exact ⟨'t', _, by simp [indentedChars]; rfl, by decide, by decide⟩
    | false => exact ⟨'f', _, by simp [indentedChars]; rfl, by decide, by decide⟩
  | @number n h =>
    rw [indentedChars]
    match hn : n.chars with
    | [] => exact absurd h (by simp [hn, readNumber, readUnsigned])
    | c :: s =>
      have hc : ∀ d ∈ markers, c ≠ d := fun d hd =>
        ne_of_mem_markers (head_of_readNumber (hn ▸ h)) hd
      exact ⟨c, s, rfl, isSpace_eq_false hc, hc ']' (by decide)⟩
  | string s => exact ⟨'"', _, by rw [indentedChars, quoted]; rfl, by decide, by decide⟩
  | @array items h =>
    refine ⟨'[', ?_⟩
    cases items <;> simp [indentedChars, isSpace]
  | @object members h =>
    refine ⟨'{', ?_⟩
    cases members <;> simp [indentedChars, isSpace]

/-! ### Lists and objects -/

lemma indentedItems_cons (depth : Nat) (item : Json) {items : List Json} (h : items ≠ []) :
    indentedItems depth (item :: items) =
      newline depth ++ indentedChars depth item ++ ',' :: indentedItems depth items := by
  cases items with
  | nil => exact absurd rfl h
  | cons next items => rw [indentedItems]; exact List.cons_ne_nil next items

lemma indentedMembers_cons (depth : Nat) (member : String × Json) {members : List (String × Json)}
    (h : members ≠ []) :
    indentedMembers depth (member :: members) =
      newline depth ++ quoted member.1 ++ ':' :: ' ' :: indentedChars depth member.2 ++
        ',' :: indentedMembers depth members := by
  cases members with
  | nil => exact absurd rfl h
  | cons next members => rw [indentedMembers]; exact List.cons_ne_nil next members

lemma readItems_newline (fuel depth : Nat) (s : List Char) :
    readItems fuel (newline depth ++ s) = readItems fuel s := by
  rw [← readItems_skipSpace, skipSpace_newline, readItems_skipSpace]

lemma readMembers_newline (fuel depth : Nat) (s : List Char) :
    readMembers fuel (newline depth ++ s) = readMembers fuel s := by
  rw [← readMembers_skipSpace, skipSpace_newline, readMembers_skipSpace]

/-- The items of a list are read one by one up to its bracket. -/
lemma readItems_indentedItems {items : List Json} (hne : items ≠ [])
    (h : ∀ item ∈ items, ReadsBack item) (depth outer fuel : Nat) (rest : List Char)
    (hfuel : (indentedItems depth items).length < fuel) :
    readItems fuel (indentedItems depth items ++ (newline outer ++ ']' :: rest)) =
      some (items, rest) := by
  induction items generalizing fuel with
  | nil => exact absurd rfl hne
  | cons item items ih =>
    obtain ⟨fuel, rfl⟩ : ∃ n, fuel = n + 1 := ⟨fuel - 1, by omega⟩
    have hitem := h item (List.mem_cons_self ..) depth fuel
    by_cases hitems : items = []
    · subst hitems
      simp only [indentedItems, newline, List.length_append, List.length_cons] at hfuel
      have hend : EndsNumber (newline outer ++ ']' :: rest) := endsNumber_cons (by decide)
      rw [indentedItems, List.append_assoc, readItems_newline, readItems,
        hitem _ (by omega) hend]
      simp [skipSpace_newline, skipSpace_cons (show isSpace ']' = false by decide)]
    · rw [indentedItems_cons depth item hitems] at hfuel ⊢
      simp only [List.length_append, List.length_cons] at hfuel
      have ih := ih hitems (fun item hitem => h item (List.mem_cons_of_mem _ hitem)) fuel (by omega)
      rw [List.append_assoc, List.append_assoc, List.cons_append, readItems_newline, readItems,
        hitem _ (by omega) (endsNumber_cons (by decide))]
      simp only [skipSpace_cons (show isSpace ',' = false by decide), ih]
      rfl

/-- What is read of an object behind a member, up to its brace. -/
def readBehindMember (fuel : Nat) (member : String × Json) :
    List Char → Option (List (Option String × Json) × List Char)
  | ',' :: rest => (readMembers fuel rest).map fun p => ((some member.1, member.2) :: p.1, p.2)
  | '}' :: rest => some ([(some member.1, member.2)], rest)
  | _ => none

/-- A member is read up to what ends it. -/
lemma readMembers_member {member : String × Json} (h : ReadsBack member.2) {depth fuel : Nat}
    (hfuel : (indentedChars depth member.2).length < fuel) {tail : List Char}
    (htail : EndsNumber tail) :
    readMembers (fuel + 1)
        (newline depth ++ quoted member.1 ++ ':' :: ' ' :: indentedChars depth member.2 ++ tail) =
      readBehindMember fuel member (skipSpace tail) := by
  have hvalue : readValue fuel (' ' :: (indentedChars depth member.2 ++ tail)) =
      some (member.2, tail) := by
    rw [← h depth fuel tail hfuel htail, ← readValue_skipSpace,
      ← readValue_skipSpace fuel (_ ++ _)]
    rfl
  obtain ⟨t, hkey, hread⟩ :=
    readText_quoted member.1 (':' :: ' ' :: (indentedChars depth member.2 ++ tail))
  rw [List.append_assoc, List.append_assoc, readMembers_newline, List.cons_append,
    List.cons_append, hkey, readMembers, skipSpace_cons (by decide)]
  simp only [hread, skipSpace_cons (show isSpace ':' = false by decide), hvalue, Option.map_some,
    String.ofList_toList]
  rfl

/-- The members of an object are read one by one up to its brace. -/
lemma readMembers_indentedMembers {members : List (String × Json)} (hne : members ≠ [])
    (h : ∀ member ∈ members, ReadsBack member.2) (depth outer fuel : Nat) (rest : List Char)
    (hfuel : (indentedMembers depth members).length < fuel) :
    readMembers fuel (indentedMembers depth members ++ (newline outer ++ '}' :: rest)) =
      some (members.map fun member => (some member.1, member.2), rest) := by
  induction members generalizing fuel with
  | nil => exact absurd rfl hne
  | cons member members ih =>
    obtain ⟨fuel, rfl⟩ : ∃ n, fuel = n + 1 := ⟨fuel - 1, by omega⟩
    have hmember := h member (List.mem_cons_self ..)
    by_cases hmembers : members = []
    · subst hmembers
      simp only [indentedMembers, newline, List.length_append, List.length_cons] at hfuel
      have hend : EndsNumber (newline outer ++ '}' :: rest) := endsNumber_cons (by decide)
      rw [indentedMembers, readMembers_member hmember (by omega) hend, skipSpace_newline,
        skipSpace_cons (by decide), readBehindMember]
      rfl
    · rw [indentedMembers_cons depth member hmembers] at hfuel ⊢
      simp only [List.length_append, List.length_cons] at hfuel
      have ih := ih hmembers (fun member hmember => h member (List.mem_cons_of_mem _ hmember)) fuel
        (by omega)
      rw [List.append_assoc, List.cons_append,
        readMembers_member hmember (by omega) (endsNumber_cons (by decide)),
        skipSpace_cons (by decide), readBehindMember, ih]
      rfl

lemma ofMembers_map_some (members : List (String × Json)) :
    ofMembers (members.map fun member => (some member.1, member.2)) = .object members := by
  have hmapM : (members.map fun member => (some member.1, member.2)).mapM
      (fun member : Option String × Json => member.1.map (·, member.2)) = some members := by
    induction members with
    | nil => rfl
    | cons member members ih => simp [ih]
  rw [ofMembers]
  split
  · next heq => exact congrArg Json.object (Option.some.inj (heq.symm.trans hmapM))
  · next heq => exact absurd (heq.symm.trans hmapM) (by simp)

lemma readValue_array {c : Char} {s t : List Char} (hs : skipSpace s = c :: t) (hc : c ≠ ']')
    (fuel : Nat) :
    readValue (fuel + 1) ('[' :: s) = (readItems fuel s).map fun p => (.array p.1, p.2) := by
  rw [← readItems_skipSpace fuel s, hs, readValue, skipSpace_cons (by decide)]
  simp only [hs]
  split
  · exact absurd (List.cons.inj ‹_›).1 hc
  · rfl

lemma readValue_object {c : Char} {s t : List Char} (hs : skipSpace s = c :: t) (hc : c ≠ '}')
    (fuel : Nat) :
    readValue (fuel + 1) ('{' :: s) =
      (readMembers fuel s).map fun p => (ofMembers p.1, p.2) := by
  rw [← readMembers_skipSpace fuel s, hs, readValue, skipSpace_cons (by decide)]
  simp only [hs]
  split
  · exact absurd (List.cons.inj ‹_›).1 hc
  · rfl

lemma skipSpace_indentedItems {item : Json} (h : Readable item) (items : List Json)
    (depth : Nat) (s : List Char) :
    ∃ c t, skipSpace (indentedItems depth (item :: items) ++ s) = c :: t ∧ c ≠ ']' := by
  obtain ⟨c, t, ht, hspace, hbracket⟩ := h.exists_cons depth
  by_cases hitems : items = []
  · subst hitems
    rw [indentedItems, List.append_assoc, skipSpace_newline, ht, List.cons_append,
      skipSpace_cons hspace]
    exact ⟨c, _, rfl, hbracket⟩
  · rw [indentedItems_cons depth item hitems, List.append_assoc, List.append_assoc,
      skipSpace_newline, ht, List.cons_append, skipSpace_cons hspace]
    exact ⟨c, _, rfl, hbracket⟩

lemma skipSpace_indentedMembers (member : String × Json) (members : List (String × Json))
    (depth : Nat) (s : List Char) :
    ∃ t, skipSpace (indentedMembers depth (member :: members) ++ s) = '"' :: t := by
  by_cases hmembers : members = []
  · subst hmembers
    rw [indentedMembers, List.append_assoc, List.append_assoc, skipSpace_newline, quoted,
      List.cons_append, List.cons_append, skipSpace_cons (by decide)]
    exact ⟨_, rfl⟩
  · rw [indentedMembers_cons depth member hmembers, List.append_assoc, List.append_assoc,
      List.append_assoc, skipSpace_newline, quoted, List.cons_append, List.cons_append,
      skipSpace_cons (by decide)]
    exact ⟨_, rfl⟩

/-! ### Documents -/

lemma readsBack_of_succ {value : Json}
    (h : ∀ (depth fuel : Nat) (rest : List Char), (indentedChars depth value).length ≤ fuel →
      EndsNumber rest →
        readValue (fuel + 1) (indentedChars depth value ++ rest) = some (value, rest)) :
    ReadsBack value := by
  rintro depth (_ | fuel) rest hfuel hrest
  · exact absurd hfuel (Nat.not_lt_zero _)
  · exact h depth fuel rest (Nat.le_of_lt_succ hfuel) hrest

/-- A readable value is read from the front of any text that does not go on with a number. -/
theorem Readable.readsBack {value : Json} (h : Readable value) : ReadsBack value := by
  induction h with
  | null =>
    refine readsBack_of_succ fun depth fuel rest hfuel hrest => ?_
    simp [indentedChars, readValue, skipSpace, isSpace]
  | bool b =>
    refine readsBack_of_succ fun depth fuel rest hfuel hrest => ?_
    cases b <;> simp [indentedChars, readValue, skipSpace, isSpace]
  | @number n h =>
    refine readsBack_of_succ fun depth fuel rest hfuel hrest => ?_
    obtain ⟨c, s, hn, hc⟩ : ∃ c s, n.chars = c :: s ∧ (c = '-' ∨ Binary64.isDigit c = true) := by
      match hn : n.chars with
      | [] => exact absurd h (by simp [hn, readNumber, readUnsigned])
      | c :: s => exact ⟨c, s, rfl, head_of_readNumber (hn ▸ h)⟩
    rw [indentedChars, hn, List.cons_append, readValue_number hc, ← List.cons_append, ← hn,
      readNumber_append hrest h]
    rfl
  | string s =>
    refine readsBack_of_succ fun depth fuel rest hfuel hrest => ?_
    obtain ⟨t, hs, hread⟩ := readText_quoted s rest
    rw [indentedChars, hs, readValue, skipSpace_cons (by decide)]
    simp [hread, ofText]
  | @array items hitems ih =>
    refine readsBack_of_succ fun depth fuel rest hfuel hrest => ?_
    cases items with
    | nil => simp [indentedChars, readValue, skipSpace, isSpace]
    | cons item items =>
      rw [indentedChars] at hfuel ⊢
      simp only [List.length_append, List.length_cons] at hfuel
      obtain ⟨c, t, ht, hc⟩ := skipSpace_indentedItems (hitems item (List.mem_cons_self ..)) items
        (depth + 1) (newline depth ++ ']' :: rest)
      have hread := readItems_indentedItems (List.cons_ne_nil item items) ih (depth + 1) depth fuel
        rest (by omega)
      rw [List.append_assoc, List.cons_append, List.cons_append, List.append_assoc,
        List.singleton_append, readValue_array ht hc, hread]
      rfl
  | @object members hmembers ih =>
    refine readsBack_of_succ fun depth fuel rest hfuel hrest => ?_
    cases members with
    | nil => simp [indentedChars, readValue, skipSpace, isSpace]
    | cons member members =>
      rw [indentedChars] at hfuel ⊢
      simp only [List.length_append, List.length_cons] at hfuel
      obtain ⟨t, ht⟩ := skipSpace_indentedMembers member members (depth + 1)
        (newline depth ++ '}' :: rest)
      have hread := readMembers_indentedMembers (List.cons_ne_nil member members) ih (depth + 1)
        depth fuel rest (by omega)
      rw [List.append_assoc, List.cons_append, List.cons_append, List.append_assoc,
        List.singleton_append, readValue_object ht (by decide), hread]
      exact congrArg (fun value => some (value, rest)) (ofMembers_map_some (member :: members))

/-- The text of a readable value is read as that value. -/
theorem read?_indented {value : Json} (h : Readable value) :
    read? value.indented.toList = some value := by
  have hread := h.readsBack 0 (2 * (indentedChars 0 value).length + 2) [] (by omega) endsNumber_nil
  rw [List.append_nil] at hread
  rw [indented, String.toList_ofList, read?, hread]
  rfl

end DataDictionary.Json
