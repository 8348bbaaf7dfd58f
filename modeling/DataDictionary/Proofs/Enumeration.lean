import DataDictionary.Enumeration
import DataDictionary.Proofs.Text.Blank
import DataDictionary.Proofs.Text.Split
import DataDictionary.Proofs.Upsert

/-!
# Labels and keys

Between commas a comment gives one key and one label, with an arrow between them, and both may
stand in quotation marks. A mapping that is written so is read back: its keys in the order in which
they first come, each with its last label. White space is dropped in front of the quotation marks
and not between them. So a key may start or end with white space if it was written in quotation
marks, and then it is not found by its own text; and a label may be nothing but white space.
-/

namespace DataDictionary.Enumeration

open Text

/-! ### Quotation marks -/

/-- Nothing, or a single quotation mark. -/
inductive IsMark : List Char → Prop where
  | none : IsMark []
  | quote {q : Char} (hq : isQuote q = true) : IsMark [q]

lemma isBlank_of_isQuote {c : Char} (h : isQuote c = true) : isBlank c = false := by
  rw [isQuote, Bool.or_eq_true, beq_iff_eq, beq_iff_eq] at h
  rcases h with rfl | rfl <;> decide

lemma dropQuote_of_head {s : List Char} (h : ∀ c ∈ s.head?, isQuote c = false) :
    dropQuote s = s := by
  cases s with
  | nil => rfl
  | cons c rest => simp [dropQuote, h c rfl]

lemma exists_eq_dropQuote (s : List Char) : ∃ mark, IsMark mark ∧ s = mark ++ dropQuote s := by
  cases s with
  | nil => exact ⟨[], .none, rfl⟩
  | cons c rest =>
    rw [dropQuote]
    split
    · next hc => exact ⟨[c], .quote hc, rfl⟩
    · exact ⟨[], .none, rfl⟩

namespace IsMark

variable {mark : List Char}

lemma trim_eq (h : IsMark mark) : trim mark = mark := by
  cases h with
  | none => rfl
  | quote hq =>
    exact trim_eq_self (by simpa using isBlank_of_isQuote hq) (by simpa using isBlank_of_isQuote hq)

lemma reverse_eq (h : IsMark mark) : mark.reverse = mark := by
  cases h <;> rfl

end IsMark

/-- What is left of a text stands between what is dropped of it. -/
lemma exists_trim_eq_unquote (s : List Char) :
    ∃ opening closing, IsMark opening ∧ IsMark closing ∧
      trim s = opening ++ unquote s ++ closing := by
  obtain ⟨opening, hopening, hstart⟩ := exists_eq_dropQuote (trim s)
  obtain ⟨closing, hclosing, hend⟩ := exists_eq_dropQuote (dropQuote (trim s)).reverse
  refine ⟨opening, closing, hopening, hclosing, ?_⟩
  have hrest : dropQuote (trim s) = unquote s ++ closing := by
    rw [unquote, ← hclosing.reverse_eq, ← List.reverse_append, ← hend, List.reverse_reverse]
  rw [List.append_assoc, ← hrest]
  exact hstart

/-- A text that starts or ends with white space when its quotation marks are dropped has one next to
it. -/
lemma exists_quote_of_trim_ne {s : List Char} (h : trim (unquote s) ≠ unquote s) :
    ∃ q, isQuote q = true ∧ (q :: unquote s <:+: s ∨ unquote s ++ [q] <:+: s) := by
  obtain ⟨opening, closing, hopening, hclosing, htrim⟩ := exists_trim_eq_unquote s
  have hwithin := (padded_trim s).isInfix
  rw [htrim] at hwithin
  cases hopening with
  | quote hq => exact ⟨_, hq, .inl ((List.prefix_append _ closing).isInfix.trans hwithin)⟩
  | none =>
    cases hclosing with
    | quote hq => exact ⟨_, hq, .inr hwithin⟩
    | none =>
      rw [List.nil_append, List.append_nil] at htrim
      rw [← htrim, trim_trim] at h
      exact absurd rfl h

/-- If nothing but white space is left of a text, it stands between two quotation marks. -/
lemma exists_quotes_of_trim_eq_nil {s : List Char} (hne : unquote s ≠ [])
    (h : trim (unquote s) = []) :
    ∃ q q', isQuote q = true ∧ isQuote q' = true ∧ q :: (unquote s ++ [q']) <:+: s := by
  obtain ⟨opening, closing, hopening, hclosing, htrim⟩ := exists_trim_eq_unquote s
  have hblank := (trim_eq_nil_iff _).mp h
  have hfixed := trim_trim s
  rw [htrim] at hfixed
  -- a trimmed text has no white space at an end, so there is a mark at either one
  cases hopening with
  | none =>
    rw [List.nil_append, trim_append_left_of_blank hblank, hclosing.trim_eq] at hfixed
    exact absurd (List.self_eq_append_left.mp hfixed) hne
  | quote hq =>
    cases hclosing with
    | none =>
      rw [List.append_nil, trim_append_of_blank hblank, (IsMark.quote hq).trim_eq] at hfixed
      exact absurd (List.self_eq_append_right.mp hfixed) hne
    | quote hq' =>
      refine ⟨_, _, hq, hq', ?_⟩
      have hwithin := (padded_trim s).isInfix
      rw [htrim] at hwithin
      exact hwithin

/-! ### Written sides -/

/-- The text neither starts nor ends with white space or a quotation mark. -/
structure IsBare (s : List Char) : Prop where
  head : ∀ c ∈ s.head?, isBlank c = false ∧ isQuote c = false
  last : ∀ c ∈ s.getLast?, isBlank c = false ∧ isQuote c = false

instance (s : List Char) : Decidable (IsBare s) :=
  decidable_of_iff
    (s.head?.all (fun c => !isBlank c && !isQuote c) = true ∧
      s.getLast?.all (fun c => !isBlank c && !isQuote c) = true)
    (by simp only [Option.all_eq_true, Bool.and_eq_true, Bool.not_eq_true']
        exact ⟨fun h => ⟨h.1, h.2⟩, fun h => ⟨h.head, h.last⟩⟩)

/-- The ways to write a text on one side of an arrow. In quotation marks it may start and end with
any character. -/
inductive WritesSide (s : List Char) : List Char → Prop where
  | plain {w : List Char} (hs : IsBare s) (hw : Padded s w) : WritesSide s w
  | quoted {q : Char} {w : List Char} (hq : isQuote q = true) (hw : Padded (q :: (s ++ [q])) w) :
    WritesSide s w

lemma IsBare.unquote_eq {s w : List Char} (hs : IsBare s) (hw : Padded s w) : unquote w = s := by
  have htrim : trim w = s := by
    rw [hw.trim_eq]
    exact trim_eq_self (fun c hc => (hs.head c hc).1) (fun c hc => (hs.last c hc).1)
  have hlast : ∀ c ∈ s.reverse.head?, isQuote c = false := by
    rw [List.head?_reverse]
    exact fun c hc => (hs.last c hc).2
  rw [unquote, htrim, dropQuote_of_head (fun c hc => (hs.head c hc).2), dropQuote_of_head hlast,
    List.reverse_reverse]

lemma unquote_of_quoted {q : Char} {s w : List Char} (hq : isQuote q = true)
    (hw : Padded (q :: (s ++ [q])) w) : unquote w = s := by
  have htrim : trim w = q :: (s ++ [q]) := by
    rw [hw.trim_eq]
    refine trim_eq_self ?_ ?_
    · simpa using isBlank_of_isQuote hq
    · rw [← List.cons_append, List.getLast?_concat]
      simpa using isBlank_of_isQuote hq
  rw [unquote, htrim, dropQuote, if_pos hq, List.reverse_append, List.reverse_singleton,
    List.singleton_append, dropQuote, if_pos hq, List.reverse_reverse]

namespace WritesSide

variable {s w : List Char}

/-- A written text is read back. -/
lemma unquote_eq (h : WritesSide s w) : unquote w = s := by
  cases h with
  | plain hs hw => exact hs.unquote_eq hw
  | quoted hq hw => exact unquote_of_quoted hq hw

/-- White space and quotation marks are put around a text, and nothing else. -/
lemma exists_around (h : WritesSide s w) :
    ∃ before after, w = before ++ s ++ after ∧
      ∀ c, isBlank c = false → isQuote c = false → c ∉ before ∧ c ∉ after := by
  cases h with
  | plain hs hw =>
    obtain ⟨before, after, hbefore, hafter, rfl⟩ := hw
    exact ⟨before, after, rfl,
      fun c hc _ => ⟨notMem_of_blank hbefore hc, notMem_of_blank hafter hc⟩⟩
  | @quoted q w hq hw =>
    obtain ⟨before, after, hbefore, hafter, rfl⟩ := hw
    refine ⟨before ++ [q], q :: after, by simp, ?_⟩
    intro c hc hquote
    have hne : c ≠ q := by
      rintro rfl
      exact Bool.false_ne_true (hquote.symm.trans hq)
    simp [hne, notMem_of_blank hbefore hc, notMem_of_blank hafter hc]

/-- A character other than white space and quotation marks stands in the text itself. -/
lemma notMem (h : WritesSide s w) {c : Char} (hc : isBlank c = false) (hquote : isQuote c = false)
    (hs : c ∉ s) : c ∉ w := by
  obtain ⟨before, after, rfl, hout⟩ := h.exists_around
  obtain ⟨hbefore, hafter⟩ := hout c hc hquote
  simp only [List.mem_append, not_or]
  exact ⟨⟨hbefore, hs⟩, hafter⟩

/-- What is put around a text makes no arrow with it. -/
lemma not_arrow_isInfix (h : WritesSide s w) (hs : ¬ arrow <:+: s) : ¬ arrow <:+: w := by
  obtain ⟨before, after, rfl, hout⟩ := h.exists_around
  have hbefore : '=' ∉ before := (hout '=' (by decide) (by decide)).1
  have hafter : '>' ∉ after := (hout '>' (by decide) (by decide)).2
  intro harrow
  have hstart : ['='] ++ ['>'] <:+: before ++ s := isInfix_of_append_right hafter harrow
  exact hs (isInfix_of_append hbefore hstart)

end WritesSide

/-! ### Written mappings -/

/-- The text can stand on a side of an arrow. -/
structure IsSide (s : String) : Prop where
  ne_empty : s ≠ ""
  comma : ',' ∉ s.toList
  arrow : ¬ arrow <:+: s.toList

instance (s : String) : Decidable (IsSide s) :=
  decidable_of_iff (s ≠ "" ∧ ',' ∉ s.toList ∧ ¬ Enumeration.arrow <:+: s.toList)
    ⟨fun h => ⟨h.1, h.2.1, h.2.2⟩, fun h => ⟨h.ne_empty, h.comma, h.arrow⟩⟩

/-- The part of a comment that gives a key and a label. -/
inductive WritesEntry : String × String → List Char → Prop where
  | intro {key label : String} {w v : List Char} (hkey : WritesSide key.toList w)
    (hlabel : WritesSide label.toList v) : WritesEntry (key, label) (w ++ arrow ++ v)

lemma sides_append {key label : List Char} (hkey : ¬ arrow <:+: key) (hlabel : ¬ arrow <:+: label) :
    sides (key ++ arrow ++ label) = (unquote key, unquote label) := by
  have hcut : cutOn arrow (key ++ arrow ++ label) = some (key, label) :=
    cutOn_append (by decide) hkey label
  have hrest : cutOn arrow label = none := (cutOn_eq_none_iff (by decide)).mpr hlabel
  simp only [sides, hcut, hrest, Option.map_none, Option.getD_none]

lemma entry?_of_sides {part : List Char} {key label : String}
    (h : sides part = (key.toList, label.toList)) (hkey : key ≠ "") (hlabel : label ≠ "") :
    entry? part = some (key, label) := by
  unfold entry?
  rw [h]
  split
  · next hnil => simp_all
  · next hnil => simp_all
  · next heq =>
    obtain ⟨rfl, rfl⟩ := Prod.mk.inj heq
    simp

namespace WritesEntry

variable {entry : String × String} {part : List Char}

lemma entry?_eq (h : WritesEntry entry part) (hkey : IsSide entry.1) (hlabel : IsSide entry.2) :
    entry? part = some entry := by
  cases h with
  | intro hw hv =>
    refine entry?_of_sides ?_ hkey.ne_empty hlabel.ne_empty
    rw [sides_append (hw.not_arrow_isInfix hkey.arrow) (hv.not_arrow_isInfix hlabel.arrow),
      hw.unquote_eq, hv.unquote_eq]

lemma comma_notMem (h : WritesEntry entry part) (hkey : IsSide entry.1) (hlabel : IsSide entry.2) :
    ',' ∉ part := by
  cases h with
  | intro hw hv =>
    have hcomma := hw.notMem (c := ',') (by decide) (by decide) hkey.comma
    have hcomma' := hv.notMem (c := ',') (by decide) (by decide) hlabel.comma
    simp [arrow, hcomma, hcomma']

lemma arrow_isInfix (h : WritesEntry entry part) : arrow <:+: part := by
  cases h with
  | intro hw hv => exact List.infix_append _ _ _

end WritesEntry

lemma filterMap_entry? {entries : List (String × String)} {parts : List (List Char)}
    (h : List.Forall₂ WritesEntry entries parts)
    (hsides : ∀ entry ∈ entries, IsSide entry.1 ∧ IsSide entry.2) :
    parts.filterMap entry? = entries ∧ ∀ part ∈ parts, ',' ∉ part := by
  induction h with
  | nil => simp
  | @cons entry part entries parts hentry _ ih =>
    obtain ⟨hhead, htail⟩ := List.forall_mem_cons.mp hsides
    obtain ⟨hparts, hcomma⟩ := ih htail
    refine ⟨?_, List.forall_mem_cons.mpr ⟨hentry.comma_notMem hhead.1 hhead.2, hcomma⟩⟩
    rw [List.filterMap_cons_some (hentry.entry?_eq hhead.1 hhead.2), hparts]

/-- Entries that are written are put one after the other into the mapping. -/
lemma mapping?_join {entries : List (String × String)} {parts : List (List Char)}
    (hne : entries ≠ []) (h : List.Forall₂ WritesEntry entries parts)
    (hsides : ∀ entry ∈ entries, IsSide entry.1 ∧ IsSide entry.2) :
    mapping? (String.ofList (join [','] parts)) = some (upsertAll Prod.fst entries) := by
  obtain ⟨hentries, hcomma⟩ := filterMap_entry? h hsides
  cases h with
  | nil => exact absurd rfl hne
  | @cons entry part entries parts hentry _ =>
    have harrow : arrow <:+: join [','] (part :: parts) :=
      hentry.arrow_isInfix.trans (isInfix_join (List.mem_cons_self ..))
    rw [mapping?, String.toList_ofList, if_pos (occurs_iff.mpr harrow),
      splitAt_join (List.cons_ne_nil _ _) hcomma, hentries]

/-! ### Any comments -/

lemma mapping?_eq_none_iff {comment : String} :
    mapping? comment = none ↔ ¬ arrow <:+: comment.toList := by
  rw [← occurs_iff, mapping?]
  split <;> simp_all

lemma nodup_keys {comment : String} {mapping : List (String × String)}
    (h : mapping? comment = some mapping) : (mapping.map Prod.fst).Nodup := by
  rw [mapping?] at h
  split at h
  · rw [← Option.some.inj h]
    exact nodup_map_upsertAll _ _
  · cases h

lemma exists_sides (part : List Char) :
    ∃ key label, key <:+: part ∧ label <:+: part ∧ sides part = (unquote key, unquote label) := by
  rw [sides]
  split
  · exact ⟨part, [], List.infix_rfl, List.nil_infix, rfl⟩
  · next key rest hcut =>
    obtain rfl := cutOn_eq_some hcut
    have hkey : key <:+: key ++ arrow ++ rest := by
      rw [List.append_assoc]
      exact (List.prefix_append _ _).isInfix
    have hlabel : ((cutOn arrow rest).map (·.1)).getD rest <:+: rest := by
      cases hnext : cutOn arrow rest with
      | none => exact List.infix_rfl
      | some cut =>
        rw [cutOn_eq_some hnext, List.append_assoc]
        exact (List.prefix_append _ _).isInfix
    exact ⟨key, _, hkey, hlabel.trans (List.suffix_append _ _).isInfix, rfl⟩

/-- A label or a key is part of a text, without its white space and quotation marks. -/
structure IsTakenFrom (source label : String) : Prop where
  ne_empty : label ≠ ""
  exists_eq_unquote : ∃ part, part <:+: source.toList ∧ label.toList = unquote part

lemma isTakenFrom_of_entry? {part : List Char} {entry : String × String}
    (h : entry? part = some entry) {source : String} (hpart : part <:+: source.toList) :
    IsTakenFrom source entry.1 ∧ IsTakenFrom source entry.2 := by
  obtain ⟨key, label, hkey, hlabel, hsides⟩ := exists_sides part
  unfold entry? at h
  rw [hsides] at h
  split at h
  · cases h
  · cases h
  · next hkey' hlabel' heq =>
    obtain ⟨rfl, rfl⟩ := Prod.mk.inj heq
    obtain rfl := Option.some.inj h
    exact ⟨⟨by simpa using hkey', key, hkey.trans hpart, String.toList_ofList⟩,
      ⟨by simpa using hlabel', label, hlabel.trans hpart, String.toList_ofList⟩⟩

lemma isTakenFrom_of_mem_mapping {comment : String} {mapping : List (String × String)}
    (h : mapping? comment = some mapping) {entry : String × String} (hentry : entry ∈ mapping) :
    IsTakenFrom comment entry.1 ∧ IsTakenFrom comment entry.2 := by
  rw [mapping?] at h
  split at h
  · rw [← Option.some.inj h] at hentry
    obtain ⟨part, hpart, heq⟩ := List.mem_filterMap.mp (mem_of_mem_upsertAll hentry)
    exact isTakenFrom_of_entry? heq (isInfix_of_mem_splitAt hpart)
  · cases h

/-- The items of a list that say something. -/
def itemsOf (list : String) : List (List Char) :=
  (splitAt ',' list.toList).filter fun item => !(unquote item).isEmpty

lemma labelsOf_eq (list : String) :
    labelsOf list = (itemsOf list).map fun item => String.ofList (unquote item) := by
  rw [labelsOf, itemsOf, List.filter_map, List.map_map]
  rfl

lemma isTakenFrom_of_mem_labelsOf {list label : String} (h : label ∈ labelsOf list) :
    IsTakenFrom list label := by
  rw [labelsOf_eq] at h
  obtain ⟨item, hmem, rfl⟩ := List.mem_map.mp h
  obtain ⟨hitem, hne⟩ := List.mem_filter.mp hmem
  exact ⟨by simpa using hne, item, isInfix_of_mem_splitAt hitem, String.toList_ofList⟩

namespace IsTakenFrom

variable {source label : String}

/-- What starts or ends with white space stands next to a quotation mark. -/
lemma exists_quote (h : IsTakenFrom source label) (htrim : trimmed label ≠ label) :
    ∃ q, isQuote q = true ∧
      (q :: label.toList <:+: source.toList ∨ label.toList ++ [q] <:+: source.toList) := by
  obtain ⟨part, hpart, hlabel⟩ := h.exists_eq_unquote
  have hne : trim (unquote part) ≠ unquote part := by
    rw [← hlabel, ← toList_trimmed]
    exact mt String.toList_inj.mp htrim
  obtain ⟨q, hq, hnext⟩ := exists_quote_of_trim_ne hne
  rw [hlabel]
  exact ⟨q, hq, hnext.imp (·.trans hpart) (·.trans hpart)⟩

/-- What is nothing but white space stands between two quotation marks. -/
lemma exists_quotes (h : IsTakenFrom source label) (hblank : trimmed label = "") :
    ∃ q q', isQuote q = true ∧ isQuote q' = true ∧
      q :: (label.toList ++ [q']) <:+: source.toList := by
  obtain ⟨part, hpart, hlabel⟩ := h.exists_eq_unquote
  have hne : unquote part ≠ [] := by
    rw [← hlabel]
    simpa using h.ne_empty
  have htrim : trim (unquote part) = [] := by
    rw [← hlabel, ← toList_trimmed, hblank]
    rfl
  obtain ⟨q, q', hq, hq', hbetween⟩ := exists_quotes_of_trim_eq_nil hne htrim
  rw [hlabel]
  exact ⟨q, q', hq, hq', hbetween.trans hpart⟩

end IsTakenFrom

/-- A mapping that is written down is read back: its keys in the order in which they first come,
each with its last label. A key may end with `=` and a label start with `>`, as the arrow is found
all the same. Whatever a comment is, it has no mapping just if it holds no arrow; no key of a
mapping is repeated, and neither a key nor a label is empty. -/
theorem mapping?_reads_entries :
    (∀ (entries : List (String × String)) (parts : List (List Char)), entries ≠ [] →
      (∀ entry ∈ entries, IsSide entry.1 ∧ IsSide entry.2) →
      List.Forall₂ WritesEntry entries parts →
      ∃ mapping, mapping? (String.ofList (join [','] parts)) = some mapping ∧
        mapping.map Prod.fst = (entries.map Prod.fst).eraseDups ∧
        ∀ key, mapping.lookup key = (lastWith? Prod.fst key entries).map Prod.snd) ∧
    ∀ comment : String,
      (mapping? comment = none ↔ ¬ arrow <:+: comment.toList) ∧
      ∀ mapping, mapping? comment = some mapping →
        (mapping.map Prod.fst).Nodup ∧ ∀ entry ∈ mapping, entry.1 ≠ "" ∧ entry.2 ≠ "" := by
  constructor
  · intro entries parts hne hsides hwritten
    exact ⟨upsertAll Prod.fst entries, mapping?_join hne hwritten hsides,
      map_upsertAll Prod.fst entries, fun key => lookup_upsertAll entries key⟩
  · intro comment
    refine ⟨mapping?_eq_none_iff, ?_⟩
    intro mapping hmapping
    refine ⟨nodup_keys hmapping, ?_⟩
    intro entry hentry
    obtain ⟨hkey, hlabel⟩ := isTakenFrom_of_mem_mapping hmapping hentry
    exact ⟨hkey.ne_empty, hlabel.ne_empty⟩

/-- Entries of which two have one key, and others have the characters of an arrow next to it. -/
def statusEntries : List (String × String) := [("Y", "Active"), ("N=", ">Off"), ("Y", "On hold")]

/-- The entries as they stand in a comment. -/
def statusParts : List (List Char) :=
  ["Y => 'Active'".toList, " \"N=\"=>>Off".toList, " Y =>On hold ".toList]

lemma forall₂_writesEntry_status : List.Forall₂ WritesEntry statusEntries statusParts := by
  have hquotedLabel : WritesEntry ("Y", "Active") "Y => 'Active'".toList :=
    .intro (w := "Y ".toList) (v := " 'Active'".toList)
      (.plain (by decide) (padded_of_trim_eq (by decide)))
      (.quoted (q := '\'') rfl (padded_of_trim_eq (by decide)))
  have hquotedKey : WritesEntry ("N=", ">Off") " \"N=\"=>>Off".toList :=
    .intro (w := " \"N=\"".toList) (v := ">Off".toList)
      (.quoted (q := '"') rfl (padded_of_trim_eq (by decide)))
      (.plain (by decide) (padded_of_trim_eq (by decide)))
  have hplain : WritesEntry ("Y", "On hold") " Y =>On hold ".toList :=
    .intro (w := " Y ".toList) (v := "On hold ".toList)
      (.plain (by decide) (padded_of_trim_eq (by decide)))
      (.plain (by decide) (padded_of_trim_eq (by decide)))
  exact .cons hquotedLabel (.cons hquotedKey (.cons hplain .nil))

theorem mapping?_reads_entries_status :
    (statusEntries ≠ [] ∧ (∀ entry ∈ statusEntries, IsSide entry.1 ∧ IsSide entry.2) ∧
      List.Forall₂ WritesEntry statusEntries statusParts ∧
      ∃ mapping, mapping? (String.ofList (join [','] statusParts)) = some mapping ∧
        mapping.map Prod.fst = ["Y", "N="] ∧
        mapping.lookup "Y" = some "On hold" ∧ mapping.lookup "N=" = some ">Off") ∧
    mapping? "Y => , N==>>Off" = some [("N=", ">Off")] ∧
      (["N="].Nodup ∧ "N=" ≠ "" ∧ ">Off" ≠ "") := by
  have hne : statusEntries ≠ [] := List.cons_ne_nil _ _
  have hsides : ∀ entry ∈ statusEntries, IsSide entry.1 ∧ IsSide entry.2 := by decide +kernel
  have hmapping : mapping? "Y => , N==>>Off" = some [("N=", ">Off")] := by decide +kernel
  obtain ⟨mapping, hread, hkeys, hlabels⟩ :=
    mapping?_reads_entries.1 statusEntries statusParts hne hsides forall₂_writesEntry_status
  obtain ⟨hnodup, hentry⟩ := (mapping?_reads_entries.2 "Y => , N==>>Off").2 _ hmapping
  refine ⟨⟨hne, hsides, forall₂_writesEntry_status, mapping, hread, ?_, ?_, ?_⟩, hmapping, hnodup,
    hentry ("N=", ">Off") (List.mem_singleton_self _)⟩
  · rw [hkeys]
    decide +kernel
  · rw [hlabels]
    decide +kernel
  · rw [hlabels]
    decide +kernel

/-! ### Defaults -/

lemma resolve_of_mapping? {comment : String} {mapping : List (String × String)}
    (h : mapping? comment = some mapping) (hne : mapping ≠ []) (list : Option String)
    (default : Option Scalar) :
    resolve (some comment) list default =
      { labels := some (mapping.map (·.2)), default := default.map (translate mapping) } := by
  obtain ⟨entry, entries, rfl⟩ := List.exists_cons_of_ne_nil hne
  rw [resolve, Option.bind_some, h]

/-- A text that is a default stands for a label just if it is a key without its white space, or it
is the label itself and no key. -/
lemma translate_text_eq_iff {mapping : List (String × String)} (h : (mapping.map Prod.fst).Nodup)
    (text label : String) :
    translate mapping (.text text) = .text label ↔
      (trimmed text, label) ∈ mapping ∨
        text = label ∧ ∀ label', (trimmed text, label') ∉ mapping := by
  simp only [translate, Scalar.display, ← lookup_eq_some_iff_mem h]
  cases mapping.lookup (trimmed text) with
  | none => simp
  | some other => simp

/-- A key without white space at its ends can stand as the default for its label. Any other key
was written next to a quotation mark, and it stands for its label only if the key without the white
space does, or if the two are the same and there is no such key. -/
theorem default_resolve_key (comment : String) (list : Option String) :
    ∀ mapping, mapping? comment = some mapping → ∀ entry ∈ mapping,
      (trimmed entry.1 = entry.1 →
        (resolve (some comment) list (some (.text entry.1))).default = some (.text entry.2)) ∧
      ((resolve (some comment) list (some (.text entry.1))).default = some (.text entry.2) ↔
        (trimmed entry.1, entry.2) ∈ mapping ∨
          entry.1 = entry.2 ∧ ∀ label, (trimmed entry.1, label) ∉ mapping) ∧
      (trimmed entry.1 ≠ entry.1 → ∃ q, isQuote q = true ∧
        (q :: entry.1.toList <:+: comment.toList ∨ entry.1.toList ++ [q] <:+: comment.toList)) := by
  intro mapping hmapping entry hentry
  have hstands :
      (resolve (some comment) list (some (.text entry.1))).default = some (.text entry.2) ↔
        (trimmed entry.1, entry.2) ∈ mapping ∨
          entry.1 = entry.2 ∧ ∀ label, (trimmed entry.1, label) ∉ mapping := by
    rw [resolve_of_mapping? hmapping (List.ne_nil_of_mem hentry), Option.map_some,
      Option.some_inj, translate_text_eq_iff (nodup_keys hmapping)]
  refine ⟨?_, hstands, ?_⟩
  · intro htrim
    rw [hstands, htrim]
    exact .inl hentry
  · exact (isTakenFrom_of_mem_mapping hmapping hentry).1.exists_quote

/-- A comment that gives one label to a key with white space at its ends and to the same key
without. -/
def appleComment : String := "' a ' => Apple, a => Apple"

theorem default_resolve_key_apple :
    mapping? appleComment = some [(" a ", "Apple"), ("a", "Apple")] ∧
    (trimmed "a" = "a" ∧
      (resolve (some appleComment) none (some (.text "a"))).default = some (.text "Apple")) ∧
    (trimmed " a " ≠ " a " ∧
      (resolve (some appleComment) none (some (.text " a "))).default = some (.text "Apple") ∧
      ∃ q, isQuote q = true ∧ (q :: " a ".toList <:+: appleComment.toList ∨
        " a ".toList ++ [q] <:+: appleComment.toList)) := by
  have hmapping : mapping? appleComment = some [(" a ", "Apple"), ("a", "Apple")] := by
    decide +kernel
  have htrim : trimmed "a" = "a" := by decide +kernel
  have htrim' : trimmed " a " = "a" := by decide +kernel
  have hne : trimmed " a " ≠ " a " := by
    rw [htrim']
    decide
  obtain ⟨hbare, -, -⟩ :=
    default_resolve_key appleComment none _ hmapping ("a", "Apple") (by decide)
  obtain ⟨-, hquoted, hquote⟩ :=
    default_resolve_key appleComment none _ hmapping (" a ", "Apple") (by decide)
  refine ⟨hmapping, ⟨htrim, hbare htrim⟩, hne, hquoted.mpr (.inl ?_), hquote hne⟩
  rw [htrim']
  decide

/-- The only key of a mapping is not found by its own text. -/
theorem default_resolve_quoted_key :
    ∃ mapping, mapping? "' a ' => Apple" = some mapping ∧ ∃ entry ∈ mapping,
      (resolve (some "' a ' => Apple") none (some (.text entry.1))).default =
        some (.text entry.1) ∧
      (.text entry.1 : Scalar) ≠ .text entry.2 :=
  ⟨[(" a ", "Apple")], by decide +kernel, (" a ", "Apple"), List.mem_singleton_self _,
    by decide +kernel, by decide⟩

/-! ### Labels -/

/-- An enumeration has the labels of the mapping in its comment, or else those of its list. -/
lemma labels_resolve {comments list : Option String} {default : Option Scalar}
    {labels : List String} (h : (resolve comments list default).labels = some labels) :
    labels ≠ [] ∧
      ((∃ mapping, comments.bind mapping? = some mapping ∧ labels = mapping.map (·.2)) ∨
        ∃ text, list = some text ∧ labels = labelsOf text ∧
          ∀ mapping, comments.bind mapping? = some mapping → mapping = []) := by
  rw [resolve] at h
  split at h
  · next entry entries hmapping =>
    obtain rfl := Option.some.inj h
    exact ⟨by simp, .inl ⟨_, hmapping, rfl⟩⟩
  · next hmapping =>
    obtain ⟨hlist, hne⟩ := Option.filter_eq_some_iff.mp h
    obtain ⟨text, htext, rfl⟩ := Option.map_eq_some_iff.mp hlist
    refine ⟨by simpa using hne, .inr ⟨text, htext, rfl, ?_⟩⟩
    intro mapping heq
    cases mapping with
    | nil => rfl
    | cons entry entries => exact absurd heq (hmapping entry entries)

lemma isTakenFrom_of_mem_labels {comments list : Option String} {default : Option Scalar}
    {labels : List String} (h : (resolve comments list default).labels = some labels)
    {label : String} (hlabel : label ∈ labels) :
    ∃ source, (comments = some source ∨ list = some source) ∧ IsTakenFrom source label := by
  obtain ⟨-, ⟨mapping, hmapping, rfl⟩ | ⟨text, htext, rfl, -⟩⟩ := labels_resolve h
  · obtain ⟨comment, hcomment, hmapping⟩ := Option.bind_eq_some_iff.mp hmapping
    obtain ⟨entry, hentry, rfl⟩ := List.mem_map.mp hlabel
    exact ⟨comment, .inl hcomment, (isTakenFrom_of_mem_mapping hmapping hentry).2⟩
  · exact ⟨text, .inr htext, isTakenFrom_of_mem_labelsOf hlabel⟩

lemma nodup_labels_mapping_iff {comments : Option String} {mapping : List (String × String)}
    (h : comments.bind mapping? = some mapping) :
    (mapping.map (·.2)).Nodup ↔ ∀ a ∈ mapping, ∀ b ∈ mapping, a.2 = b.2 → a = b := by
  obtain ⟨comment, -, hmapping⟩ := Option.bind_eq_some_iff.mp h
  exact List.nodup_map_iff_inj_on (nodup_keys hmapping).of_map

lemma nodup_labelsOf_iff {list : String} :
    (labelsOf list).Nodup ↔ (itemsOf list).Pairwise fun a b => unquote a ≠ unquote b := by
  rw [labelsOf_eq, List.Nodup, List.pairwise_map]
  simp only [ne_eq, String.ofList_inj]

/-- An enumeration has labels, and none of them is empty. It has one label for each key of the
mapping in its comment, or else one for each item of its list that says something, and these are
taken as they are: no label is repeated just if no two keys have the same label, or if no two items
are the same without their white space and quotation marks. A label can be nothing but white space
only where that was written between two quotation marks. -/
theorem labels_resolve_by_source (comments list : Option String) (default : Option Scalar) :
    ∀ labels, (resolve comments list default).labels = some labels →
      labels ≠ [] ∧
      (∀ label ∈ labels, label ≠ "" ∧
        (trimmed label = "" → ∃ source, (comments = some source ∨ list = some source) ∧
          ∃ q q', isQuote q = true ∧ isQuote q' = true ∧
            q :: (label.toList ++ [q']) <:+: source.toList)) ∧
      ((∃ mapping, comments.bind mapping? = some mapping ∧ labels = mapping.map (·.2) ∧
          (labels.Nodup ↔ ∀ a ∈ mapping, ∀ b ∈ mapping, a.2 = b.2 → a = b)) ∨
        ∃ text, list = some text ∧
          (∀ mapping, comments.bind mapping? = some mapping → mapping = []) ∧
          labels = (itemsOf text).map (fun item => String.ofList (unquote item)) ∧
          (labels.Nodup ↔ (itemsOf text).Pairwise fun a b => unquote a ≠ unquote b)) := by
  intro labels h
  obtain ⟨hne, hsource⟩ := labels_resolve h
  refine ⟨hne, ?_, ?_⟩
  · intro label hlabel
    obtain ⟨source, hsource, htaken⟩ := isTakenFrom_of_mem_labels h hlabel
    exact ⟨htaken.ne_empty, fun hblank => ⟨source, hsource, htaken.exists_quotes hblank⟩⟩
  · rcases hsource with ⟨mapping, hmapping, rfl⟩ | ⟨text, htext, rfl, hnone⟩
    · exact .inl ⟨mapping, hmapping, rfl, nodup_labels_mapping_iff hmapping⟩
    · exact .inr ⟨text, htext, hnone, labelsOf_eq text, nodup_labelsOf_iff⟩

/-- A comment that gives two keys one label, and a third one white space. -/
def stateComment : String := "Y => Active, T => Active, N => ' '"

theorem labels_resolve_by_source_state :
    (resolve (some stateComment) none none).labels = some ["Active", "Active", " "] ∧
    (∃ q q', isQuote q = true ∧ isQuote q' = true ∧ [q, ' ', q'] <:+: stateComment.toList) ∧
    ∃ mapping, (some stateComment).bind mapping? = some mapping ∧
      ¬ ∀ a ∈ mapping, ∀ b ∈ mapping, a.2 = b.2 → a = b := by
  have hlabels : (resolve (some stateComment) none none).labels =
      some ["Active", "Active", " "] := by decide +kernel
  obtain ⟨-, hlabel, ⟨mapping, hmapping, -, hnodup⟩ | ⟨text, htext, -⟩⟩ :=
    labels_resolve_by_source (some stateComment) none none _ hlabels
  · obtain ⟨source, hsource | hsource, hquotes⟩ := (hlabel " " (by decide)).2 (by decide +kernel)
    · obtain rfl := Option.some.inj hsource
      exact ⟨hlabels, hquotes, mapping, hmapping, mt hnodup.mpr (by decide)⟩
    · cases hsource
  · cases htext

/-- Labels are repeated where the list or the labels of a mapping are, and white space between
quotation marks is a label. -/
theorem labels_resolve_repeated :
    (∃ labels, (resolve none (some "draft, ' ', draft") none).labels = some labels ∧
      ¬ labels.Nodup ∧ ∃ label ∈ labels, trimmed label = "") ∧
    ∃ labels, (resolve (some "Y => Active, T => Active") none none).labels = some labels ∧
      ¬ labels.Nodup :=
  ⟨⟨["draft", " ", "draft"], by decide +kernel, by decide, " ", by decide, by decide +kernel⟩,
    ["Active", "Active"], by decide +kernel, by decide⟩

end DataDictionary.Enumeration
