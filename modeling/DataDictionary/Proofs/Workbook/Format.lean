import DataDictionary.Proofs.Text.LetterCase
import DataDictionary.Workbook.Basic
import Mathlib.Data.List.DropRight

/-!
# Formats by the ends of names

The format of a workbook is told by what follows the last point of the last component of its name,
in any ASCII letters. The name is looked at up to the first question mark or hash sign, as if a
query or a fragment of an address began there, also where the name is that of a file and the whole
of it is opened. So a name that has no such mark tells the format that it ends with, and any other
one the format of what stands before the mark.
-/

namespace DataDictionary.Workbook

open Text

/-! ### Ends of texts -/

lemma rtakeWhile_append_of_pos {α : Type} {p : α → Bool} {t : List α} (h : ∀ a ∈ t, p a = true)
    (s : List α) : (s ++ t).rtakeWhile p = s.rtakeWhile p ++ t := by
  have hreverse : ∀ a ∈ t.reverse, p a = true := fun a ha => h a (List.mem_reverse.mp ha)
  rw [List.rtakeWhile, List.reverse_append, List.takeWhile_append_of_pos hreverse,
    List.reverse_append, List.reverse_reverse, List.rtakeWhile]

lemma rtakeWhile_append_cons {α : Type} {p : α → Bool} {a : α} {t : List α} (ha : p a = false)
    (h : ∀ b ∈ t, p b = true) (s : List α) : (s ++ a :: t).rtakeWhile p = t := by
  rw [List.append_cons, rtakeWhile_append_of_pos h,
    List.rtakeWhile_concat_neg p s a (Bool.eq_false_iff.mp ha), List.nil_append]

lemma exists_last_of_mem {α : Type} {a : α} {s : List α} (h : a ∈ s) :
    ∃ front rest, s = front ++ a :: rest ∧ a ∉ rest := by
  obtain ⟨front, rest, hs, hfront⟩ := List.eq_append_cons_of_mem (List.mem_reverse.mpr h)
  refine ⟨rest.reverse, front.reverse, ?_, mt List.mem_reverse.mp hfront⟩
  rw [← List.reverse_reverse s, hs]
  simp

/-! ### Endings of names -/

/-- How names of workbooks of the format end. -/
def Format.endings : Format → List String
  | .openXml => ["xlsx", "xlsm", "xltx", "xltm"]
  | .openDocument => ["ods"]

/-- What follows the last point of the last component of the path is an ending of the format. -/
def EndsAs (path : List Char) (format : Format) : Prop :=
  ∃ front ext, path = front ++ '.' :: ext ∧ '.' ∉ ext ∧ '/' ∉ ext ∧
    ∃ ending ∈ format.endings, asciiLower ext = ending.toList

/-- A name up to the first question mark or hash sign. -/
def beforeQuery (name : List Char) : List Char := name.takeWhile fun c => c != '?' && c != '#'

lemma beforeQuery_of_notMem {name : List Char} (hmark : '?' ∉ name) (hhash : '#' ∉ name) :
    beforeQuery name = name := by
  refine List.takeWhile_eq_self_iff.mpr fun c hc => ?_
  rw [Bool.and_eq_true, bne_iff_ne, bne_iff_ne]
  exact ⟨fun h => hmark (h ▸ hc), fun h => hhash (h ▸ hc)⟩

/-- The endings of formats are made of letters. -/
lemma isAlpha_of_mem_ending {format : Format} {ending : String} (h : ending ∈ format.endings) :
    ∀ c ∈ ending.toList, c.isAlpha = true := by
  have hall : ∀ ending ∈ format.endings, ending.toList.all Char.isAlpha = true := by
    cases format <;> decide
  exact List.all_eq_true.mp (hall ending h)

/-- What has the letters of an ending has no other characters. -/
lemma notMem_of_asciiLower_eq {format : Format} {ending : String} (h : ending ∈ format.endings)
    {ext : List Char} (hext : asciiLower ext = ending.toList) {c : Char}
    (hc : c.isAlpha = false) : c ∉ ext := by
  intro hmem
  rw [← mem_asciiLower_iff hc, hext] at hmem
  exact absurd (isAlpha_of_mem_ending h c hmem) (Bool.eq_false_iff.mp hc)

lemma ofName?_eq_some_iff_extension {file : String} {format : Format} :
    Format.ofName? file = some format ↔
      ∃ ending ∈ format.endings, ending.toList = extension file := by
  rw [Format.ofName?]
  generalize extension file = ext
  constructor
  · intro h
    split at h
    · next hany =>
      obtain rfl := Option.some.inj h
      obtain ⟨ending, hmem, hsame⟩ := List.any_eq_true.mp hany
      exact ⟨ending, hmem, eq_of_beq hsame⟩
    split at h
    · next hsame =>
      obtain rfl := Option.some.inj h
      exact ⟨"ods", List.mem_singleton_self _, (eq_of_beq hsame).symm⟩
    · exact absurd h (by simp)
  · rintro ⟨ending, hmem, rfl⟩
    revert ending
    cases format <;> decide

/-- What stands behind the last slash or backslash. -/
def component (path : List Char) : List Char := path.rtakeWhile fun c => c != '/' && c != '\\'

lemma extension_eq (file : String) :
    extension file =
      if (component (beforeQuery file.toList)).contains '.' then
        asciiLower ((component (beforeQuery file.toList)).rtakeWhile (· != '.'))
      else [] := rfl

/-- The extension of a name ends it as the extension of a format. -/
lemma endsAs_of_extension {file : String} {format : Format} {ending : String}
    (hending : ending ∈ format.endings) (h : ending.toList = extension file) :
    EndsAs (beforeQuery file.toList) format := by
  rw [extension_eq] at h
  generalize beforeQuery file.toList = path at h ⊢
  split at h
  · next hpoint =>
    obtain ⟨front, ext, hcomponent, hext⟩ :=
      exists_last_of_mem (List.contains_iff_mem.mp hpoint)
    have hrest : ∀ c ∈ ext, (c != '.') = true :=
      fun c hc => bne_iff_ne.mpr fun heq => hext (heq ▸ hc)
    rw [hcomponent, rtakeWhile_append_cons (by decide) hrest] at h
    obtain ⟨directory, hdirectory⟩ : ∃ directory, path = directory ++ component path :=
      ⟨_, List.rdropWhile_append_rtakeWhile.symm⟩
    have hslash := notMem_of_asciiLower_eq hending h.symm (c := '/') (by decide)
    refine ⟨directory ++ front, ext, ?_, hext, hslash, ending, hending, h.symm⟩
    exact hdirectory.trans (by rw [hcomponent, List.append_assoc])
  · have hne : ∀ ending ∈ format.endings, ending.toList ≠ [] := by cases format <;> decide
    exact absurd h (hne ending hending)

/-- The end of a name is its extension: no ending has a slash or a backslash. -/
lemma extension_of_endsAs {file : String} {format : Format}
    (h : EndsAs (beforeQuery file.toList) format) :
    ∃ ending ∈ format.endings, ending.toList = extension file := by
  obtain ⟨front, ext, hpath, hpoint, hslash, ending, hending, hlower⟩ := h
  have hbackslash : '\\' ∉ ext := notMem_of_asciiLower_eq hending hlower (by decide)
  have hinside : ∀ c ∈ '.' :: ext, (c != '/' && c != '\\') = true := by
    refine List.forall_mem_cons.mpr ⟨by decide, fun c hc => ?_⟩
    rw [Bool.and_eq_true, bne_iff_ne, bne_iff_ne]
    exact ⟨fun heq => hslash (heq ▸ hc), fun heq => hbackslash (heq ▸ hc)⟩
  have hrest : ∀ c ∈ ext, (c != '.') = true :=
    fun c hc => bne_iff_ne.mpr fun heq => hpoint (heq ▸ hc)
  have hcomponent : component (beforeQuery file.toList) = component front ++ '.' :: ext := by
    rw [hpath]
    exact rtakeWhile_append_of_pos hinside front
  refine ⟨ending, hending, ?_⟩
  rw [extension_eq, hcomponent, if_pos (by simp), rtakeWhile_append_cons (by decide) hrest, hlower]

lemma ofName?_eq_some_iff {file : String} {format : Format} :
    Format.ofName? file = some format ↔ EndsAs (beforeQuery file.toList) format := by
  rw [ofName?_eq_some_iff_extension]
  constructor
  · rintro ⟨ending, hending, h⟩
    exact endsAs_of_extension hending h
  · exact extension_of_endsAs

/-! ### Opening -/

/-- Open a workbook of the format. -/
def Format.load (disk : Disk) (file : String) : Format → Except Error Workbook
  | .openXml => (OpenXml.Package.load disk file).map .openXml
  | .openDocument => (OpenDocument.Package.load disk file).map .openDocument

/-- The result is not that the format is unknown. -/
def IsOfFormat {α : Type} (result : Except Error α) : Prop :=
  ∀ name, result ≠ .error (.unsupportedFormat name)

section IsOfFormat

variable {α β σ : Type}

lemma isOfFormat_ok (value : α) : IsOfFormat (.ok value) := fun _ h => by cases h

lemma IsOfFormat.bind {result : Except Error α} {f : α → Except Error β} (h : IsOfFormat result)
    (hf : ∀ value, IsOfFormat (f value)) : IsOfFormat (result >>= f) := by
  cases result with
  | ok value => exact hf value
  | error error =>
    rintro name heq
    obtain rfl := Except.error.inj heq
    exact h name rfl

lemma IsOfFormat.map {result : Except Error α} (h : IsOfFormat result) (f : α → β) :
    IsOfFormat (result.map f) := by
  cases result with
  | ok value => exact isOfFormat_ok (f value)
  | error error =>
    rintro name heq
    obtain rfl := Except.error.inj heq
    exact h name rfl

lemma isOfFormat_ofMarkup (result : Except Markup.Error α) : IsOfFormat (ofMarkup result) := by
  cases result with
  | ok value => exact isOfFormat_ok value
  | error error => exact fun name h => by cases h

lemma isOfFormat_foldDocument {step : σ → Markup.Event → Except Error σ}
    (hstep : ∀ state event, IsOfFormat (step state event)) (state : σ)
    (document : Markup.Document) : IsOfFormat (foldDocument step state document) := by
  have hfold : IsOfFormat (document.events.foldlM step state) := by
    induction document.events generalizing state with
    | nil => exact isOfFormat_ok state
    | cons event events ih =>
      rw [List.foldlM_cons]
      exact (hstep state event).bind ih
  rw [foldDocument]
  cases hevents : document.events.foldlM step state with
  | error error =>
    rw [hevents] at hfold
    exact fun name h => hfold name (by simpa using h)
  | ok last =>
    cases document.error with
    | none => exact isOfFormat_ok last
    | some error => exact fun name h => by cases h

end IsOfFormat

lemma isOfFormat_readArchive (disk : Disk) (file : String) :
    IsOfFormat (disk.readArchive file) := by
  rw [FileTree.readArchive]
  split
  · exact fun name h => by cases h
  · exact fun name h => by cases h
  · split
    · exact isOfFormat_ok _
    · exact fun name h => by cases h
    · exact fun name h => by cases h

namespace OpenXml

lemma isOfFormat_document (archive : Archive) (name : String) :
    IsOfFormat (document archive name) := by
  rw [document]
  split
  · exact isOfFormat_ok _
  · exact fun name h => by cases h

lemma Relationships.isOfFormat_step (relationships : Relationships) (event : Markup.Event) :
    IsOfFormat (relationships.step event) := by
  cases event with
  | start tag =>
    rw [step]
    split
    · refine (isOfFormat_ofMarkup _).bind fun id => ?_
      refine (isOfFormat_ofMarkup _).bind fun kind => ?_
      refine (isOfFormat_ofMarkup _).bind fun target => ?_
      split <;> exact isOfFormat_ok _
    · exact isOfFormat_ok _
  | _ => exact isOfFormat_ok _

lemma isOfFormat_sheetAttributes (name id : Option String)
    (attributes : List (Except Markup.AttributeFault Markup.Attribute)) :
    IsOfFormat (sheetAttributes name id attributes) := by
  induction attributes generalizing name id with
  | nil => exact isOfFormat_ok _
  | cons a rest ih =>
    cases a with
    | error fault => exact fun name h => by cases h
    | ok a =>
      rw [sheetAttributes]
      split
      · exact (isOfFormat_ofMarkup _).bind fun text => ih (some text) id
      split
      · exact (isOfFormat_ofMarkup _).bind fun text => ih name (some text)
      · exact ih name id

lemma Contents.isOfFormat_step (relationships : Relationships) (contents : Contents)
    (event : Markup.Event) : IsOfFormat (contents.step relationships event) := by
  cases event with
  | start tag =>
    rw [step]
    split
    · refine (isOfFormat_sheetAttributes _ _ _).bind fun (name, id) => ?_
      dsimp only
      split <;> exact isOfFormat_ok _
    split
    · exact (isOfFormat_ofMarkup _).bind fun value => isOfFormat_ok _
    · exact isOfFormat_ok _
  | _ => exact isOfFormat_ok _

lemma Styles.isOfFormat_step (epoch : Epoch) (styles : Styles) (event : Markup.Event) :
    IsOfFormat (styles.step epoch event) := by
  cases event with
  | start tag =>
    rw [step, start]
    split
    · exact isOfFormat_ok _
    split
    · refine (isOfFormat_ofMarkup _).bind fun id => ?_
      refine (isOfFormat_ofMarkup _).bind fun code => ?_
      split <;> exact isOfFormat_ok _
    split
    · exact isOfFormat_ok _
    split
    · exact (isOfFormat_ofMarkup _).bind fun id => isOfFormat_ok _
    · exact isOfFormat_ok _
  | finish name =>
    rw [step]
    split
    · exact isOfFormat_ok _
    split <;> exact isOfFormat_ok _
  | _ => exact isOfFormat_ok _

lemma isOfFormat_load (disk : Disk) (file : String) : IsOfFormat (Package.load disk file) := by
  refine (isOfFormat_readArchive disk file).bind fun archive => ?_
  refine (isOfFormat_document archive _).bind fun relations => ?_
  refine (isOfFormat_foldDocument Relationships.isOfFormat_step _ _).bind fun relationships => ?_
  refine (isOfFormat_document archive _).bind fun workbook => ?_
  refine (isOfFormat_foldDocument (Contents.isOfFormat_step relationships) _ _).bind
    fun contents => ?_
  split
  · exact fun name h => by cases h
  · split
    · exact (isOfFormat_foldDocument (Styles.isOfFormat_step _) _ _).bind
        fun styles => isOfFormat_ok _
    · exact isOfFormat_ok _

end OpenXml

namespace OpenDocument

lemma isOfFormat_tellsEncryption (error : Option Markup.Error) (inEntry : Bool)
    (events : List Markup.Event) : IsOfFormat (tellsEncryption error inEntry events) := by
  induction events generalizing inEntry with
  | nil =>
    cases error with
    | none => exact isOfFormat_ok _
    | some error => exact fun name h => by cases h
  | cons event events ih =>
    cases event with
    | start tag =>
      rw [tellsEncryption]
      split
      · exact ih true
      split
      · exact isOfFormat_ok _
      · exact ih inEntry
    | finish name => exact ih _
    | _ => exact ih inEntry

lemma isOfFormat_load (disk : Disk) (file : String) : IsOfFormat (Package.load disk file) := by
  refine (isOfFormat_readArchive disk file).bind fun archive => ?_
  split
  · exact fun name h => by cases h
  · have hencrypted : IsOfFormat (isEncrypted archive) := by
      rw [isEncrypted]
      split
      · exact isOfFormat_tellsEncryption _ _ _
      · exact isOfFormat_ok _
    refine hencrypted.bind fun encrypted => ?_
    split
    · exact fun name h => by cases h
    · exact isOfFormat_ok _

end OpenDocument

lemma isOfFormat_load (disk : Disk) (file : String) (format : Format) :
    IsOfFormat (format.load disk file) := by
  cases format with
  | openXml => exact (OpenXml.isOfFormat_load disk file).map _
  | openDocument => exact (OpenDocument.isOfFormat_load disk file).map _

lemma load_of_ofName? {file : String} {format : Format} (h : Format.ofName? file = some format)
    (disk : Disk) : load disk file = format.load disk file := by
  rw [load, h]
  cases format <;> rfl

/-- A name is rejected as of no format just if it is. -/
lemma load_eq_unsupportedFormat_iff {disk : Disk} {file name : String} :
    load disk file = .error (.unsupportedFormat name) ↔
      name = file ∧ Format.ofName? file = none := by
  cases hformat : Format.ofName? file with
  | some format =>
    rw [load_of_ofName? hformat]
    exact iff_of_false (isOfFormat_load disk file format name) (by simp)
  | none =>
    rw [load, hformat]
    simp [eq_comm]

/-! ### Names that are opened as they are -/

/-- The name is that of a file: no address, or one whose scheme is the letter of a drive. -/
def IsPlain (name : List Char) : Prop :=
  Address.isRemote name = false ∧
    ∀ isElsewhere segments, Address.Url.read? name ≠ some (.file isElsewhere segments)

lemma isPlain_of_scheme? {name : List Char}
    (h : Address.scheme? (Address.prepared name) = none) : IsPlain name := by
  have hread : Address.Url.read? name = none := by rw [Address.Url.read?, h]
  constructor
  · rw [Address.isRemote, hread]
  · rw [hread]
    exact fun _ _ => by simp

lemma IsPlain.target_eq {name : List Char} (h : IsPlain name) :
    Address.target name = .path name := by
  rw [Address.target]
  split
  · next hread => exact absurd hread (h.2 _ _)
  · next hread => exact absurd hread (h.2 _ _)
  · rfl

/-- The end of the path tells how the workbook is opened. -/
structure OpensBy (path : List Char) (file : String) : Prop where
  chosen : ∀ format, Format.ofName? file = some format ↔ EndsAs path format
  opened : ∀ format, EndsAs path format → ∀ disk, load disk file = format.load disk file
  rejected : ∀ disk name, load disk file = .error (.unsupportedFormat name) ↔
    name = file ∧ ∀ format, ¬EndsAs path format

lemma opensBy_iff {path : List Char} {file : String} :
    OpensBy path file ↔ ∀ format, Format.ofName? file = some format ↔ EndsAs path format := by
  refine ⟨OpensBy.chosen, fun h => ⟨h, fun format hends => ?_, fun disk name => ?_⟩⟩
  · exact load_of_ofName? ((h format).mpr hends)
  · rw [load_eq_unsupportedFormat_iff, Option.eq_none_iff_forall_ne_some]
    exact and_congr_right fun _ => forall_congr' fun format => not_congr (h format)

/-- A workbook is opened by the end of its name in front of the first question mark or hash sign.
That is by the end of the whole name, which is what is opened where the name is that of a file, just
if both ends tell the same; so it is for names without these marks. -/
theorem opensBy_beforeQuery (file : String) :
    OpensBy (beforeQuery file.toList) file ∧
    (OpensBy file.toList file ↔
      ∀ format, EndsAs (beforeQuery file.toList) format ↔ EndsAs file.toList format) ∧
    ('?' ∉ file.toList → '#' ∉ file.toList → OpensBy file.toList file) ∧
    (IsPlain file.toList → Address.target file.toList = .path file.toList) := by
  have hbefore : OpensBy (beforeQuery file.toList) file :=
    opensBy_iff.mpr fun _ => ofName?_eq_some_iff
  refine ⟨hbefore, ?_, fun hmark hhash => ?_, IsPlain.target_eq⟩
  · rw [opensBy_iff]
    exact forall_congr' fun format => by rw [ofName?_eq_some_iff]
  · rwa [beforeQuery_of_notMem hmark hhash] at hbefore

theorem opensBy_beforeQuery_prices :
    '?' ∉ "models.d\\v2/Prices.2024.ODS".toList ∧ '#' ∉ "models.d\\v2/Prices.2024.ODS".toList ∧
      IsPlain "models.d\\v2/Prices.2024.ODS".toList ∧
      OpensBy "models.d\\v2/Prices.2024.ODS".toList "models.d\\v2/Prices.2024.ODS" ∧
      Address.target "models.d\\v2/Prices.2024.ODS".toList =
        .path "models.d\\v2/Prices.2024.ODS".toList := by
  obtain ⟨-, -, hopens, htarget⟩ := opensBy_beforeQuery "models.d\\v2/Prices.2024.ODS"
  have hmark : '?' ∉ "models.d\\v2/Prices.2024.ODS".toList := by decide
  have hhash : '#' ∉ "models.d\\v2/Prices.2024.ODS".toList := by decide
  have hplain : IsPlain "models.d\\v2/Prices.2024.ODS".toList :=
    isPlain_of_scheme? (by decide +kernel)
  exact ⟨hmark, hhash, hplain, hopens hmark hhash, htarget hplain⟩

/-- A file whose name has a hash sign is rejected, whatever the name ends with, or opened as of the
format that stands before the mark. -/
theorem not_opensBy_report :
    IsPlain "report#1.xlsx".toList ∧ EndsAs "report#1.xlsx".toList .openXml ∧
      (∀ disk, load disk "report#1.xlsx" = .error (.unsupportedFormat "report#1.xlsx")) ∧
      ¬OpensBy "report#1.xlsx".toList "report#1.xlsx" ∧
      EndsAs "prices.ods?v2.xlsx".toList .openXml ∧
      Format.ofName? "prices.ods?v2.xlsx" = some .openDocument := by
  have hreport : EndsAs "report#1.xlsx".toList .openXml :=
    ⟨"report#1".toList, "xlsx".toList, rfl, by decide, by decide, "xlsx", by decide, rfl⟩
  have hprices : EndsAs "prices.ods?v2.xlsx".toList .openXml :=
    ⟨"prices.ods?v2".toList, "xlsx".toList, rfl, by decide, by decide, "xlsx", by decide, rfl⟩
  have hnone : Format.ofName? "report#1.xlsx" = none := by decide
  refine ⟨isPlain_of_scheme? (by decide +kernel), hreport,
    fun disk => load_eq_unsupportedFormat_iff.mpr ⟨rfl, hnone⟩, fun h => ?_, hprices, by decide⟩
  exact absurd ((h.chosen .openXml).mpr hreport) (by rw [hnone]; simp)

end DataDictionary.Workbook
