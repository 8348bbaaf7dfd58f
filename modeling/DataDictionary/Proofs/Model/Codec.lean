import DataDictionary.Model.Codec
import DataDictionary.Proofs.Validation.Codec

/-!
# Tables that are read back

Flags are always written and an attribute that is absent is left out, so the keys of a field say
which attributes it has, and no value that is written reads as null. The default values of fields
and the bounds of their validations are the only numbers in a table.
-/

namespace DataDictionary

open Json (bool? string? strings? required? withDefault? optional? present optionalMember_eq
  required?_present withDefault?_present optional?_present fields?_present list?_map
  strings?_ofStrings readable_of_mem_some readable_of_mem_map)

/-! ### Numbers -/

/-- The number of a value. -/
def Scalar.numbers : Scalar → List Binary64
  | .number x => [x]
  | _ => []

/-- The default value and the bounds of a field. -/
def Field.numbers (field : Field) : List Binary64 :=
  field.default.toList.flatMap Scalar.numbers ++ field.validation.numbers

/-- The numbers of the fields of a table. -/
def Table.numbers (table : Table) : List Binary64 := table.fields.flatMap Field.numbers

lemma Field.mem_numbers_of_default {field : Field} {value : Scalar}
    (hvalue : value ∈ field.default) {x : Binary64} (hx : x ∈ value.numbers) :
    x ∈ field.numbers :=
  List.mem_append_left _ (List.mem_flatMap.mpr ⟨value, Option.mem_toList.mpr hvalue, hx⟩)

lemma Field.mem_numbers_of_validation {field : Field} {x : Binary64}
    (hx : x ∈ field.validation.numbers) : x ∈ field.numbers :=
  List.mem_append_right _ hx

lemma Table.mem_numbers {table : Table} {field : Field} (hfield : field ∈ table.fields)
    {x : Binary64} (hx : x ∈ field.numbers) : x ∈ table.numbers :=
  List.mem_flatMap.mpr ⟨field, hfield, hx⟩

/-! ### Parts of fields -/

lemma SemanticType.ofJson?_toJson (type : SemanticType) :
    SemanticType.ofJson? type.toJson = some type := by
  cases type <;> rfl

/-- What is written of a reference. -/
def Reference.entries (reference : Reference) : List (String × Option Json) :=
  [("table", reference.table.map .string), ("key", reference.key.map .string)]

lemma Reference.nodup_keys (reference : Reference) :
    (reference.entries.map Prod.fst).Nodup := by
  have hkeys : ["table", "key"].Nodup := by decide
  exact hkeys

lemma Reference.toJson_eq (reference : Reference) :
    reference.toJson = .object (present reference.entries) := by
  simp only [toJson, entries, present, List.flatMap_cons, List.flatMap_nil, List.append_nil,
    ← optionalMember_eq]

lemma Reference.ofJson?_toJson (reference : Reference) :
    Reference.ofJson? reference.toJson = some reference := by
  have h := reference.nodup_keys
  rw [toJson_eq, ofJson?, fields?_present h]
  have htable := optional?_present Json.string? h
    (List.mem_of_getElem? (i := 0) rfl) (fun _ => Json.noConfusion) (fun _ _ => rfl)
  have hkey := optional?_present Json.string? h
    (List.mem_of_getElem? (i := 1) rfl) (fun _ => Json.noConfusion) (fun _ _ => rfl)
  simp only [Option.bind_eq_bind, Option.bind_some, htable, hkey]

lemma Scalar.ofJson?_toJson {value : Scalar} (h : ∀ x ∈ value.numbers, x.isFinite = true) :
    Scalar.ofJson? value.toJson = some value := by
  cases value with
  | boolean b => rfl
  | number x => simp [ofJson?, toJson, Json.ofBinary64, Json.Number.value,
      h x (List.mem_singleton_self x)]
  | text s => rfl

lemma Scalar.toJson_ne_null (value : Scalar) : value.toJson ≠ .null := by
  cases value <;> exact Json.noConfusion

/-! ### Fields -/

/-- What is written of a field. -/
def Field.entries (field : Field) : List (String × Option Json) := [
  ("name", some (.string field.name)),
  ("semanticType", some field.type.toJson),
  ("rawType", some (.string field.rawType)),
  ("required", some (.bool field.required)),
  ("unique", some (.bool field.unique)),
  ("indexed", some (.bool field.indexed)),
  ("sortable", some (.bool field.sortable)),
  ("exportable", some (.bool field.exportable)),
  ("isPrimary", some (.bool field.isPrimary)),
  ("isForeign", some (.bool field.isForeign)),
  ("reference", field.reference.map Reference.toJson),
  ("isDependent", some (.bool field.isDependent)),
  ("dependentOn", field.dependentOn.map .string),
  ("isParent", some (.bool field.isParent)),
  ("childTable", field.childTable.map .string),
  ("defaultValue", field.default.map Scalar.toJson),
  ("enumValues", field.enumValues.map .ofStrings),
  ("uiHint", field.uiHint.map .string),
  ("comments", field.comments.map .string),
  ("faker", field.faker.map .string),
  ("validation", field.rules.map .string),
  ("validationExpression", some field.validation.toJson)]

/-- The entries of a field stand under its keys. -/
lemma Field.map_fst_entries (field : Field) : field.entries.map Prod.fst = Field.keys := rfl

lemma Field.nodup_keys (field : Field) : (field.entries.map Prod.fst).Nodup := by
  rw [map_fst_entries]
  decide

lemma Field.toJson_eq (field : Field) : field.toJson = .object (present field.entries) := by
  simp only [toJson, entries, present, List.flatMap_cons, List.flatMap_nil, List.append_nil,
    ← optionalMember_eq, List.append_assoc]
  rfl

/-- A field is what its JSON stands for. -/
lemma Field.ofJson?_toJson {field : Field} (hfinite : ∀ x ∈ field.numbers, x.isFinite = true) :
    Field.ofJson? field.toJson = some field := by
  have h := field.nodup_keys
  have hflag (key : String) (b : Bool) (hentry : (key, some (.bool b)) ∈ field.entries) :
      withDefault? false bool? (present field.entries) key = some b := by
    rw [withDefault?_present bool? h false hentry, bool?]
  have htext (key : String) (text : Option String)
      (hentry : (key, text.map .string) ∈ field.entries) :
      optional? string? (present field.entries) key = some text :=
    optional?_present string? h hentry (fun _ => Json.noConfusion) (fun _ _ => rfl)
  have hname : required? string? (present field.entries) "name" = some field.name :=
    required?_present string? h (List.mem_of_getElem? (i := 0) rfl)
  have htype : required? SemanticType.ofJson? (present field.entries) "semanticType" =
      some field.type := by
    rw [required?_present _ h (List.mem_of_getElem? (i := 1) rfl), SemanticType.ofJson?_toJson]
  have hrawType : withDefault? "" string? (present field.entries) "rawType" =
      some field.rawType :=
    withDefault?_present string? h "" (List.mem_of_getElem? (i := 2) rfl)
  have hreference : optional? Reference.ofJson? (present field.entries) "reference" =
      some field.reference :=
    optional?_present _ h (List.mem_of_getElem? (i := 10) rfl) (fun _ => Json.noConfusion)
      fun reference _ => reference.ofJson?_toJson
  have hdefault : optional? Scalar.ofJson? (present field.entries) "defaultValue" =
      some field.default :=
    optional?_present _ h (List.mem_of_getElem? (i := 15) rfl) Scalar.toJson_ne_null
      fun value hvalue => Scalar.ofJson?_toJson fun x hx =>
        hfinite x (mem_numbers_of_default hvalue hx)
  have henumValues : optional? strings? (present field.entries) "enumValues" =
      some field.enumValues :=
    optional?_present _ h (List.mem_of_getElem? (i := 16) rfl) (fun _ => Json.noConfusion)
      fun texts _ => strings?_ofStrings texts
  have hvalidation : required? Validation.Expression.ofJson? (present field.entries)
      "validationExpression" = some field.validation := by
    rw [required?_present _ h (List.mem_of_getElem? (i := 21) rfl)]
    exact Validation.Expression.ofJson?_toJson fun x hx =>
      hfinite x (mem_numbers_of_validation hx)
  have hrequired := hflag "required" field.required (List.mem_of_getElem? (i := 3) rfl)
  have hunique := hflag "unique" field.unique (List.mem_of_getElem? (i := 4) rfl)
  have hindexed := hflag "indexed" field.indexed (List.mem_of_getElem? (i := 5) rfl)
  have hsortable := hflag "sortable" field.sortable (List.mem_of_getElem? (i := 6) rfl)
  have hexportable := hflag "exportable" field.exportable (List.mem_of_getElem? (i := 7) rfl)
  have hisPrimary := hflag "isPrimary" field.isPrimary (List.mem_of_getElem? (i := 8) rfl)
  have hisForeign := hflag "isForeign" field.isForeign (List.mem_of_getElem? (i := 9) rfl)
  have hisDependent := hflag "isDependent" field.isDependent (List.mem_of_getElem? (i := 11) rfl)
  have hisParent := hflag "isParent" field.isParent (List.mem_of_getElem? (i := 13) rfl)
  have hdependentOn := htext "dependentOn" field.dependentOn (List.mem_of_getElem? (i := 12) rfl)
  have hchildTable := htext "childTable" field.childTable (List.mem_of_getElem? (i := 14) rfl)
  have huiHint := htext "uiHint" field.uiHint (List.mem_of_getElem? (i := 17) rfl)
  have hcomments := htext "comments" field.comments (List.mem_of_getElem? (i := 18) rfl)
  have hfaker := htext "faker" field.faker (List.mem_of_getElem? (i := 19) rfl)
  have hrules := htext "validation" field.rules (List.mem_of_getElem? (i := 20) rfl)
  rw [toJson_eq, ofJson?, fields?_present h, Option.bind_eq_bind, Option.bind_some, hname, htype,
    hrawType, hrequired, hunique, hindexed, hsortable, hexportable, hisPrimary, hisForeign,
    hreference, hisDependent, hdependentOn, hisParent, hchildTable, hdefault, henumValues, huiHint,
    hcomments, hfaker, hrules, hvalidation]
  rfl

/-! ### Tables -/

/-- What is written of a table. -/
def Table.entries (table : Table) : List (String × Option Json) :=
  [("tableName", some (.string table.name)),
   ("fields", some (.array (table.fields.map Field.toJson)))]

lemma Table.nodup_keys (table : Table) : (table.entries.map Prod.fst).Nodup := by
  have hkeys : ["tableName", "fields"].Nodup := by decide
  exact hkeys

lemma Table.toJson_eq (table : Table) : table.toJson = .object (present table.entries) := rfl

/-- A table is what its JSON stands for. -/
lemma Table.ofJson?_toJson {table : Table} (hfinite : ∀ x ∈ table.numbers, x.isFinite = true) :
    Table.ofJson? table.toJson = some table := by
  have h := table.nodup_keys
  have hlist : Json.list? Field.ofJson? (.array (table.fields.map Field.toJson)) =
      some table.fields :=
    list?_map fun field hfield => Field.ofJson?_toJson fun x hx =>
      hfinite x (mem_numbers hfield hx)
  have hname : required? string? (present table.entries) "tableName" = some table.name :=
    required?_present string? h (List.mem_of_getElem? (i := 0) rfl)
  have hfields : required? (Json.list? Field.ofJson?) (present table.entries) "fields" =
      some table.fields := by
    rw [required?_present _ h (List.mem_of_getElem? (i := 1) rfl), hlist]
  rw [toJson_eq, ofJson?, fields?_present h]
  simp only [Option.bind_eq_bind, Option.bind_some, hname, hfields]

/-! ### Reading the text -/

lemma Scalar.readable_toJson {value : Scalar}
    (h : ∀ x ∈ value.numbers, x.isFinite = true ∧ x.ReadsBack) : value.toJson.Readable := by
  cases value with
  | boolean b => exact .bool b
  | number x =>
    have hx := h x (List.mem_singleton_self x)
    exact Validation.readable_ofBinary64 hx.1 hx.2
  | text s => exact .string s

lemma Reference.readable_toJson (reference : Reference) : reference.toJson.Readable := by
  rw [toJson_eq]
  refine .present ?_
  simp only [entries, List.forall_mem_cons]
  exact ⟨readable_of_mem_map fun text _ => .string text,
    readable_of_mem_map fun text _ => .string text, by simp⟩

/-- A field whose numbers are read back is read back. -/
lemma Field.readable_toJson {field : Field}
    (h : ∀ x ∈ field.numbers, x.isFinite = true ∧ x.ReadsBack) : field.toJson.Readable := by
  have hstring (text : String) : ∀ json ∈ some (Json.string text), json.Readable :=
    readable_of_mem_some (.string text)
  have hbool (b : Bool) : ∀ json ∈ some (Json.bool b), json.Readable :=
    readable_of_mem_some (.bool b)
  have htext (text : Option String) : ∀ json ∈ text.map Json.string, json.Readable :=
    readable_of_mem_map fun text _ => .string text
  have hreference : ∀ json ∈ field.reference.map Reference.toJson, json.Readable :=
    readable_of_mem_map fun reference _ => reference.readable_toJson
  have hdefault : ∀ json ∈ field.default.map Scalar.toJson, json.Readable :=
    readable_of_mem_map fun value hvalue => Scalar.readable_toJson fun x hx =>
      h x (mem_numbers_of_default hvalue hx)
  have henumValues : ∀ json ∈ field.enumValues.map Json.ofStrings, json.Readable :=
    readable_of_mem_map fun texts _ => .ofStrings texts
  have hvalidation : ∀ json ∈ some field.validation.toJson, json.Readable :=
    readable_of_mem_some (Validation.Expression.readable_toJson fun x hx =>
      h x (mem_numbers_of_validation hx))
  rw [toJson_eq]
  refine .present ?_
  simp only [entries, List.forall_mem_cons]
  exact ⟨hstring _, hstring _, hstring _, hbool _, hbool _, hbool _, hbool _, hbool _, hbool _,
    hbool _, hreference, hbool _, htext _, hbool _, htext _, hdefault, henumValues, htext _,
    htext _, htext _, htext _, hvalidation, by simp⟩

lemma Table.readable_toJson {table : Table}
    (h : ∀ x ∈ table.numbers, x.isFinite = true ∧ x.ReadsBack) : table.toJson.Readable := by
  refine .object ?_
  simp only [List.forall_mem_cons]
  refine ⟨.string _, ?_, by simp⟩
  exact .map fun field hfield => Field.readable_toJson fun x hx => h x (mem_numbers hfield hx)

end DataDictionary
