import DataDictionary.Proofs.Markup.Written

/-!
# Attributes that are left out

A tag without its attributes of a name has the others as before. If nothing is wrong between its
attributes, then it has none of that name.
-/

namespace DataDictionary.Markup

open Text

/-- The attribute has the name. -/
def isNamed (name : String) : Except AttributeFault Attribute → Bool
  | .ok a => a.name.is name
  | .error _ => false

@[simp] lemma isNamed_ok (name : String) (a : Attribute) :
    isNamed name (.ok a) = a.name.is name := rfl

/-- The tag without its attributes of a name. -/
def Tag.without (name : String) (tag : Tag) : Tag :=
  { tag with
    attributes := tag.attributes.filter (!isNamed name ·)
    distinctAttributes := tag.distinctAttributes.filter (!isNamed name ·) }

/-- Nothing is wrong between the attributes of the tag. -/
def Tag.IsFaultless (tag : Tag) : Prop := ∀ fault, .error fault ∉ tag.attributes

lemma Name.eq_of_is {name : Name} {s : String} (h : name.is s = true) : name = ⟨bytesOf s⟩ :=
  congrArg Name.mk (eq_of_beq h)

lemma findAttribute_filter {name other : String} (h : other ≠ name)
    (attributes : List (Except AttributeFault Attribute)) :
    findAttribute other (attributes.filter (!isNamed name ·)) =
      findAttribute other attributes := by
  induction attributes with
  | nil => rfl
  | cons entry attributes ih =>
    cases entry with
    | error fault => rfl
    | ok a =>
      cases hname : a.name.is name with
      | false => simp [hname, findAttribute, ih]
      | true =>
        have hother : a.name.is other = false := by
          rw [Name.eq_of_is hname, Name.is_bytesOf]
          simpa using h.symm
        simp [hname, findAttribute, hother, ih]

lemma findAttribute_filter_self (name : String)
    {attributes : List (Except AttributeFault Attribute)}
    (h : ∀ fault, .error fault ∉ attributes) :
    findAttribute name (attributes.filter (!isNamed name ·)) = .ok none := by
  induction attributes with
  | nil => rfl
  | cons entry attributes ih =>
    have hrest : ∀ fault, .error fault ∉ attributes :=
      fun fault hmem => h fault (List.mem_cons_of_mem _ hmem)
    cases entry with
    | error fault => exact absurd (List.mem_cons_self ..) (h fault)
    | ok a =>
      cases hname : a.name.is name with
      | false => simp [hname, findAttribute, ih hrest]
      | true => simp [hname, ih hrest]

lemma Tag.attribute?_without {name other : String} (h : other ≠ name) (tag : Tag) :
    (tag.without name).attribute? other = tag.attribute? other := by
  simp only [attribute?, without, findAttribute_filter h]

lemma Tag.count?_without_of_ne {name other : String} (h : other ≠ name) (tag : Tag) :
    (tag.without name).count? other = tag.count? other := by
  rw [count?, count?, attribute?_without h]

lemma Tag.attribute?_without_self {tag : Tag} (h : tag.IsFaultless) (name : String) :
    (tag.without name).attribute? name = .ok none := by
  simp only [attribute?, without, findAttribute_filter_self name h]

lemma Tag.count?_without {tag : Tag} (h : tag.IsFaultless) (name : String) :
    (tag.without name).count? name = .ok none := by
  rw [count?, attribute?_without_self h]

lemma Tag.IsFaultless.without {tag : Tag} (h : tag.IsFaultless) (name : String) :
    (tag.without name).IsFaultless :=
  fun fault hmem => h fault (List.mem_filter.mp hmem).1

lemma Tag.IsFaultless.written (name : String) (attributes : List (String × String)) :
    (Tag.written name attributes).IsFaultless := by
  intro fault hmem
  obtain ⟨a, -, ha⟩ := List.mem_map.mp hmem
  cases ha

lemma Tag.count?_written {tag name value : String} {attributes : List (String × String)}
    {count : Nat} (h : attributes.lookup name = some value)
    (hcount : readCount value.toList = .ok count) :
    (Tag.written tag attributes).count? name = .ok (some count) := by
  rw [count?, attribute?_written, h]
  simp only [hcount]

end DataDictionary.Markup
