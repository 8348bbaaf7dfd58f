import DataDictionary.Markup.Event

/-!
# Attributes of a tag

What follows the name of a tag is read from the left: name, equals sign and quoted value, white
space between them as wanted. A fault does not end the reading; it goes on behind what is at fault.
-/

namespace DataDictionary.Markup

/-- White space inside a tag. -/
def isSpace (b : UInt8) : Bool := b == 32 || b == 9 || b == 10 || b == 13

/-- A byte that ends the name of an attribute. -/
def endsName (b : UInt8) : Bool := isSpace b || b == 61

/-- What a quoted value is read to: the attribute, or what is missing; and what follows it. -/
def readValue (name : List UInt8) (s : List UInt8) :
    Except AttributeFault Attribute × List UInt8 :=
  match s.dropWhile isSpace with
  | [] => (.error .expectedValue, [])
  | q :: rest =>
    if q == 34 || q == 39 then
      match rest.dropWhile (· != q) with
      | _ :: after =>
        (.ok ⟨⟨name⟩, rest.takeWhile (· != q)⟩, after)
      | [] => (.error .expectedQuote, [])
    else (.error .unquotedValue, rest.dropWhile (!isSpace ·))

theorem length_dropWhile_le {α : Type} (p : α → Bool) (s : List α) :
    (s.dropWhile p).length ≤ s.length := (List.dropWhile_suffix p).length_le

theorem readValue_length (name s : List UInt8) : (readValue name s).2.length ≤ s.length := by
  have h0 := length_dropWhile_le isSpace s
  simp only [readValue]
  split
  · simp
  · next q rest hs =>
    rw [hs, List.length_cons] at h0
    split
    · have h1 := length_dropWhile_le (· != q) rest
      split
      · next after ha => rw [ha, List.length_cons] at h1; simp only; omega
      · simp
    · have h1 := length_dropWhile_le (!isSpace ·) rest
      simp only; omega

/-- Read the attributes of a tag. With `distinct`, a name in `seen` is a fault. -/
def attributesFrom (distinct : Bool) (seen : List (List UInt8)) (s : List UInt8) :
    List (Except AttributeFault Attribute) :=
  match _hs : s.dropWhile isSpace with
  | [] => []
  | c :: rest =>
    let name := c :: rest.takeWhile (!endsName ·)
    match _hr : (rest.dropWhile (!endsName ·)).dropWhile isSpace with
    | [] => [.error .expectedEq]
    | e :: after =>
      if e == 61 then
        if distinct && seen.contains name then
          .error .duplicated :: attributesFrom distinct seen (after.dropWhile (!isSpace ·))
        else
          (readValue name after).1 ::
            attributesFrom distinct (name :: seen) (readValue name after).2
      else .error .expectedEq :: attributesFrom distinct seen (e :: after)
termination_by s.length
decreasing_by
  all_goals
    have h0 := length_dropWhile_le isSpace s
    have h1 := length_dropWhile_le (!endsName ·) rest
    have h2 := length_dropWhile_le isSpace (rest.dropWhile (!endsName ·))
    rw [_hs, List.length_cons] at h0
    rw [_hr, List.length_cons] at h2
  · have h3 := length_dropWhile_le (!isSpace ·) after
    omega
  · have h3 := readValue_length (c :: rest.takeWhile (!endsName ·)) after
    omega
  · simp only [List.length_cons]; omega

/-- The tag of the given text, the brackets left out. -/
def Tag.ofBytes (content : List UInt8) : Tag :=
  let rest := content.dropWhile (!isSpace ·)
  { name := ⟨content.takeWhile (!isSpace ·)⟩
    attributes := attributesFrom false [] rest
    distinctAttributes := attributesFrom true [] rest }

end DataDictionary.Markup
