import TemplateScan.Lexing.Choice
import TemplateScan.Proofs.Lexing.Characters

/-!
# Names and implied ends of elements

What the recognizers of tags find where a name stands before a character that is none of a name: the
name is found as a whole, and the innermost element ends before the tag only if the tag leaves no
other reading.
-/

namespace TemplateScan.Lexing

open Text Markup

/-! ## Whole names -/

section Name

variable {name rest : List Char}

/-- Where no kind of token chooses but the names of tags, a character of a name begins one. -/
theorem atNext_of_isNameChar {s : ScanState} {valid : TokenSet} {c : Char}
    (hc : isNameChar c = true) (htext : valid.contains .mustacheText = false)
    (hopening : valid.contains .mustacheStartDelimiter = false)
    (hraw : valid.contains .rawText = false) :
    atNext s valid (c :: rest) =
      if valid.contains .startTagName then startTagName (c :: rest)
      else if valid.contains .endTagName then endTagName s.tags (c :: rest) else .decline 0 := by
  -- neither `/` nor `<` is a character of a name
  have hslash : c ≠ '/' := by
    rintro rfl
    cases hc
  rw [atNext]
  · rw [atOther, htext, hopening, hraw]
    simp [hslash]
  · rintro rfl
    cases hc

/-- A name is found as a whole where no character of a name follows it. -/
theorem tagName_append (hname : ∀ c ∈ name, isNameChar c = true)
    (hrest : rest.head?.all (!isNameChar ·) = true) : tagName (name ++ rest) = name :=
  takeWhile_append_stop hname hrest

/-- The text ahead is a name, and what cannot belong to it. -/
theorem exists_tagName_append (ahead : List Char) :
    ∃ rest, ahead = tagName ahead ++ rest ∧ rest.head?.all (!isNameChar ·) = true :=
  exists_takeWhile_append isNameChar ahead

theorem startTagName_append (hne : name ≠ []) (hname : ∀ c ∈ name, isNameChar c = true)
    (hrest : rest.head?.all (!isNameChar ·) = true) :
    startTagName (name ++ rest) = .take (.startTag (tagOf name)) name.length := by
  have hempty : name.isEmpty = false := by simp [hne]
  rw [startTagName, tagName_append hname hrest, hempty]
  rfl

theorem endTagName_append {tags : Nesting Tag} (hne : name ≠ [])
    (hname : ∀ c ∈ name, isNameChar c = true) (hrest : rest.head?.all (!isNameChar ·) = true)
    (hcloses : tags.closes (tagOf name) = true) :
    endTagName tags (name ++ rest) = .take .endTag name.length := by
  have hempty : name.isEmpty = false := by simp [hne]
  rw [endTagName, tagName_append hname hrest, hempty, hcloses]
  rfl

/-- A name that is ahead as a whole decides whether an element ends before the tag. -/
theorem impliedEndBefore_append {ends : Tag → Bool → Bool} (consumed : Nat) (hne : name ≠ [])
    (hname : ∀ c ∈ name, isNameChar c = true) (hrest : rest.head?.all (!isNameChar ·) = true) :
    impliedEndBefore ends consumed (name ++ rest) =
      if ends (tagOf name) rest.isEmpty then .here .implicitEnd (consumed + name.length)
      else .decline (consumed + name.length) := by
  have hempty : name.isEmpty = false := by simp [hne]
  rw [impliedEndBefore, tagName_append hname hrest]
  simp [hempty]

theorem impliedEnd_slash_append (tags : Nesting Tag) (consumed : Nat) (hne : name ≠ [])
    (hname : ∀ c ∈ name, isNameChar c = true) (hrest : rest.head?.all (!isNameChar ·) = true) :
    impliedEnd tags consumed ('/' :: (name ++ rest)) =
      if endsBeforeEndTag tags (tagOf name) then .here .implicitEnd (consumed + 1 + name.length)
      else .decline (consumed + 1 + name.length) := by
  rw [impliedEnd]
  exact impliedEndBefore_append _ hne hname hrest

theorem impliedEnd_append (tags : Nesting Tag) (consumed : Nat) (hne : name ≠ [])
    (hname : ∀ c ∈ name, isNameChar c = true) (hrest : rest.head?.all (!isNameChar ·) = true) :
    impliedEnd tags consumed (name ++ rest) =
      if tags.top?.any Tag.isVoid then .here .implicitEnd consumed
      else if endsBeforeStartTag tags (tagOf name) rest.isEmpty then
        .here .implicitEnd (consumed + name.length)
      else .decline (consumed + name.length) := by
  -- a slash would tell an end tag, but no name begins with one
  obtain ⟨c, later, rfl⟩ := List.exists_cons_of_ne_nil hne
  have hslash : c ≠ '/' := by
    rintro rfl
    exact absurd (hname '/' (List.mem_cons_self ..)) (by decide)
  rw [List.cons_append, impliedEnd]
  · rw [← List.cons_append, impliedEndBefore_append consumed hne hname hrest]
  · intro ahead heq
    exact hslash (List.cons.inj heq).1

/-- The innermost element does not end before its own end tag. -/
theorem impliedEnd_endTag {tags : Nesting Tag} (consumed : Nat) (hne : name ≠ [])
    (hname : ∀ c ∈ name, isNameChar c = true) (hrest : rest.head?.all (!isNameChar ·) = true)
    (hcloses : tags.closes (tagOf name) = true) :
    impliedEnd tags consumed ('/' :: (name ++ rest)) = .decline (consumed + 1 + name.length) := by
  have hends : endsBeforeEndTag tags (tagOf name) = false := by simp [endsBeforeEndTag, hcloses]
  rw [impliedEnd_slash_append tags consumed hne hname hrest, hends]
  rfl

/-- The innermost element does not end before the start tag of an element that it can contain. -/
theorem impliedEnd_startTag {tags : Nesting Tag} (consumed : Nat) (hne : name ≠ [])
    (hname : ∀ c ∈ name, isNameChar c = true) (hrest : rest.head?.all (!isNameChar ·) = true)
    (hgoesOn : rest ≠ []) (hvoid : tags.top?.all (!·.isVoid) = true)
    (hcontains : tags.top?.all (·.canContain (tagOf name)) = true) :
    impliedEnd tags consumed (name ++ rest) = .decline (consumed + name.length) := by
  -- the element around is not void and can contain the new one, so it goes on
  have hends : endsBeforeStartTag tags (tagOf name) rest.isEmpty = false := by
    rw [endsBeforeStartTag]
    cases htop : tags.top? with
    | none => rfl
    | some parent => simp_all
  have hopen : tags.top?.any Tag.isVoid = false := by
    cases htop : tags.top? with
    | none => rfl
    | some parent => simp_all
  rw [impliedEnd_append tags consumed hne hname hrest, hopen, hends]
  rfl

/-- Where the innermost element does not end before a start tag, it is not void and can contain the
new element. -/
theorem canContain_of_impliedEnd {tags : Nesting Tag} {consumed : Nat} (hne : name ≠ [])
    (hname : ∀ c ∈ name, isNameChar c = true) (hrest : rest.head?.all (!isNameChar ·) = true)
    (hnothing : (impliedEnd tags consumed (name ++ rest)).finding = .nothing) :
    ∀ parent ∈ tags.top?, parent.isVoid = false ∧ parent.canContain (tagOf name) = true := by
  rw [impliedEnd_append tags consumed hne hname hrest] at hnothing
  intro parent hparent
  have htop : tags.top? = some parent := hparent
  cases hvoid : parent.isVoid with
  | true =>
    rw [htop, Option.any_some, hvoid] at hnothing
    cases hnothing
  | false =>
    cases hcontains : parent.canContain (tagOf name) with
    | true => exact ⟨rfl, rfl⟩
    | false =>
      have hends : endsBeforeStartTag tags (tagOf name) rest.isEmpty = true := by
        simp [endsBeforeStartTag, htop, hcontains]
      rw [htop, Option.any_some, hvoid, hends] at hnothing
      cases hnothing

end Name

end TemplateScan.Lexing
