import TemplateScan.Proofs.Document.Walk

/-!
# Progress through a document

Where a part of a document is entered at a character that tells it, as an end tag is at its two
marks, reading it gets further.

* `leads_pathStep`, `leads_attributeStep`: a step of a path or through attributes that goes on gets
  further.
* `leads_documentStep`: one through a document gets further, or it stays and closes an element.
-/

namespace TemplateScan.Document

open Text TokenSet

namespace Run

/-! ## Paths -/

/-- A step of a path stops, or gets further. -/
theorem leads_pathStep (text : List Char) : Leads text id id Further pathStep := by
  intro r
  rw [pathStep]
  split
  · next hscan => exact (walks_of_scan hscan).trans (walks_raise _)
  · next hscan =>
    split
    · next hdot => exact (walks_of_scan hscan).advances (advances_next hdot)
    · exact walks_of_scan hscan

/-! ## Start tags, end tags and raw text -/

section ElementTag

variable {text : List Char} {r : Run}

/-- An end tag is read from its two marks on. -/
theorem advances_endTag (hne : r.ahead ≠ []) : Advances text r r.endTag.2 := by
  have hmarks : Advances text r (r.advance 2) := advances_advance Nat.two_pos hne
  rw [endTag]
  split
  · next hscan =>
    exact ((hmarks.trans (walks_of_scan hscan)).trans (walks_raise _)).trans
      ((acts_closeAngle (p := Unrestricted)).walks _)
  · next hscan =>
    exact (hmarks.trans (walks_of_scan hscan)).trans ((acts_closeAngle (p := Unrestricted)).walks _)

theorem advances_oneAttribute (hne : r.ahead ≠ []) : Advances text r r.oneAttribute := by
  rw [oneAttribute]
  split
  · next hname =>
    have hbehind : Advances text r (r.skipWhile isAttributeNameChar).skipBlanks :=
      (advances_skipWhile hname).trans walks_skipBlanks
    dsimp only
    split
    · exact ((hbehind.trans walks_advance).trans walks_skipBlanks).trans
        ((acts_attributeValue (p := Unrestricted)).walks _)
    · exact hbehind
  · exact (walks_raise _).advances (advances_char hne)

/-- A step through the attributes ends the tag, or gets further. -/
theorem leads_attributeStep (text : List Char) :
    Leads text id Prod.snd Further attributeStep := by
  intro r
  have hblanks : Walks r r.skipBlanks := walks_skipBlanks
  rw [attributeStep]
  split
  · exact hblanks.trans (walks_raise _)
  · exact hblanks.trans walks_advance
  · next hnext =>
    split
    · next hscan => exact hblanks.trans (walks_of_scan hscan)
    · next last hscan =>
      -- nothing is found, so the slash is still ahead
      have hslash : (last.raise .unexpectedCharacter).next? = some '/' := by
        show last.place.next? = some '/'
        rw [place_of_scan_none hscan]
        exact hnext
      have hraise := (hblanks.trans (walks_of_scan hscan)).trans (walks_raise .unexpectedCharacter)
      exact hraise.advances (advances_next hslash)
  · next hnext =>
    have hne : r.skipBlanks.ahead ≠ [] := ahead_ne_nil hnext
    split
    · split
      · next kind next hscan =>
        have htext : kind.mayBeEmpty = false := by
          cases hempty : kind.mayBeEmpty with
          | false => rfl
          | true =>
            have hvalid := contains_of_mayBeEmpty hscan hempty
            obtain rfl : kind = .mustacheStartDelimiter := beq_iff_eq.mp hvalid
            cases hempty
        exact hblanks.advances ((advances_of_scan hscan htext).trans (acts_mustacheTag.walks _))
      · next last hscan =>
        have hlast : last.ahead ≠ [] := by
          rw [ahead, place_of_scan_none hscan]
          exact hne
        exact (hblanks.trans (walks_of_scan hscan)).advances (advances_char hlast)
    · exact hblanks.advances (advances_oneAttribute hne)

/-- A start tag is read from its mark on. -/
theorem advances_startTag (hne : r.ahead ≠ []) : Advances text r r.startTag.2 := by
  have hmark : Advances text r (r.advance 1) := advances_char hne
  rw [startTag]
  split
  · next hscan => exact (hmark.trans (walks_of_scan hscan)).trans (walks_raise _)
  · next name hscan =>
    have hname := hmark.trans (walks_of_scan hscan)
    have hattributes : Advances text r name.attributes.2 :=
      hname.trans (procedure_attributes.walks _)
    split
    · next hend => rwa [hend] at hattributes
    · next hend =>
      rw [hend] at hattributes
      split
      · exact hattributes.trans ((acts_rawTextBody (p := Unrestricted)).walks _)
      · exact hattributes

end ElementTag

/-! ## Documents -/

section Document

variable {text : List Char} {r : Run}

theorem advances_declaration (hne : r.ahead ≠ []) : Advances text r r.declaration := by
  rw [declaration]
  split
  · exact advances_advance (Nat.succ_pos _) hne
  · exact (walks_raise _).advances (advances_toEnd hne)

/-- What a step through the content of an element comes to: content gets further, an element ends
only where one is open, and an end tag is told by its marks. -/
def ContentLeads (text : List Char) (r : Run) (inElement : Bool) : Progress × Run → Prop
  | (.content, last) | (.elementBegun, last) => Advances text r last
  | (.elementEnded, last) => Walks r last ∧ inElement = true
  | (.endTagAhead, last) => Walks r last ∧ ['<', '/'] <+: last.ahead
  | (.textEnded, last) => Walks r last

theorem ContentLeads.behind {r next : Run} {inElement : Bool} {x : Progress × Run}
    (hwalk : Walks r next) (hleads : ContentLeads text next inElement x) :
    ContentLeads text r inElement x := by
  obtain ⟨progress, last⟩ := x
  cases progress with
  | content | elementBegun => exact hwalk.advances hleads
  | elementEnded | endTagAhead => exact ⟨hwalk.trans hleads.1, hleads.2⟩
  | textEnded => exact hwalk.trans hleads

theorem ContentLeads.walks {inElement : Bool} {x : Progress × Run}
    (hleads : ContentLeads text r inElement x) : Walks r x.2 := by
  obtain ⟨progress, last⟩ := x
  cases progress with
  | content | elementBegun => exact Advances.walks hleads
  | elementEnded | endTagAhead => exact hleads.1
  | textEnded => exact hleads

theorem contentLeads_markup (inElement : Bool) : ContentLeads text r inElement r.markup := by
  unfold markup
  split
  · exact Walks.refl
  · next rest hahead => exact ⟨Walks.refl, rest, hahead.symm⟩
  · next hahead =>
    apply (walks_raise _).advances
    apply advances_toEnd
    show r.ahead ≠ []
    simp [hahead]
  · next hahead =>
    apply advances_declaration
    simp [hahead]
  · next hahead =>
    have hstart : Advances text r r.startTag.2 := advances_startTag (by rw [hahead]; simp)
    split
    · next heq => rwa [heq] at hstart
    · next heq => rwa [heq] at hstart
  · next hempty _ _ _ _ =>
    exact (walks_raise _).advances (advances_char hempty)

theorem contentLeads_content (inElement : Bool) :
    ContentLeads text r inElement (r.content inElement) := by
  apply ContentLeads.behind walks_skipBlanks
  rw [content]
  split
  · next hscan =>
    have hvalid := contains_of_mayBeEmpty hscan rfl
    refine ⟨walks_of_scan hscan, ?_⟩
    cases inElement with
    | false => cases hvalid
    | true => rfl
  · next hscan => exact (advances_of_scan hscan rfl).trans (acts_mustacheTag.walks _)
  · next kind last himplied _ hscan =>
    -- of the tokens that may be empty, content admits the implied end alone
    have htext : kind.mayBeEmpty = false := by
      cases hempty : kind.mayBeEmpty with
      | false => rfl
      | true =>
        have hvalid := contains_of_mayBeEmpty hscan hempty
        cases kind with
        | implicitEndTag => exact absurd rfl himplied
        | rawText | mustacheComment => cases inElement <;> cases hvalid
        | _ => cases hempty
    exact advances_of_scan hscan htext
  · next hscan => exact (contentLeads_markup inElement).behind (walks_of_scan hscan)

/-- One state of a document, with the number of open elements, is closer to the end than the other:
it is further on, where one more element may be open, or at the same place and fewer are open. -/
def Closer (s next : Run × Nat) : Prop :=
  (Further s.1 next.1 ∧ next.2 ≤ s.2 + 1) ∨
    (next.1.place.offset = s.1.place.offset ∧ next.2 < s.2)

theorem leads_documentStep (text : List Char) : Leads text Prod.fst id Closer documentStep := by
  intro s
  obtain ⟨r, depth⟩ := s
  have hcontent : ContentLeads text r (0 < depth) (r.content (0 < depth)) := contentLeads_content _
  rw [documentStep]
  -- where an element ends, one was open, so that fewer are open behind it
  have hends : ∀ {last : Run}, Walks r last → 0 < depth → r.IsOver text →
      Closer (r, depth) (last, depth - 1) := by
    intro last hwalk hdepth hr
    rcases Nat.lt_or_eq_of_le (hwalk.offset_le hr) with hfurther | hsame
    · exact Or.inl ⟨hfurther, Nat.le_succ_of_le (Nat.sub_le _ _)⟩
    · exact Or.inr ⟨hsame.symm, Nat.sub_lt hdepth Nat.one_pos⟩
  -- content gets further, and no more than one element begins with it
  have hreads : ∀ {last : Run} {depth' : Nat}, Advances text r last → depth' ≤ depth + 1 →
      Walks r last ∧ (r.IsOver text → Closer (r, depth) (last, depth')) := by
    intro last depth' hadvance hdepth
    exact ⟨hadvance.walks, fun hr => Or.inl ⟨hadvance.2 hr, hdepth⟩⟩
  rcases hx : r.content (0 < depth) with ⟨progress, last⟩
  rw [hx] at hcontent
  cases progress with
  | content => exact hreads hcontent (Nat.le_succ depth)
  | elementBegun => exact hreads hcontent (Nat.le_refl _)
  | elementEnded => exact ⟨hcontent.1, hends hcontent.1 (of_decide_eq_true hcontent.2)⟩
  | endTagAhead =>
    obtain ⟨hwalk, hmarks⟩ := hcontent
    have hne : last.ahead ≠ [] := hmarks.ne_nil (by simp)
    have hend : Advances text r last.endTag.2 := hwalk.advances (advances_endTag hne)
    dsimp only
    split
    · next heq =>
      rw [heq] at hend
      exact hreads hend (Nat.le_succ_of_le (Nat.sub_le _ _))
    · next heq =>
      rw [heq] at hend
      exact hreads hend (Nat.le_succ depth)
  | textEnded =>
    dsimp only
    split
    · exact hcontent
    · next hdepth =>
      have hraise := hcontent.trans (walks_raise .missingEndTag)
      exact ⟨hraise, hends hraise (Nat.pos_of_ne_zero hdepth)⟩

end Document

end Run

end TemplateScan.Document
