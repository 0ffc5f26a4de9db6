import TemplateScan.Proofs.Document.ContentReading
import TemplateScan.Proofs.Document.Progress
import TemplateScan.Proofs.Text.Stretches

/-!
# Well-formed templates are read as what they are

Reading a document comes through a well-formed template with the tokens of its pieces, no issue and
nothing open, as long as the dashes of its comments can be counted.  With more dashes than that a
count goes over on the way.  The induction is on the template; it carries that the number of open
elements is the depth of the run, that the innermost one is the element around the node at hand, and
that what follows a text ends it.

* `Through`: the reading comes through a part of a document, or a count goes over in it.
* `Template.IsRead`: it does so wherever the template stands; `isRead_element`, `isRead_sectioned`,
  `isRead_of_content`: the nodes.
* `isRead_of_wellFormed`: well-formed templates are read.
* `Run.At.document`: the reading of a whole document.
-/

namespace TemplateScan.Document

open Text TokenSet Markup Mustache Lexing

namespace Run

/-! ## The steps through a document -/

section Steps

variable {r r' : Run} {done done' : List Piece} {ahead rest : List Char} {tags tags' : Nesting Tag}
  {sections sections' : Nesting String} {depth depth' : Nat}

/-- A step that reads something and opens at most one element is followed by the next one. -/
theorem At.documentFrom_eq (h : r.At done ahead tags sections) (chars : List Char)
    (hahead : ahead = chars ++ rest) (hne : chars ≠ []) (h' : r'.At done' rest tags' sections')
    (hdepth : depth' ≤ depth + 1) (hstep : documentStep (r, depth) = .inr (r', depth')) :
    documentFrom r depth = documentFrom r' depth' :=
  h.hasRead.documentFrom_eq chars hahead hne h'.hasRead hdepth hstep

theorem documentStep_element (hcontent : r.content (0 < depth) = (.elementBegun, r')) :
    documentStep (r, depth) = .inr (r', depth + 1) := by
  rw [documentStep, hcontent]

theorem documentStep_endTag {last : Run} (hcontent : r.content (0 < depth + 1) = (.endTagAhead, r'))
    (htag : r'.endTag = (some .endTagName, last)) :
    documentStep (r, depth + 1) = .inr (last, depth) := by
  rw [documentStep, hcontent]
  dsimp only
  rw [htag]
  rfl

/-- A step over content that neither begins nor ends an element. -/
theorem At.exists_content (h : r.At done ahead tags sections) (chars : List Char)
    (hahead : ahead = chars ++ rest) (hne : chars ≠ [])
    (hread : ∃ r' : Run, r.content (0 < depth) = (.content, r') ∧
      r'.At done' rest tags' sections') :
    ∃ r' : Run, documentFrom r depth = documentFrom r' depth ∧
      r'.At done' rest tags' sections' := by
  obtain ⟨r', hcontent, hr'⟩ := hread
  have hstep := documentStep_content hcontent
  exact ⟨r', h.documentFrom_eq chars hahead hne hr' (Nat.le_succ _) hstep, hr'⟩

end Steps

/-! ## Counts that go over -/

section Overflow

variable {r : Run} {depth : Nat}

/-- Content is read on from where the scan for it leads. -/
theorem walks_content (r : Run) (inElement : Bool) :
    Walks (r.skipBlanks.scan (contentTokens inElement)).2 (r.content inElement).2 := by
  have hmarkup : ∀ r : Run, ContentLeads [] r inElement r.markup :=
    fun _ => contentLeads_markup inElement
  rw [content]
  rcases r.skipBlanks.scan (contentTokens inElement) with ⟨kind?, last⟩
  split
  · next hscan =>
    cases hscan
    exact .refl
  · next hscan =>
    cases hscan
    exact acts_mustacheTag.walks _
  · next hscan =>
    cases hscan
    exact .refl
  · next hscan =>
    cases hscan
    exact (hmarkup _).walks

/-- The step through a document that begins with it goes on from there. -/
theorem walks_documentStep (r : Run) (depth : Nat) :
    (documentStep (r, depth)).elim (Walks (r.content (0 < depth)).2)
      fun next => Walks (r.content (0 < depth)).2 next.1 := by
  rw [documentStep]
  rcases r.content (0 < depth) with ⟨progress, last⟩
  cases progress with
  | content | elementBegun | elementEnded => exact Walks.refl
  | endTagAhead =>
    have hend : Walks last last.endTag.2 := (procedure_endTag (p := Unrestricted)).walks last
    dsimp only
    split
    · next heq => rwa [heq] at hend
    · next heq => rwa [heq] at hend
  | textEnded =>
    dsimp only
    split
    · exact Walks.refl
    · exact walks_raise _

/-- A count that goes over in a scan for content goes over in the document. -/
theorem overflowed_documentFrom {entry : Run} (hblanks : r.skipBlanks = entry)
    (hover : (entry.scan (contentTokens (0 < depth))).2.overflowed = true) :
    (documentFrom r depth).overflowed = true := by
  have hcontent : (r.content (0 < depth)).2.overflowed = true := by
    rw [← hblanks] at hover
    exact (walks_content r _).overflowed hover
  have hstep := walks_documentStep r depth
  rw [documentFrom, iterate]
  cases hnext : documentStep (r, depth) with
  | inl result =>
    rw [hnext] at hstep
    exact Walks.overflowed hstep hcontent
  | inr next =>
    rw [hnext] at hstep
    have hover := Walks.overflowed hstep hcontent
    dsimp only
    split
    · exact ((leads_documentStep []).walks_iterate (fun _ => rfl) next).overflowed hover
    · exact hover

end Overflow

/-! ## What ends a text -/

theorem startsBoundary_angle (rest : List Char) : startsBoundary {} ('<' :: rest) = true :=
  startsBoundary_iff.mpr (Or.inl rfl)

theorem startsBoundary_opening (rest : List Char) :
    startsBoundary {} ('\x7B' :: '\x7B' :: rest) = true := by
  apply startsBoundary_iff.mpr
  rw [openingText_builtin]
  exact Or.inr (Or.inl ⟨rest, rfl⟩)

/-- All nodes but texts end a text before them. -/
theorem ends_text_of_next {next : Template} {rest : List Char} (hnext : next.startsWithText = false)
    (hrest : rest = [] ∨ startsBoundary {} rest = true) :
    next.print ++ rest = [] ∨ startsBoundary {} (next.print ++ rest) = true := by
  cases next with
  | empty => exact hrest
  | element => exact Or.inr (Template.print_element .. ▸ startsBoundary_angle _)
  | selfClosing => exact Or.inr (Template.print_selfClosing .. ▸ startsBoundary_angle _)
  | raw => exact Or.inr (Template.print_raw .. ▸ startsBoundary_angle _)
  | sectioned => exact Or.inr (Template.print_sectioned .. ▸ startsBoundary_opening _)
  | value => exact Or.inr (Template.print_value .. ▸ startsBoundary_opening _)
  | comment => exact Or.inr (Template.print_comment .. ▸ startsBoundary_angle _)
  | text => cases hnext

theorem category_of_isVoid {tag : Tag} (hvoid : tag.isVoid = true) : tag.category = .void := by
  cases tag with
  | known e =>
    have hall : ∀ e ∈ Element.all, (Tag.known e).isVoid = true →
        (Tag.known e).category = .void := by
      decide +kernel
    exact hall e e.mem_all hvoid
  | custom name => cases hvoid

theorem startTagKind_of_category {tag : Tag} (hcategory : tag.category ∉ [.void, .script, .style]) :
    startTagKind tag = .startTagName := by
  rw [startTagKind]
  split <;> simp_all

/-! ## What comes of a part of a document -/

/-- From a run with so many open elements the reading comes to one with as many as told, of which
`Q` holds; or, unless everything `fits`, a count goes over. -/
def Through (fits : Prop) (r : Run) (depth depth' : Nat) (Q : Run → Prop) : Prop :=
  (fits ∧ ∃ r', documentFrom r depth = documentFrom r' depth' ∧ Q r') ∨
    (¬fits ∧ (documentFrom r depth).overflowed = true)

section Through

variable {fits fits' : Prop} {r r' : Run} {a b c : Nat} {Q Q' : Run → Prop}

/-- What is read before changes nothing. -/
theorem Through.of_eq (heq : documentFrom r a = documentFrom r' b)
    (hnext : Through fits r' b c Q) : Through fits r a c Q := by
  rwa [Through, heq]

/-- One part after the other. -/
theorem Through.andThen (hread : Through fits r a b Q)
    (hnext : ∀ r', Q r' → Through fits' r' b c Q') : Through (fits ∧ fits') r a c Q' := by
  rcases hread with ⟨hfits, r', heq, hr'⟩ | ⟨hmany, hover⟩
  · rw [Through, heq, and_iff_right hfits]
    exact hnext r' hr'
  · exact Or.inr ⟨fun h => hmany h.1, hover⟩

end Through

end Run

/-! ## Nodes -/

namespace Template

/-- Wherever the template stands inside of the elements, the reading comes through it. -/
def IsRead (t : Template) (tags : Nesting Tag) : Prop :=
  ∀ ⦃r : Run⦄ ⦃done : List Piece⦄ ⦃rest : List Char⦄ ⦃sections : Nesting String⦄,
    r.At done (t.print ++ rest) tags sections → (rest = [] ∨ startsBoundary {} rest = true) →
      r.Through t.CommentsFit tags.size tags.size fun r' =>
        r'.At (done ++ t.pieces) rest tags sections

section Nodes

variable {name body chars : List Char} {content next : Template} {tags : Nesting Tag}

theorem isRead_empty : empty.IsRead tags := by
  intro r done rest sections h hrest
  refine Or.inl ⟨trivial, r, rfl, ?_⟩
  simpa [print, pieces] using h

/-- A node that one step reads. -/
theorem isRead_of_content {t : Template} (node : List Piece) (next : Template)
    (hpieces : t.pieces = node ++ next.pieces) (hfits : t.CommentsFit ↔ next.CommentsFit)
    (hne : charsOf node ≠ [])
    (hnode : ∀ ⦃r : Run⦄ ⦃done : List Piece⦄ ⦃rest : List Char⦄ ⦃sections : Nesting String⦄,
      r.At done (charsOf node ++ (next.print ++ rest)) tags sections →
        (rest = [] ∨ startsBoundary {} rest = true) →
          ∃ r' : Run, r.content (0 < tags.size) = (.content, r') ∧
            r'.At (done ++ node) (next.print ++ rest) tags sections)
    (hnext : next.IsRead tags) : t.IsRead tags := by
  intro r done rest sections h hrest
  have hprint : t.print ++ rest = charsOf node ++ (next.print ++ rest) := by
    rw [print, hpieces, charsOf_append, List.append_assoc]
    rfl
  rw [hprint] at h
  rw [hfits, hpieces, ← List.append_assoc]
  obtain ⟨r', hread, hr'⟩ := h.exists_content (charsOf node) rfl hne (hnode h hrest)
  exact Run.Through.of_eq hread (hnext hr' hrest)

theorem isRead_element (hname : IsTagName name)
    (hcategory : (tagOf name).category ∉ [.void, .script, .style])
    (hvoid : tags.top?.all (!·.isVoid) = true)
    (hcontains : ∀ parent ∈ tags.top?, parent.canContain (tagOf name) = true)
    (hcontent : content.IsRead (tags.push (tagOf name))) (hnext : next.IsRead tags) :
    (element name content next).IsRead tags := by
  intro r done rest sections h hrest
  simp only [print_element, List.cons_append, List.append_assoc] at h
  -- the start tag, after which the content is inside of the element
  obtain ⟨begun, hbegun, hinside⟩ := h.content_element (0 < tags.size) hname
    (Run.startTagKind_of_category hcategory) hvoid hcontains
  have hstart : r.documentFrom tags.size = begun.documentFrom (tags.size + 1) :=
    h.documentFrom_eq ('<' :: (name ++ ['>'])) (by simp) (List.cons_ne_nil _ _) hinside
      (Nat.le_refl _) (Run.documentStep_element hbegun)
  refine Run.Through.of_eq hstart ?_
  -- the content, up to the end tag
  have hread := hcontent hinside (Or.inr (Run.startsBoundary_angle _))
  refine Run.Through.andThen hread fun read hbefore => ?_
  obtain ⟨seen, hseen, hclosing⟩ := hbefore.content_endTag (0 < tags.size + 1) hname
  obtain ⟨closed, hclosed, hbehind⟩ := hclosing.endTag hname
  have hend : read.documentFrom (tags.size + 1) = closed.documentFrom tags.size :=
    hbefore.documentFrom_eq ('<' :: '/' :: (name ++ ['>'])) (by simp) (List.cons_ne_nil _ _)
      hbehind (Nat.le_succ_of_le (Nat.le_succ _)) (Run.documentStep_endTag hseen hclosed)
  refine Run.Through.of_eq hend ?_
  simpa [pieces, List.append_assoc] using hnext hbehind hrest

theorem isRead_selfClosing (hname : IsTagName name) (hvoid : tags.top?.all (!·.isVoid) = true)
    (hcontains : ∀ parent ∈ tags.top?, parent.canContain (tagOf name) = true)
    (hnext : next.IsRead tags) : (selfClosing name next).IsRead tags := by
  refine isRead_of_content (startTag name ++ [.token .selfClosingTagDelimiter ['/', '>']]) next
    (by simp [pieces]) Iff.rfl (by simp [startTag, Piece.mark]) ?_ hnext
  intro r done rest sections h _
  rw [← List.append_assoc]
  exact Run.At.content_selfClosing _ (by simpa [startTag, Piece.mark, Piece.token] using h) hname
    hvoid hcontains

theorem isRead_raw (hname : IsRawName name) (hbody : IsRawBody name body)
    (hvoid : tags.top?.all (!·.isVoid) = true)
    (hcontains : ∀ parent ∈ tags.top?, parent.canContain (tagOf name) = true)
    (hnext : next.IsRead tags) : (raw name body next).IsRead tags := by
  refine isRead_of_content
    (startTag name ++ [.mark ['>']] ++ .token .rawText body :: endTag name) next
    (by simp [pieces]) Iff.rfl (by simp [startTag, Piece.mark]) ?_ hnext
  intro r done rest sections h _
  rw [← List.append_assoc, ← List.append_assoc]
  exact Run.At.content_raw _ (by simpa [startTag, endTag, Piece.mark, Piece.token] using h) hname
    hbody hvoid hcontains

/-- The opening tag of a section and the closing one are in the same element. -/
theorem isRead_sectioned (hname : IsSectionName name) (hcontent : content.IsRead tags)
    (hnext : next.IsRead tags) : (sectioned name content next).IsRead tags := by
  intro r done rest sections h hrest
  simp only [print_sectioned, List.cons_append, List.append_assoc] at h
  obtain ⟨opening, hopening, hsort⟩ := h.content_mustache (0 < tags.size)
  obtain ⟨begun, hbegun, hinside⟩ := h.exists_content
    ('\x7B' :: '\x7B' :: '#' :: (name ++ ['\x7D', '\x7D'])) (by simp) (List.cons_ne_nil _ _)
    ⟨_, hopening, hsort.sectionTag hname⟩
  refine Run.Through.of_eq hbegun ?_
  -- the content, up to the tag that closes the section
  have hread := hcontent hinside (Or.inr (Run.startsBoundary_opening _))
  refine Run.Through.andThen hread fun read hbefore => ?_
  obtain ⟨closing, hclosing, hslash⟩ := hbefore.content_mustache (0 < tags.size)
  obtain ⟨closed, hclosed, hbehind⟩ := hbefore.exists_content
    ('\x7B' :: '\x7B' :: '/' :: (name ++ ['\x7D', '\x7D'])) (by simp) (List.cons_ne_nil _ _)
    ⟨_, hclosing, hslash.sectionEndTag hname⟩
  refine Run.Through.of_eq hclosed ?_
  simpa [pieces, Piece.mustache, List.append_assoc] using hnext hbehind hrest

theorem isRead_value (hname : IsValueName name) (hnext : next.IsRead tags) :
    (value name next).IsRead tags := by
  refine isRead_of_content (Piece.mustache [] .mustacheIdentifier name) next
    (by simp [pieces]) Iff.rfl (by simp [Piece.mustache, Piece.token]) ?_ hnext
  intro r done rest sections h _
  obtain ⟨opening, hopening, hpath⟩ := Run.At.content_mustache (0 < tags.size)
    (by simpa [Piece.mustache, Piece.token] using h)
  refine ⟨_, hopening, ?_⟩
  simpa [Piece.mustache] using hpath.valueTag hname

/-- With more dashes in it than can be counted, a comment ends the reading or makes a count go
over. -/
theorem isRead_comment (hbody : ¬['-', '-', '>'] <:+: body) (hnext : next.IsRead tags) :
    (comment body next).IsRead tags := by
  by_cases hdashes : DashesFit (body ++ ['-', '-'])
  · refine isRead_of_content
      [.token .comment (['<', '!', '-', '-'] ++ body ++ ['-', '-', '>'])] next
      (by simp [pieces]) (and_iff_right hdashes) (by simp [Piece.token]) ?_ hnext
    intro r done rest sections h _
    exact Run.At.content_comment _ (by simpa [Piece.token] using h) hbody hdashes
  · intro r done rest sections h _
    simp only [print_comment, List.cons_append, List.append_assoc] at h
    refine Or.inr ⟨fun hfits => hdashes hfits.1, ?_⟩
    apply Run.overflowed_documentFrom (h.skipBlanks rfl)
    exact h.overflowed_comment _ hbody hdashes

theorem isRead_text (hchars : IsText chars) (hends : next.startsWithText = false)
    (hnext : next.IsRead tags) : (text chars next).IsRead tags := by
  refine isRead_of_content [.token .mustacheText chars] next (by simp [pieces]) Iff.rfl
    (by simpa [Piece.token] using hchars.1) ?_ hnext
  intro r done rest sections h hrest
  -- the text ends where the next node begins, since that is no text
  exact Run.At.content_text _ (by simpa [Piece.token] using h) hchars
    (Run.ends_text_of_next hends hrest)

end Nodes

/-! ## Templates -/

theorem all_top?_push {tag : Tag} (tags : Nesting Tag)
    (hcategory : tag.category ∉ [.void, .script, .style]) :
    (tags.push tag).top?.all (!·.isVoid) = true := by
  have hnot : tag.isVoid = false := by
    cases hvoid : tag.isVoid with
    | false => rfl
    | true => simp [Run.category_of_isVoid hvoid] at hcategory
  simp [Nesting.push, Nesting.top?, hnot]

/-- Well-formed templates are read. -/
theorem isRead_of_wellFormed {t : Template} {tags : Nesting Tag} (hwell : t.WellFormed tags.top?)
    (hvoid : tags.top?.all (!·.isVoid) = true) : t.IsRead tags := by
  -- the depth of the run is the number of open elements all the way, so it is left out of the
  -- induction
  induction t generalizing tags with
  | empty => exact isRead_empty
  | element name content next ihContent ihNext =>
    obtain ⟨hname, hcategory, hcontains, hcontent, hnext⟩ := hwell
    exact isRead_element hname hcategory hvoid hcontains
      (ihContent hcontent (all_top?_push tags hcategory)) (ihNext hnext hvoid)
  | selfClosing name next ih =>
    obtain ⟨hname, hcontains, hnext⟩ := hwell
    exact isRead_selfClosing hname hvoid hcontains (ih hnext hvoid)
  | raw name body next ih =>
    obtain ⟨hname, hcontains, hbody, hnext⟩ := hwell
    exact isRead_raw hname hbody hvoid hcontains (ih hnext hvoid)
  | sectioned name content next ihContent ihNext =>
    obtain ⟨hname, hcontent, hnext⟩ := hwell
    exact isRead_sectioned hname (ihContent hcontent hvoid) (ihNext hnext hvoid)
  | value name next ih =>
    obtain ⟨hname, hnext⟩ := hwell
    exact isRead_value hname (ih hnext hvoid)
  | comment body next ih =>
    obtain ⟨hbody, hnext⟩ := hwell
    exact isRead_comment hbody (ih hnext hvoid)
  | text chars next ih =>
    obtain ⟨hchars, hends, hnext⟩ := hwell
    exact isRead_text hchars hends (ih hnext hvoid)

end Template

/-! ## Documents -/

/-- A document that is a well-formed template is read, or a count goes over. -/
theorem Run.At.document {r : Run} {t : Template} (h : r.At [] t.print .empty .empty)
    (hwell : t.WellFormed none) :
    (t.CommentsFit ∧ r.document.At t.pieces [] .empty .empty) ∨
      (¬t.CommentsFit ∧ r.document.overflowed = true) := by
  rw [← List.append_nil t.print] at h
  have hread : t.IsRead .empty := Template.isRead_of_wellFormed hwell rfl
  rcases hread h (Or.inl rfl) with
    ⟨hfits, read, hread, hend⟩ | hmany
  · -- behind the template the text is at its end and no element is open
    have hlast : (read.documentFrom 0).At t.pieces [] .empty .empty :=
      hend.hasRead.documentFrom_end.at
    refine Or.inl ⟨hfits, ?_⟩
    rw [show r.document = read.documentFrom 0 from hread]
    exact hlast
  · exact Or.inr hmany

theorem Run.At.outcome {r : Run} {done : List Piece} {rest : List Char}
    (h : r.At done rest .empty .empty) :
    r.outcome =
      { tokens := tokensFrom 0 done, issues := [], openTags := [], openSections := [] } := by
  rw [Run.outcome, h.tokens, h.issues, h.state, List.reverse_reverse]
  rfl

end TemplateScan.Document
