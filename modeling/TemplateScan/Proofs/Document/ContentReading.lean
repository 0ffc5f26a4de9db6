import TemplateScan.Proofs.Document.PieceReading
import TemplateScan.Proofs.Document.Scans

/-!
# Reading the content of a template

One step through a document reads one piece of content: the opening delimiter with the tag behind
it, a comment, a run of text, a start tag, or an end tag.
-/

namespace TemplateScan.Document.Run

open Text Markup Mustache Lexing

variable {r : Run} {done : List Piece} {name body chars rest : List Char} {tags : Nesting Tag}
  {sections : Nesting String}

/-! ## What is found where content begins -/

theorem openingAtAngle?_builtin (valid : TokenSet) (behind : List Char) :
    openingAtAngle? {} valid behind = none :=
  openingAtAngle?_eq_none (by decide) valid behind

theorem not_beginsBoundary_of_isText (hchars : IsText chars) {i : Nat} (hi : i < chars.length)
    {c : Char} (hc : (chars ++ rest)[i]? = some c) : ¬beginsBoundary {} c := by
  have hplain : c ∉ ['<', '\x7B', '\x7D'] := by
    rw [List.getElem?_append_left hi] at hc
    exact hchars.2.2 c (List.mem_of_getElem? hc)
  rw [beginsBoundary, openingText_builtin, closingText_builtin]
  rintro (rfl | hfirst | hfirst)
  · simp at hplain
  · obtain rfl := Option.some.inj hfirst
    simp at hplain
  · obtain rfl := Option.some.inj hfirst
    simp at hplain

theorem startsBoundary_of_isText (hchars : IsText chars) {i : Nat} (hi : i < chars.length) :
    startsBoundary {} ((chars ++ rest).drop i) = false := by
  cases hstarts : startsBoundary {} ((chars ++ rest).drop i) with
  | false => rfl
  | true =>
    obtain ⟨c, hc, hbegins⟩ := exists_beginsBoundary (by decide) (by decide) hstarts
    exact absurd hbegins (not_beginsBoundary_of_isText hchars hi hc)

/-- Text that stands on its own is found as a whole before a boundary, or at the end. -/
theorem eq_length_of_endsText (hchars : IsText chars)
    (hrest : rest = [] ∨ startsBoundary {} rest = true) {n : Nat}
    (hends : EndsText {} (chars ++ rest) n) : n = chars.length := by
  have hle : clearLength {} (chars ++ rest) ≤ chars.length := by
    rcases hrest with rfl | hboundary
    · have hall := clearLength_le_length {} (chars ++ [])
      rwa [List.length_append, List.length_nil, Nat.add_zero] at hall
    · apply TextRun.clearLength_le_of_boundary
      rwa [List.drop_left]
  have hge : chars.length ≤ clearLength {} (chars ++ rest) := by
    apply le_clearLength
    · simp
    · intro i hi
      exact startsBoundary_of_isText hchars hi
  -- a run may end early only at a character that a boundary begins with, and the text has none
  rcases Nat.lt_or_eq_of_le (Nat.le_trans hends.le hle) with hlt | heq
  · obtain ⟨c, hc, hbegins⟩ := hends.begins (Nat.lt_of_lt_of_le hlt hge)
    exact absurd hbegins (not_beginsBoundary_of_isText hchars hlt hc)
  · exact heq

/-- No element ends before a start tag that is allowed where it is. -/
theorem nothing_at_startTag {inElement : Bool} (hname : IsTagName name)
    (hrest : rest.head?.all (!isNameChar ·) = true) (hne : rest ≠ [])
    (hvoid : tags.top?.all (!·.isVoid) = true)
    (hcontains : ∀ parent ∈ tags.top?, parent.canContain (tagOf name) = true) :
    (atAngle { tags, sections } (contentTokens inElement) (name ++ rest)).FindsNothing := by
  have hall : tags.top?.all (·.canContain (tagOf name)) = true := by
    cases htop : tags.top? with
    | none => rfl
    | some parent => exact hcontains parent htop
  have himplied : impliedEnd tags 1 (name ++ rest) = .decline (1 + name.length) :=
    impliedEnd_startTag 1 hname.1 hname.2 hrest hne hvoid hall
  -- a name does not look like a comment
  have hbang : ∀ ahead, name ++ rest ≠ '!' :: ahead := by
    intro ahead heq
    obtain ⟨c, more, rfl⟩ := List.exists_cons_of_ne_nil hname.1
    obtain rfl := (List.cons.inj heq).1
    exact absurd (hname.2 '!' (List.mem_cons_self ..)) (by decide)
  rw [atAngle, openingAtAngle?_builtin]
  · dsimp only
    rw [impliedEndIfValid, himplied]
    split <;> exact ⟨rfl, rfl⟩
  · exact hbang

/-- No element ends before its own end tag. -/
theorem nothing_at_endTag {inElement : Bool} (hname : IsTagName name)
    (hrest : rest.head?.all (!isNameChar ·) = true) (hcloses : tags.closes (tagOf name) = true) :
    (atAngle { tags, sections } (contentTokens inElement)
      ('/' :: (name ++ rest))).FindsNothing := by
  rw [atAngle, openingAtAngle?_builtin]
  · dsimp only
    rw [impliedEndIfValid, impliedEnd_endTag 1 hname.1 hname.2 hrest hcloses]
    split <;> exact ⟨rfl, rfl⟩
  · intro ahead heq
    cases heq

/-! ## One step -/

/-- At a `<` that no `/` or `!` follows, a start tag is read. -/
theorem markup_of_startTag {c : Char} (hslash : c ≠ '/') (hbang : c ≠ '!')
    (hahead : r.ahead = '<' :: c :: rest) :
    r.markup = match r.startTag with
      | (true, r) => (Progress.elementBegun, r)
      | (false, r) => (Progress.content, r) := by
  unfold markup
  rw [hahead]
  split
  all_goals first | rfl | simp_all

section Content

variable (inElement : Bool)

theorem At.content_nothing (h : r.At done rest tags sections)
    (hblank : rest.head?.all (!isBlank ·) = true)
    (hnothing : (atNext { tags, sections } (contentTokens inElement) rest).FindsNothing) :
    ∃ r' : Run, r.content inElement = r'.markup ∧ r'.At done rest tags sections := by
  obtain ⟨r', hcontent, hr'⟩ := h.hasRead.content_nothing inElement hblank hnothing
  exact ⟨r', hcontent, hr'.at⟩

/-- The opening delimiter is read, and the tag behind it. -/
theorem At.content_mustache (h : r.At done ('\x7B' :: '\x7B' :: rest) tags sections) :
    ∃ r' : Run, r.content inElement = (.content, r'.mustacheTag) ∧
      r'.At (done ++ [Piece.token .mustacheStartDelimiter ['\x7B', '\x7B']])
        rest tags sections := by
  have hfirst : OpensFirst {} := by
    right
    rw [openingText_builtin, closingText_builtin]
    simp
  have hahead : r.HasRead r.scanner.config done (['\x7B', '\x7B'] ++ rest) { tags, sections } :=
    h.hasRead
  have hbraces : IsDelimiterText ['\x7B', '\x7B'] := by decide
  obtain ⟨r', hcontent, hr'⟩ := hahead.content_opening inElement openingText_builtin hbraces hfirst
  exact ⟨r', hcontent, hr'.at⟩

/-- At a comment, its body and end are looked for. -/
theorem read_comment (config : ScanConfig) :
    read config { tags, sections } (contentTokens inElement)
        ('<' :: '!' :: '-' :: '-' :: (body ++ '-' :: '-' :: '>' :: rest)) =
      { comment ('-' :: '-' :: (body ++ '-' :: '-' :: '>' :: rest)) with skipped := 0 } := by
  rw [read_contentTokens inElement _ _ rfl, atNext_angle, atAngle, openingAtAngle?_builtin]

/-- A comment is read. -/
theorem At.content_comment
    (h : r.At done ('<' :: '!' :: '-' :: '-' :: (body ++ '-' :: '-' :: '>' :: rest)) tags sections)
    (hbody : ¬['-', '-', '>'] <:+: body) (hdashes : DashesFit (body ++ ['-', '-'])) :
    ∃ r' : Run, r.content inElement = (.content, r') ∧
      r'.At (done ++ [Piece.token .comment (['<', '!', '-', '-'] ++ body ++ ['-', '-', '>'])])
        rest tags sections := by
  have hahead :
      r.At done (['<', '!', '-', '-'] ++ body ++ ['-', '-', '>'] ++ rest) tags sections := by
    simpa using h
  have hfinds : (read r.scanner.config { tags, sections } (contentTokens inElement)
      (['<', '!', '-', '-'] ++ body ++ ['-', '-', '>'] ++ rest)).Finds .comment
        (['<', '!', '-', '-'] ++ body ++ ['-', '-', '>']).length := by
    have hchars : ['<', '!', '-', '-'] ++ body ++ ['-', '-', '>'] ++ rest =
        '<' :: '!' :: '-' :: '-' :: (body ++ '-' :: '-' :: '>' :: rest) := by simp
    have hlength : (['<', '!', '-', '-'] ++ body ++ ['-', '-', '>']).length = body.length + 7 := by
      simp
    rw [hchars, hlength, read_comment, comment_append hbody hdashes]
    exact Reading.finds_take _ _
  obtain ⟨r', hscan, hr'⟩ := hahead.scan hfinds rfl rfl
  refine ⟨r', ?_, hr'⟩
  rw [content, h.skipBlanks rfl, hscan]

/-- With more dashes in it than can be counted, the scan for a comment makes a count go over. -/
theorem At.overflowed_comment
    (h : r.At done ('<' :: '!' :: '-' :: '-' :: (body ++ '-' :: '-' :: '>' :: rest)) tags sections)
    (hbody : ¬['-', '-', '>'] <:+: body) (hdashes : ¬DashesFit (body ++ ['-', '-'])) :
    (r.scan (contentTokens inElement)).2.overflowed = true := by
  have hover : (read r.scanner.config { tags, sections } (contentTokens inElement)
      ('<' :: '!' :: '-' :: '-' :: (body ++ '-' :: '-' :: '>' :: rest))).overflowed = true := by
    rw [read_comment]
    exact comment_overflowed_of_many hbody hdashes
  rw [← h.state, ← h.ahead] at hover
  rw [overflowed_scan, scanAhead, beforeScan_eq_self h.plain, Bool.or_eq_true]
  exact Or.inr hover

/-- A run of text is read. -/
theorem At.content_text (h : r.At done (chars ++ rest) tags sections) (hchars : IsText chars)
    (hrest : rest = [] ∨ startsBoundary {} rest = true) :
    ∃ r' : Run, r.content inElement = (.content, r') ∧
      r'.At (done ++ [Piece.token .mustacheText chars]) rest tags sections := by
  have hne : chars ++ rest ≠ [] := by
    simp [hchars.1]
  have hblank : (chars ++ rest).head?.all (!isBlank ·) = true := by
    obtain ⟨c, more, rfl⟩ := List.exists_cons_of_ne_nil hchars.1
    simp [hchars.2.1 c rfl]
  have hstart : startsBoundary {} (chars ++ rest) = false :=
    startsBoundary_of_isText hchars (List.length_pos_iff.mpr hchars.1)
  have hopening : ({} : Delimiters).openingText ≠ [] := by decide
  have hclosing : ({} : Delimiters).closingText ≠ [] := by decide
  obtain ⟨n, hfinds, hends⟩ :=
    exists_read_text inElement r.scanner.config { tags, sections } hopening hclosing hne hblank
      hstart
  -- the run may end where the text does and nowhere else
  rw [eq_length_of_endsText hchars hrest hends] at hfinds
  obtain ⟨r', hscan, hr'⟩ := h.scan hfinds rfl rfl
  refine ⟨r', ?_, hr'⟩
  rw [content, h.skipBlanks hblank, hscan]

/-- At the end of the text nothing more is read. -/
theorem At.content_end (h : r.At done [] tags sections) :
    ∃ r' : Run, r.content false = (.textEnded, r') ∧ r'.At done [] tags sections := by
  obtain ⟨r', hcontent, hr'⟩ := h.hasRead.content_end
  exact ⟨r', hcontent, hr'.at⟩

/-- The end tag of the innermost element is seen. -/
theorem At.content_endTag
    (h : r.At done ('<' :: '/' :: (name ++ '>' :: rest)) (tags.push (tagOf name)) sections)
    (hname : IsTagName name) :
    ∃ r' : Run, r.content inElement = (.endTagAhead, r') ∧
      r'.At done ('<' :: '/' :: (name ++ '>' :: rest)) (tags.push (tagOf name)) sections := by
  obtain ⟨r', hcontent, hr'⟩ :=
    h.content_nothing inElement rfl (nothing_at_endTag hname rfl (tags.closes_push _))
  refine ⟨r', ?_, hr'⟩
  rw [hcontent]
  unfold markup
  rw [hr'.ahead]
  rfl

/-- Where an element may begin, its start tag is read. -/
theorem At.content_startTag {stop : Char}
    (h : r.At done ('<' :: (name ++ stop :: rest)) tags sections) (hname : IsTagName name)
    (hstop : isNameChar stop = false) (hvoid : tags.top?.all (!·.isVoid) = true)
    (hcontains : ∀ parent ∈ tags.top?, parent.canContain (tagOf name) = true) :
    ∃ r' : Run, r.content inElement =
        (match r'.startTag with
        | (true, r) => (Progress.elementBegun, r)
        | (false, r) => (Progress.content, r)) ∧
      r'.At done ('<' :: (name ++ stop :: rest)) tags sections := by
  obtain ⟨r', hcontent, hr'⟩ := h.content_nothing inElement rfl
    (nothing_at_startTag hname (by simp [hstop]) (List.cons_ne_nil _ _) hvoid hcontains)
  refine ⟨r', ?_, hr'⟩
  obtain ⟨c, more, rfl⟩ := List.exists_cons_of_ne_nil hname.1
  have hc := hname.2 c (List.mem_cons_self ..)
  -- the first character of a name is none that begins another sort of markup
  have hslash : c ≠ '/' := by
    rintro rfl
    cases hc
  have hbang : c ≠ '!' := by
    rintro rfl
    cases hc
  rw [hcontent, markup_of_startTag hslash hbang hr'.ahead]

/-- An element begins. -/
theorem At.content_element (h : r.At done ('<' :: (name ++ '>' :: rest)) tags sections)
    (hname : IsTagName name) (hkind : startTagKind (tagOf name) = .startTagName)
    (hvoid : tags.top?.all (!·.isVoid) = true)
    (hcontains : ∀ parent ∈ tags.top?, parent.canContain (tagOf name) = true) :
    ∃ r' : Run, r.content inElement = (.elementBegun, r') ∧
      r'.At (done ++ Template.startTag name ++ [Piece.mark ['>']]) rest
        (tags.push (tagOf name)) sections := by
  obtain ⟨before, hcontent, hbefore⟩ := h.content_startTag inElement hname rfl hvoid hcontains
  obtain ⟨named, hscan, hnamed⟩ := hbefore.startTagName hname rfl
  obtain ⟨r', hattributes, hr'⟩ := hnamed.attributes_close
  refine ⟨r', ?_, hr'⟩
  rw [hcontent, startTag, hscan]
  simp only [hattributes, hkind]
  rfl

/-- An element without content is read. -/
theorem At.content_selfClosing (h : r.At done ('<' :: (name ++ '/' :: '>' :: rest)) tags sections)
    (hname : IsTagName name) (hvoid : tags.top?.all (!·.isVoid) = true)
    (hcontains : ∀ parent ∈ tags.top?, parent.canContain (tagOf name) = true) :
    ∃ r' : Run, r.content inElement = (.content, r') ∧
      r'.At (done ++ Template.startTag name ++ [Piece.token .selfClosingTagDelimiter ['/', '>']])
        rest tags sections := by
  obtain ⟨before, hcontent, hbefore⟩ := h.content_startTag inElement hname rfl hvoid hcontains
  obtain ⟨named, hscan, hnamed⟩ := hbefore.startTagName hname rfl
  obtain ⟨r', hattributes, hr'⟩ := hnamed.attributes_selfClosing
  refine ⟨r', ?_, hr'⟩
  rw [hcontent, startTag, hscan]
  simp only [hattributes]

/-- A raw element is read as a whole. -/
theorem At.content_raw
    (h : r.At done ('<' :: (name ++ '>' :: (body ++ '<' :: '/' :: (name ++ '>' :: rest)))) tags
      sections)
    (hname : IsRawName name) (hbody : IsRawBody name body)
    (hvoid : tags.top?.all (!·.isVoid) = true)
    (hcontains : ∀ parent ∈ tags.top?, parent.canContain (tagOf name) = true) :
    ∃ r' : Run, r.content inElement = (.content, r') ∧
      r'.At (done ++ Template.startTag name ++ [Piece.mark ['>']] ++
        Piece.token .rawText body :: Template.endTag name) rest tags sections := by
  obtain ⟨htagName, -, hkind⟩ := isRawName_cases hname
  -- the start tag is read as any other; its kind tells that raw text follows
  obtain ⟨before, hcontent, hbefore⟩ := h.content_startTag inElement htagName rfl hvoid hcontains
  obtain ⟨named, hscan, hnamed⟩ := hbefore.startTagName htagName rfl
  obtain ⟨begun, hattributes, hbegun⟩ := hnamed.attributes_close
  refine ⟨begun.rawTextBody, ?_, hbegun.rawTextBody hname hbody⟩
  rw [hcontent, startTag, hscan]
  simp only [hattributes]
  rcases hkind with hkind | hkind
  · simp [hkind]
  · simp [hkind]

end Content

end TemplateScan.Document.Run
