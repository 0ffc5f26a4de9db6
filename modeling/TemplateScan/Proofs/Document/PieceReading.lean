import TemplateScan.Proofs.Document.MustacheScan
import TemplateScan.Proofs.Lexing.Bodies
import TemplateScan.Proofs.Lexing.ElementName

/-!
# Reading the pieces of a template

Each lemma of this module is about one part of a run, at the pieces that it reads.  The delimiters
are the built-in ones all the way.

* `Run.At`: a run that has read some pieces and has some characters ahead.
-/

namespace TemplateScan.Document

open Text Markup Mustache Lexing

namespace Run

/-- The run has read the pieces and no others: it is behind them, with their tokens and without an
issue, and no count went over.  The characters are ahead, the elements and sections are open, and
the delimiters are the built-in ones. -/
structure At (r : Run) (done : List Piece) (rest : List Char) (tags : Nesting Tag)
    (sections : Nesting String) : Prop where
  place : r.place = ⟨Utf8.byteLength (charsOf done), rest⟩
  size : r.size = Utf8.byteLength (charsOf done) + Utf8.byteLength rest
  tokens : r.tokens = (tokensFrom 0 done).reverse
  issues : r.issues = []
  plain : r.checkpoint = false
  state : r.scanner.state = { tags, sections }
  overflowed : r.overflowed = false

section At

variable {r : Run} {done : List Piece} {chars rest : List Char} {tags tags' : Nesting Tag}
  {sections sections' : Nesting String}

theorem At.hasRead (h : r.At done rest tags sections) :
    r.HasRead r.scanner.config done rest { tags, sections } :=
  ⟨h.place, h.size, h.tokens, h.issues, h.plain, rfl, h.state, h.overflowed⟩

theorem HasRead.at {config : ScanConfig} (h : r.HasRead config done rest { tags, sections }) :
    r.At done rest tags sections :=
  ⟨h.place, h.size, h.tokens, h.issues, h.plain, h.state, h.overflowed⟩

theorem At.ahead (h : r.At done rest tags sections) : r.ahead = rest :=
  h.hasRead.ahead

theorem At.next? (h : r.At done rest tags sections) : r.next? = rest.head? :=
  h.hasRead.next?

/-- Going on over punctuation reads it. -/
theorem At.advance (chars : List Char) (h : r.At done (chars ++ rest) tags sections) :
    (r.advance chars.length).At (done ++ [Piece.mark chars]) rest tags sections :=
  (h.hasRead.advance chars).at

/-- No blanks are passed over where none are ahead. -/
theorem At.skipBlanks (h : r.At done rest tags sections)
    (hblank : rest.head?.all (!isBlank ·) = true) : r.skipBlanks = r :=
  h.hasRead.skipBlanks hblank

/-- A scan that finds the characters ahead as a token reads it. -/
theorem At.scan {valid : TokenSet} {finding : Finding} {kind : TokenKind}
    (h : r.At done (chars ++ rest) tags sections)
    (hfinds : (read r.scanner.config { tags, sections } valid
      (chars ++ rest)).Finds finding chars.length)
    (hkind : finding.kind? = some kind)
    (happly : finding.apply { tags, sections } = { tags := tags', sections := sections' }) :
    ∃ r', r.scan valid = (some kind, r') ∧
      r'.At (done ++ [Piece.token kind chars]) rest tags' sections' := by
  obtain ⟨r', hscan, hr'⟩ := h.hasRead.scan hfinds hkind
  rw [happly] at hr'
  exact ⟨r', hscan, hr'.at⟩

end At

/-! ## Tags of elements -/

section Tags

variable {r : Run} {done : List Piece} {name body rest : List Char} {tags : Nesting Tag}
  {sections : Nesting String} {config : ScanConfig} {s : ScanState}

theorem head?_all_of_isTagName (hname : IsTagName name) :
    (name ++ rest).head?.all (!isBlank ·) = true := by
  apply head?_all_append hname.1
  intro c hc
  simp [not_isBlank_of_isNameChar (hname.2 c hc)]

theorem finds_startTagName (hname : IsTagName name)
    (hrest : rest.head?.all (!isNameChar ·) = true) :
    (read config s (.ofList [.startTagName, .scriptStartTagName, .styleStartTagName])
      (name ++ rest)).Finds (.startTag (tagOf name)) name.length := by
  rw [read_of_not_blank rfl (head?_all_of_isTagName hname)]
  have hchoice : atToken config s (.ofList [.startTagName, .scriptStartTagName, .styleStartTagName])
      (name ++ rest) = startTagName (name ++ rest) := by
    obtain ⟨c, more, rfl⟩ := List.exists_cons_of_ne_nil hname.1
    exact atNext_of_isNameChar (hname.2 c (List.mem_cons_self ..)) rfl rfl rfl
  rw [hchoice, startTagName_append hname.1 hname.2 hrest]
  exact Reading.finds_take _ _

theorem finds_endTagName (hname : IsTagName name) (hrest : rest.head?.all (!isNameChar ·) = true)
    (hcloses : s.tags.closes (tagOf name) = true) :
    (read config s (.ofList [.endTagName, .erroneousEndTagName])
      (name ++ rest)).Finds .endTag name.length := by
  rw [read_of_not_blank rfl (head?_all_of_isTagName hname)]
  have hchoice : atToken config s (.ofList [.endTagName, .erroneousEndTagName]) (name ++ rest) =
      endTagName s.tags (name ++ rest) := by
    obtain ⟨c, more, rfl⟩ := List.exists_cons_of_ne_nil hname.1
    exact atNext_of_isNameChar (hname.2 c (List.mem_cons_self ..)) rfl rfl rfl
  rw [hchoice, endTagName_append hname.1 hname.2 hrest hcloses]
  exact Reading.finds_take _ _

theorem kind?_startTag (tag : Tag) : (Finding.startTag tag).kind? = some (startTagKind tag) := by
  rw [Finding.kind?, startTagKind]
  cases tag.category <;> rfl

/-- The beginning of a start tag is read. -/
theorem At.startTagName (h : r.At done ('<' :: (name ++ rest)) tags sections)
    (hname : IsTagName name) (hrest : rest.head?.all (!isNameChar ·) = true) :
    ∃ r', (r.advance 1).scan (.ofList [.startTagName, .scriptStartTagName, .styleStartTagName]) =
        (some (startTagKind (tagOf name)), r') ∧
      r'.At (done ++ Template.startTag name) rest (tags.push (tagOf name)) sections := by
  have hangle : (r.advance 1).At (done ++ [Piece.mark ['<']]) (name ++ rest) tags sections :=
    At.advance ['<'] h
  obtain ⟨r', hscan, hr'⟩ := hangle.scan (finds_startTagName hname hrest) (kind?_startTag _) rfl
  refine ⟨r', hscan, ?_⟩
  rw [List.append_assoc] at hr'
  exact hr'

/-- The `>` of a start tag is read. -/
theorem At.attributes_close (h : r.At done ('>' :: rest) tags sections) :
    ∃ r', r.attributes = (true, r') ∧ r'.At (done ++ [Piece.mark ['>']]) rest tags sections := by
  refine ⟨r.advance 1, ?_, At.advance ['>'] h⟩
  apply iterate_of_inl
  rw [attributeStep, h.skipBlanks rfl]
  simp only [h.next?, List.head?_cons]

/-- The `/>` of a start tag is read: the element that has just been opened is closed again. -/
theorem At.attributes_selfClosing {tag : Tag}
    (h : r.At done ('/' :: '>' :: rest) (tags.push tag) sections) :
    ∃ r', r.attributes = (false, r') ∧
      r'.At (done ++ [Piece.token .selfClosingTagDelimiter ['/', '>']]) rest tags sections := by
  have hfinds : (read r.scanner.config { tags := tags.push tag, sections }
      (.singleton .selfClosingTagDelimiter) (['/', '>'] ++ rest)).Finds .selfClosing 2 := by
    rw [read_of_not_blank rfl rfl]
    exact Reading.finds_take _ _
  have hahead : r.At done (['/', '>'] ++ rest) (tags.push tag) sections := h
  obtain ⟨r', hscan, hr'⟩ := hahead.scan hfinds rfl rfl
  refine ⟨r', ?_, hr'⟩
  apply iterate_of_inl
  rw [attributeStep, h.skipBlanks rfl]
  simp only [h.next?, List.head?_cons, hscan]

theorem At.closeAngle (h : r.At done ('>' :: rest) tags sections) :
    r.closeAngle.At (done ++ [Piece.mark ['>']]) rest tags sections := by
  have hnext : r.next? = some '>' := h.next?
  rw [Run.closeAngle, h.skipBlanks rfl, if_pos hnext]
  exact At.advance ['>'] h

/-- The end tag of the innermost element is read. -/
theorem At.endTag
    (h : r.At done ('<' :: '/' :: (name ++ '>' :: rest)) (tags.push (tagOf name)) sections)
    (hname : IsTagName name) :
    ∃ r', r.endTag = (some .endTagName, r') ∧
      r'.At (done ++ Template.endTag name) rest tags sections := by
  have hslash : (r.advance 2).At (done ++ [Piece.mark ['<', '/']]) (name ++ '>' :: rest)
      (tags.push (tagOf name)) sections := At.advance ['<', '/'] h
  obtain ⟨r', hscan, hr'⟩ := hslash.scan (finds_endTagName hname rfl (tags.closes_push _)) rfl rfl
  refine ⟨r'.closeAngle, ?_, ?_⟩
  · rw [Run.endTag, hscan]
  · have hclosed := hr'.closeAngle
    rw [List.append_assoc, List.append_assoc] at hclosed
    exact hclosed

/-! ## Raw text -/

/-- What the raw names have in common. -/
theorem isRawName_cases (hname : IsRawName name) :
    IsTagName name ∧ bodyEnd (tagOf name) = '<' :: '/' :: name.map Char.toUpper ∧
      (startTagKind (tagOf name) = .scriptStartTagName ∨
        startTagKind (tagOf name) = .styleStartTagName) := by
  -- the two names are known in upper case, and so is what they are made of
  have hne : name ≠ [] := by
    rintro rfl
    rcases hname with h | h <;> cases h
  rcases hname with hscript | hstyle
  · have htag : tagOf name = .known .script :=
      (tagOf_of_map_toUpper hscript (by decide +kernel)).trans (Tag.ofName_name_known .script)
    refine ⟨⟨hne, isNameChar_of_map_toUpper hscript (by decide +kernel)⟩, ?_, ?_⟩
    · rw [htag, hscript]
      rfl
    · rw [htag]
      exact Or.inl rfl
  · have htag : tagOf name = .known .style :=
      (tagOf_of_map_toUpper hstyle (by decide +kernel)).trans (Tag.ofName_name_known .style)
    refine ⟨⟨hne, isNameChar_of_map_toUpper hstyle (by decide +kernel)⟩, ?_, ?_⟩
    · rw [htag, hstyle]
      rfl
    · rw [htag]
      exact Or.inr rfl

/-- The body of a raw element and its end tag are read. -/
theorem At.rawTextBody
    (h : r.At done (body ++ '<' :: '/' :: (name ++ '>' :: rest)) (tags.push (tagOf name)) sections)
    (hname : IsRawName name) (hbody : IsRawBody name body) :
    r.rawTextBody.At (done ++ Piece.token .rawText body :: Template.endTag name) rest tags
      sections := by
  obtain ⟨htagName, hend, -⟩ := isRawName_cases hname
  have hfinds : (read r.scanner.config { tags := tags.push (tagOf name), sections }
      (.singleton .rawText) (body ++ '<' :: '/' :: (name ++ '>' :: rest))).Finds
      .rawText body.length := by
    -- the end of the body is looked for in upper case, in which the end tag is its first occurrence
    have hclosing : ('<' :: '/' :: name).map Char.toUpper = bodyEnd (tagOf name) := by
      rw [hend]
      rfl
    have hnone : ¬bodyEnd (tagOf name) <:+: body.map Char.toUpper := by
      rw [hend]
      exact hbody
    obtain ⟨looked, hraw⟩ :=
      exists_rawText_append (tags.push (tagOf name)) ('>' :: rest) rfl hclosing hnone
    show (rawText (tags.push (tagOf name))
      (body ++ ('<' :: '/' :: name ++ '>' :: rest))).Finds .rawText body.length
    rw [hraw]
    exact Reading.finds_ofLength _ _ _
  obtain ⟨r', hscan, hr'⟩ := h.scan hfinds rfl rfl
  -- behind the body the end tag follows at once, so it is read as any other
  obtain ⟨last, htag, hlast⟩ := hr'.endTag htagName
  have hahead : ['<', '/'].isPrefixOf r'.ahead = true := by
    rw [hr'.ahead]
    rfl
  rw [Run.rawTextBody, hscan]
  dsimp only
  rw [if_pos hahead, htag]
  rw [List.append_assoc] at hlast
  exact hlast

end Tags

/-! ## Mustache tags -/

section Mustache

variable {r : Run} {done : List Piece} {name rest : List Char} {tags : Nesting Tag}
  {sections : Nesting String}

/-- The closing delimiter is read. -/
theorem At.closingDelimiter (h : r.At done ('\x7D' :: '\x7D' :: rest) tags sections) :
    r.closingDelimiter.At (done ++ [Piece.token .mustacheEndDelimiter ['\x7D', '\x7D']]) rest tags
      sections :=
  (h.hasRead.closingDelimiter closingText_builtin (List.cons_ne_nil _ _) rfl).at

/-- Behind the character that tells its sort, the token of a tag and the closing delimiter are
read. -/
theorem At.expect_closing {valid : TokenSet} {finding : Finding} {kind : TokenKind} {cause : Cause}
    {sort : Char} {sections' : Nesting String}
    (h : r.At done (sort :: (name ++ '\x7D' :: '\x7D' :: rest)) tags sections)
    (hfinds : (read r.scanner.config { tags, sections } valid
      (name ++ '\x7D' :: '\x7D' :: rest)).Finds finding name.length)
    (hkind : finding.kind? = some kind)
    (happly : finding.apply { tags, sections } = { tags, sections := sections' }) :
    ((r.advance 1).expect valid cause).closingDelimiter.At
      (done ++ [Piece.mark [sort], Piece.token kind name,
        Piece.token .mustacheEndDelimiter ['\x7D', '\x7D']]) rest tags sections' := by
  have hsort : (r.advance 1).At (done ++ [Piece.mark [sort]])
      (name ++ '\x7D' :: '\x7D' :: rest) tags sections :=
    At.advance [sort] h
  obtain ⟨r', hscan, hr'⟩ := hsort.scan hfinds hkind happly
  have hclosed := hr'.closingDelimiter
  rw [List.append_assoc, List.append_assoc] at hclosed
  rw [expect, hscan]
  exact hclosed

theorem head?_all_of_isSectionName (hname : IsSectionName name) :
    (name ++ rest).head?.all (!isBlank ·) = true := by
  apply head?_all_append hname.1
  intro c hc
  simp [(hname.2 c hc).1]

theorem isSectionName_run (hname : IsSectionName name) :
    ∀ c ∈ name, (!(isBlank c || beginsClosing {} c)) = true := by
  intro c hc
  obtain ⟨hblank, hbrace⟩ := hname.2 c hc
  simp [hblank, hbrace, beginsClosing_builtin]

/-- The tag that opens a section is read. -/
theorem At.sectionTag (h : r.At done ('#' :: (name ++ '\x7D' :: '\x7D' :: rest)) tags sections)
    (hname : IsSectionName name) :
    r.mustacheTag.At
      (done ++ [Piece.mark ['#'], Piece.token .mustacheSectionName name,
        Piece.token .mustacheEndDelimiter ['\x7D', '\x7D']])
      rest tags (sections.push (String.ofList name)) := by
  have hfinds : (read r.scanner.config { tags, sections } (.singleton .mustacheSectionName)
      (name ++ '\x7D' :: '\x7D' :: rest)).Finds
      (.sectionStart (String.ofList name)) name.length := by
    rw [read_of_not_blank rfl (head?_all_of_isSectionName hname)]
    show Reading.Finds { sectionStart {} _ with skipped := 0 } _ _
    rw [sectionStart_append hname.1 (isSectionName_run hname) rfl]
    exact Reading.finds_take _ _
  rw [Run.mustacheTag, h.skipBlanks rfl, mustacheBody, h.ahead]
  exact h.expect_closing hfinds rfl rfl

/-- The tag that closes the innermost section is read. -/
theorem At.sectionEndTag
    (h : r.At done ('/' :: (name ++ '\x7D' :: '\x7D' :: rest)) tags
      (sections.push (String.ofList name)))
    (hname : IsSectionName name) :
    r.mustacheTag.At
      (done ++ [Piece.mark ['/'], Piece.token .mustacheEndSectionName name,
        Piece.token .mustacheEndDelimiter ['\x7D', '\x7D']]) rest tags sections := by
  have hfinds : (read r.scanner.config { tags, sections := sections.push (String.ofList name) }
      (.ofList [.mustacheEndSectionName, .mustacheErroneousEndSectionName])
      (name ++ '\x7D' :: '\x7D' :: rest)).Finds .sectionEnd name.length := by
    rw [read_of_not_blank rfl (head?_all_of_isSectionName hname)]
    show Reading.Finds { sectionEnd {} (sections.push _) _ with skipped := 0 } _ _
    rw [sectionEnd_append hname.1 (isSectionName_run hname) rfl (sections.closes_push _)]
    exact Reading.finds_take _ _
  rw [Run.mustacheTag, h.skipBlanks rfl, mustacheBody, h.ahead]
  exact h.expect_closing hfinds rfl rfl

/-- The tag of a value is read. -/
theorem At.valueTag (h : r.At done (name ++ '\x7D' :: '\x7D' :: rest) tags sections)
    (hname : IsValueName name) :
    r.mustacheTag.At
      (done ++ [Piece.token .mustacheIdentifier name,
        Piece.token .mustacheEndDelimiter ['\x7D', '\x7D']]) rest tags sections := by
  have hbefore : IsNameBefore ['\x7D', '\x7D'] name := by
    refine ⟨hname.1, ?_, hname.2.2⟩
    intro c hc
    obtain ⟨hblank, hdot, hbrace⟩ := hname.2.1 c hc
    exact ⟨hblank, hdot, fun heq => hbrace (Option.some.inj heq).symm⟩
  exact (h.hasRead.valueTag closingText_builtin hbefore (List.cons_ne_nil _ _) rfl (by decide)).at

end Mustache

end Run

end TemplateScan.Document
