import TemplateScan.Lexing.Choice

/-!
# What findings tell

A finding carries what it does to the state.  Nothing of that is hidden from a reader of the tokens:
the text of the token tells the tag, the name or the delimiter, and a scope is closed under its name
only if it is the innermost one.

* `Finding.Tells`: what a finding tells of the text of its token and of the state it is made in.
* `Finding.Admitted`: the kinds of which one has to be admissible for the finding.
* `Lexing.Chosen`, `chosen_atToken`: what is looked for, with the admissible kind that asks for it.
* `read_holds`: all that the scanner finds tells the truth and is admitted.
-/

namespace TemplateScan

open Text Markup Mustache

/-- What a finding tells of the text of its token and of the state that it is made in. -/
def Finding.Tells (s : ScanState) (text : List Char) : Finding → Prop
  | .nothing | .rawText | .mustacheComment => True
  | .comment | .opening | .closing | .directiveEnd | .identifier | .text => text ≠ []
  | .startTag tag => text ≠ [] ∧ tag = Lexing.tagOf text
  | .endTag => text ≠ [] ∧ s.tags.closes (Lexing.tagOf text) = true
  | .erroneousEndTag => text ≠ [] ∧ s.tags.closes (Lexing.tagOf text) = false
  | .selfClosing => text ≠ [] ∧ s.tags.isEmpty = false
  | .implicitEnd => text = [] ∧ s.tags.isEmpty = false
  | .newOpening spelling | .newClosing spelling => text ≠ [] ∧ spelling = String.ofList text
  | .sectionStart name => text ≠ [] ∧ name = String.ofList text
  | .sectionEnd => text ≠ [] ∧ s.sections.closes (String.ofList text) = true
  | .erroneousSectionEnd => text ≠ [] ∧ s.sections.closes (String.ofList text) = false

/-- Whether one of the kinds is admissible that let the scanner look for the finding.  A comment of
the markup is found whatever is admissible. -/
def Finding.Admitted (valid : TokenSet) : Finding → Prop
  | .nothing | .comment => True
  | .startTag _ => valid.contains .startTagName = true
  | .endTag | .erroneousEndTag => valid.contains .endTagName = true
  | .selfClosing => valid.contains .selfClosingTagDelimiter = true
  | .implicitEnd => valid.contains .implicitEndTag = true
  | .rawText => valid.contains .rawText = true
  | .opening => valid.contains .mustacheStartDelimiter = true
  | .closing => valid.contains .mustacheEndDelimiter = true
  | .newOpening _ => valid.contains .mustacheSetStartDelimiter = true
  | .newClosing _ => valid.contains .mustacheSetEndDelimiter = true
  | .directiveEnd => valid.contains .mustacheOldEndDelimiter = true
  | .sectionStart _ => valid.contains .mustacheSectionName = true
  | .sectionEnd | .erroneousSectionEnd =>
    valid.contains .mustacheEndSectionName = true ∨
      valid.contains .mustacheErroneousEndSectionName = true
  | .identifier => valid.contains .mustacheIdentifier = true
  | .mustacheComment => valid.contains .mustacheComment = true
  | .text => valid.contains .mustacheText = true

/-- The reading's finding is admitted and tells the truth of its token, which begins where the
characters are ahead. -/
structure Reading.Holds (s : ScanState) (valid : TokenSet) (ahead : List Char) (r : Reading) :
    Prop where
  tells : r.finding.Tells s (ahead.take r.length)
  admitted : r.finding.Admitted valid

/-! ## Nestings and delimiters -/

namespace Nesting

variable {α : Type} {scopes : Nesting α}

theorem isEmpty_of_top? {scope : α} (htop : scopes.top? = some scope) :
    scopes.isEmpty = false := by
  obtain ⟨_ | ⟨first, later⟩⟩ := scopes
  · cases htop
  · rfl

theorem isEmpty_of_any {p : α → Bool} (hany : scopes.any p = true) : scopes.isEmpty = false := by
  obtain ⟨_ | ⟨first, later⟩⟩ := scopes
  · cases hany
  · rfl

end Nesting

namespace Mustache

theorem Delimiter.resolve_ne {fallback : String} (hfallback : fallback ≠ "") (d : Delimiter) :
    (d.resolve fallback).toList ≠ [] := by
  cases d with
  | builtin => simpa [resolve] using hfallback
  | custom text text_ne => simpa [resolve] using text_ne

namespace Delimiters

variable (d : Delimiters)

theorem openingText_ne : d.openingText ≠ [] :=
  d.opening.resolve_ne (by decide)

theorem closingText_ne : d.closingText ≠ [] :=
  d.closing.resolve_ne (by decide)

theorem previousClosingText_ne : d.previousClosingText ≠ [] :=
  d.previousClosing.resolve_ne (by decide)

end Delimiters

end Mustache

namespace Lexing

section Holds

variable {s : ScanState} {valid : TokenSet} {ahead : List Char} {finding : Finding}

theorem holds_decline (n : Nat) : (Reading.decline n).Holds s valid ahead :=
  ⟨trivial, trivial⟩

/-- A token that is a beginning of the characters ahead. -/
theorem holds_take {text : List Char} (hstarts : text <+: ahead) (htells : finding.Tells s text)
    (hadmitted : finding.Admitted valid) :
    (Reading.take finding text.length).Holds s valid ahead := by
  refine ⟨?_, hadmitted⟩
  show finding.Tells s (ahead.take text.length)
  rwa [← List.prefix_iff_eq_take.mp hstarts]

theorem take_ne_nil {n : Nat} (hn : 0 < n) (hahead : ahead ≠ []) : ahead.take n ≠ [] := by
  simp [List.take_eq_nil_iff, hahead, Nat.ne_of_gt hn]

/-! ## Names in tags -/

theorem holds_startTagName (hvalid : valid.contains .startTagName = true) :
    (startTagName ahead).Holds s valid ahead := by
  rw [startTagName]
  split
  · exact holds_decline 0
  · next hname =>
    have hne : tagName ahead ≠ [] := by simpa using hname
    exact holds_take (List.takeWhile_prefix _) ⟨hne, rfl⟩ hvalid

theorem holds_endTagName (hvalid : valid.contains .endTagName = true) :
    (endTagName s.tags ahead).Holds s valid ahead := by
  rw [endTagName]
  split
  · exact holds_decline 0
  · next hname =>
    have hne : tagName ahead ≠ [] := by simpa using hname
    -- the innermost element either has the name or has not
    split
    · next hcloses => exact holds_take (List.takeWhile_prefix _) ⟨hne, hcloses⟩ hvalid
    · next hcloses =>
      exact holds_take (List.takeWhile_prefix _) ⟨hne, by simpa using hcloses⟩ hvalid

theorem holds_selfClosing (hvalid : valid.contains .selfClosingTagDelimiter = true) :
    (selfClosing s.tags ahead).Holds s valid ahead := by
  unfold selfClosing
  split
  · split
    · exact holds_decline 2
    · next hopen => exact ⟨⟨by simp [Reading.take], by simpa using hopen⟩, hvalid⟩
  · exact holds_decline 1

/-! ## Implied ends -/

theorem isEmpty_of_endsBeforeEndTag {tags : Nesting Tag} {next : Tag}
    (hends : endsBeforeEndTag tags next = true) : tags.isEmpty = false := by
  rw [endsBeforeEndTag, Bool.and_eq_true] at hends
  exact Nesting.isEmpty_of_any hends.2

theorem isEmpty_of_endsBeforeStartTag {tags : Nesting Tag} {next : Tag} {atEnd : Bool}
    (hends : endsBeforeStartTag tags next atEnd = true) : tags.isEmpty = false := by
  cases htop : tags.top? with
  | none => simp [endsBeforeStartTag, htop] at hends
  | some parent => exact Nesting.isEmpty_of_top? htop

theorem holds_here (hopen : s.tags.isEmpty = false) (hvalid : valid.contains .implicitEndTag = true)
    (n : Nat) : (Reading.here .implicitEnd n).Holds s valid ahead :=
  ⟨⟨List.take_zero, hopen⟩, hvalid⟩

theorem holds_impliedEndBefore {ends : Tag → Bool → Bool} {consumed : Nat} (chars : List Char)
    (hends : ∀ next atEnd, ends next atEnd = true → s.tags.isEmpty = false)
    (hvalid : valid.contains .implicitEndTag = true) :
    (impliedEndBefore ends consumed chars).Holds s valid ahead := by
  rw [impliedEndBefore]
  split
  · exact holds_decline _
  · split
    · next hend => exact holds_here (hends _ _ hend) hvalid _
    · exact holds_decline _

theorem holds_impliedEnd {consumed : Nat} (chars : List Char)
    (hvalid : valid.contains .implicitEndTag = true) :
    (impliedEnd s.tags consumed chars).Holds s valid ahead := by
  unfold impliedEnd
  split
  · exact holds_impliedEndBefore _ (fun _ _ => isEmpty_of_endsBeforeEndTag) hvalid
  · split
    · next hvoid =>
      obtain ⟨tag, htop, -⟩ := (Option.any_eq_true _ _).mp hvoid
      exact holds_here (Nesting.isEmpty_of_top? htop) hvalid _
    · exact holds_impliedEndBefore _ (fun _ _ => isEmpty_of_endsBeforeStartTag) hvalid

/-! ## Raw text and comments -/

theorem holds_rawText (hvalid : valid.contains .rawText = true) :
    (rawText s.tags ahead).Holds s valid ahead := by
  rw [rawText]
  split
  · exact holds_decline 0
  · exact ⟨trivial, hvalid⟩

theorem holds_comment (chars : List Char) (hahead : ahead ≠ []) :
    (comment chars).Holds s valid ahead := by
  obtain ⟨n, overflowed, ⟨hcomment, hn⟩ | ⟨hcomment, -⟩⟩ := comment_cases chars
  · rw [hcomment]
    exact ⟨take_ne_nil (Nat.zero_lt_of_lt hn) hahead, trivial⟩
  · rw [hcomment]
    exact ⟨trivial, trivial⟩

/-! ## Delimiters -/

theorem isPrefix_of_commonLength {literal chars : List Char} {count : Nat}
    (hlength : commonLength count literal chars = count + literal.length) : literal <+: chars := by
  induction literal generalizing count chars with
  | nil => exact List.nil_prefix
  | cons a literal ih =>
    cases chars with
    | nil => simp [commonLength] at hlength
    | cons b chars =>
      rw [commonLength] at hlength
      split at hlength
      · next heq =>
        subst heq
        apply (List.prefix_cons_inj a).mpr
        apply ih
        rw [hlength, List.length_cons, Nat.add_comm literal.length, Nat.add_assoc]
      · simp at hlength

/-- A delimiter that is found is ahead as a whole. -/
theorem holds_delimiter {literal : List Char} (htells : finding.Tells s literal)
    (hadmitted : finding.Admitted valid) :
    (delimiter finding literal ahead).Holds s valid ahead := by
  rw [delimiter]
  split
  · next hmatch =>
    have hstarts : literal <+: ahead := by
      apply @isPrefix_of_commonLength literal ahead 0
      rw [Nat.zero_add]
      exact hmatch
    rw [hmatch]
    exact holds_take hstarts htells hadmitted
  · exact holds_decline _

/-! ## Inside mustache tags -/

theorem holds_newOpening (hvalid : valid.contains .mustacheSetStartDelimiter = true) :
    (newOpening ahead).Holds s valid ahead := by
  rw [newOpening]
  split
  · exact holds_decline _
  · next htext =>
    rw [Bool.or_eq_true, not_or] at htext
    exact holds_take (List.takeWhile_prefix _) ⟨by simpa using htext.1, rfl⟩ hvalid

theorem holds_newClosing (hvalid : valid.contains .mustacheSetEndDelimiter = true) :
    (newClosing ahead).Holds s valid ahead := by
  rw [newClosing]
  split
  · exact holds_decline _
  · next htext =>
    rw [Bool.or_eq_true, not_or] at htext
    exact holds_take (List.takeWhile_prefix _) ⟨by simpa using htext.1, rfl⟩ hvalid

theorem holds_identifier (hvalid : valid.contains .mustacheIdentifier = true) :
    (identifier s.delimiters ahead).Holds s valid ahead := by
  rw [identifier]
  split
  · exact holds_decline _
  · next hpart =>
    rw [Bool.or_eq_true, not_or] at hpart
    have hne := hpart.1
    rw [List.isEmpty_iff] at hne
    exact holds_take (List.takeWhile_prefix _) hne hvalid

theorem holds_mustacheComment (hvalid : valid.contains .mustacheComment = true) :
    (mustacheComment s.delimiters ahead).Holds s valid ahead := by
  rw [mustacheComment]
  split
  · exact holds_decline _
  · exact ⟨trivial, hvalid⟩

theorem holds_sectionStart (hvalid : valid.contains .mustacheSectionName = true) :
    (sectionStart s.delimiters ahead).Holds s valid ahead := by
  rw [sectionStart]
  split
  · exact holds_decline 0
  · next hname =>
    have hne : sectionName s.delimiters ahead ≠ [] := by simpa using hname
    exact holds_take (List.takeWhile_prefix _) ⟨hne, rfl⟩ hvalid

theorem holds_sectionEnd
    (hvalid : valid.contains .mustacheEndSectionName = true ∨
      valid.contains .mustacheErroneousEndSectionName = true) :
    (sectionEnd s.delimiters s.sections ahead).Holds s valid ahead := by
  rw [sectionEnd]
  split
  · exact holds_decline 0
  · next hname =>
    have hne : sectionName s.delimiters ahead ≠ [] := by simpa using hname
    split
    · next hcloses => exact holds_take (List.takeWhile_prefix _) ⟨hne, hcloses⟩ hvalid
    · next hcloses =>
      exact holds_take (List.takeWhile_prefix _) ⟨hne, by simpa using hcloses⟩ hvalid

/-! ## Text -/

theorem TextRun.stop_cases (run : TextRun) :
    (∃ n, run.stop = .decline n) ∨ ∃ n read, 0 < n ∧ run.stop = .ofLength .text n read := by
  rw [stop]
  split
  · exact Or.inl ⟨_, rfl⟩
  · next hlength => exact Or.inr ⟨_, _, Nat.pos_of_ne_zero hlength, rfl⟩

/-- A run of text comes to nothing, to an opening delimiter or to text, and neither of these is
empty. -/
theorem TextRun.readOn_cases (openingIsAdmissible : Bool) (run : TextRun) (rest : List Char) :
    (∃ n, run.readOn openingIsAdmissible rest = .decline n) ∨
      (openingIsAdmissible = true ∧
        ∃ n, run.readOn openingIsAdmissible rest = .take .opening (n + 1)) ∨
      ∃ n read, 0 < n ∧ run.readOn openingIsAdmissible rest = .ofLength .text n read := by
  have hstop : ∀ run : TextRun, (∃ n, run.stop = .decline n) ∨
      (openingIsAdmissible = true ∧ ∃ n, run.stop = .take .opening (n + 1)) ∨
      ∃ n read, 0 < n ∧ run.stop = .ofLength .text n read := by
    intro run
    rcases run.stop_cases with hdecline | htext
    · exact Or.inl hdecline
    · exact Or.inr (Or.inr htext)
  induction rest generalizing run with
  | nil =>
    rw [readOn]
    split
    · exact hstop _
    · exact hstop run
  | cons c rest ih =>
    rw [readOn]
    dsimp only
    split
    · next hopening =>
      -- a delimiter is found only where one is admissible
      rw [Bool.and_eq_true] at hopening
      exact Or.inr (Or.inl ⟨hopening.2, _, rfl⟩)
    · split
      · exact Or.inl ⟨_, rfl⟩
      · split
        · exact hstop _
        · exact ih _

theorem holds_textRun (hahead : ahead ≠ []) (hvalid : valid.contains .mustacheText = true) :
    (textRun s.delimiters (valid.contains .mustacheStartDelimiter) ahead).Holds s valid ahead := by
  rw [textRun]
  rcases TextRun.readOn_cases (valid.contains .mustacheStartDelimiter) (.new s.delimiters) ahead
    with ⟨n, hread⟩ | ⟨hopening, n, hread⟩ | ⟨n, read, hpos, hread⟩
  · rw [hread]
    exact holds_decline n
  · rw [hread]
    exact ⟨take_ne_nil (Nat.succ_pos n) hahead, hopening⟩
  · rw [hread]
    exact ⟨take_ne_nil hpos hahead, hvalid⟩

/-! ## The choice -/

theorem holds_impliedEndIfValid {consumed : Nat} (chars : List Char) :
    (impliedEndIfValid s valid consumed chars).Holds s valid ahead := by
  rw [impliedEndIfValid]
  split
  · next hvalid => exact holds_impliedEnd chars hvalid
  · exact holds_decline _

/-- What is looked for where no blank is ahead: one kind of token, with the admissible kind that
asks for it, or nothing.  No kind asks for a comment of the markup.  An implied end is looked for
before a tag and at the end of the text only. -/
inductive Chosen (s : ScanState) (valid : TokenSet) : List Char → Reading → Prop where
  | nothing {ahead : List Char} (n : Nat) : Chosen s valid ahead (.decline n)
  | newOpening {ahead : List Char} (hvalid : valid.contains .mustacheSetStartDelimiter = true) :
      Chosen s valid ahead (newOpening ahead)
  | newClosing {ahead : List Char} (hvalid : valid.contains .mustacheSetEndDelimiter = true) :
      Chosen s valid ahead (newClosing ahead)
  | directiveEnd {ahead : List Char} (hvalid : valid.contains .mustacheOldEndDelimiter = true) :
      Chosen s valid ahead (delimiter .directiveEnd s.delimiters.previousClosingText ahead)
  | mustacheComment {ahead : List Char} (hvalid : valid.contains .mustacheComment = true) :
      Chosen s valid ahead (mustacheComment s.delimiters ahead)
  | identifier {ahead : List Char} (hvalid : valid.contains .mustacheIdentifier = true) :
      Chosen s valid ahead (identifier s.delimiters ahead)
  | sectionStart {ahead : List Char} (hvalid : valid.contains .mustacheSectionName = true) :
      Chosen s valid ahead (sectionStart s.delimiters ahead)
  | sectionEnd {ahead : List Char}
      (hvalid : valid.contains .mustacheEndSectionName = true ∨
        valid.contains .mustacheErroneousEndSectionName = true) :
      Chosen s valid ahead (sectionEnd s.delimiters s.sections ahead)
  | closing {ahead : List Char} (hvalid : valid.contains .mustacheEndDelimiter = true) :
      Chosen s valid ahead (delimiter .closing s.delimiters.closingText ahead)
  | opening {ahead : List Char} (hvalid : valid.contains .mustacheStartDelimiter = true) :
      Chosen s valid ahead (delimiter .opening s.delimiters.openingText ahead)
  | angleOpening (behind : List Char) (hvalid : valid.contains .mustacheStartDelimiter = true) :
      Chosen s valid ('<' :: behind) (.take .opening 1)
  | comment (chars : List Char) : Chosen s valid ('<' :: '!' :: chars) (comment chars)
  | impliedEnd {ahead : List Char} (consumed : Nat) (chars : List Char)
      (htag : ahead.head?.all (· == '<') = true)
      (hvalid : valid.contains .implicitEndTag = true) :
      Chosen s valid ahead (impliedEnd s.tags consumed chars)
  | text (c : Char) (behind : List Char) (hvalid : valid.contains .mustacheText = true) :
      Chosen s valid (c :: behind)
        (textRun s.delimiters (valid.contains .mustacheStartDelimiter) (c :: behind))
  | selfClosing {ahead : List Char} (hvalid : valid.contains .selfClosingTagDelimiter = true) :
      Chosen s valid ahead (selfClosing s.tags ahead)
  | startTagName {ahead : List Char} (hvalid : valid.contains .startTagName = true) :
      Chosen s valid ahead (startTagName ahead)
  | endTagName {ahead : List Char} (hvalid : valid.contains .endTagName = true) :
      Chosen s valid ahead (endTagName s.tags ahead)

theorem chosen_mustachePart? {config : ScanConfig} {r : Reading}
    (hpart : mustachePart? config s valid ahead = some r) : Chosen s valid ahead r := by
  -- the admissible kinds are tried in order, and the first one of them decides
  rw [mustachePart?] at hpart
  split at hpart
  · next hvalid =>
    obtain rfl := Option.some.inj hpart
    split
    · exact .newOpening hvalid
    · exact .nothing 0
  split at hpart
  · next hvalid =>
    obtain rfl := Option.some.inj hpart
    split
    · exact .newClosing hvalid
    · exact .nothing 0
  split at hpart
  · next hvalid =>
    obtain rfl := Option.some.inj hpart
    exact .directiveEnd hvalid
  split at hpart
  · next hvalid =>
    obtain rfl := Option.some.inj hpart
    exact .mustacheComment hvalid
  split at hpart
  · next hvalid =>
    obtain rfl := Option.some.inj hpart
    exact .identifier hvalid
  split at hpart
  · next hvalid =>
    obtain rfl := Option.some.inj hpart
    exact .sectionStart hvalid
  split at hpart
  · next hvalid =>
    obtain rfl := Option.some.inj hpart
    exact .sectionEnd (by simpa using hvalid)
  split at hpart
  · next hvalid =>
    obtain rfl := Option.some.inj hpart
    rw [Bool.and_eq_true] at hvalid
    exact .closing hvalid.1
  · cases hpart

theorem chosen_impliedEndIfValid {consumed : Nat} (chars : List Char)
    (htag : ahead.head?.all (· == '<') = true) :
    Chosen s valid ahead (impliedEndIfValid s valid consumed chars) := by
  rw [impliedEndIfValid]
  split
  · next hvalid => exact .impliedEnd consumed chars htag hvalid
  · exact .nothing _

theorem chosen_openingAtAngle? {behind : List Char} {r : Reading}
    (hopening : openingAtAngle? s.delimiters valid behind = some r) :
    Chosen s valid ('<' :: behind) r := by
  unfold openingAtAngle? at hopening
  split at hopening
  · next hvalid =>
    split at hopening
    · obtain rfl := Option.some.inj hopening
      exact .angleOpening behind hvalid
    · split at hopening
      · obtain rfl := Option.some.inj hopening
        exact .opening hvalid
      · cases hopening
    · cases hopening
  · cases hopening

theorem chosen_atAngle (behind : List Char) :
    Chosen s valid ('<' :: behind) (atAngle s valid behind) := by
  unfold atAngle
  split
  · next hopening => exact chosen_openingAtAngle? hopening
  · split
    · exact .comment _
    · exact chosen_impliedEndIfValid _ rfl

theorem chosen_atOther (c : Char) (behind : List Char) :
    Chosen s valid (c :: behind) (atOther s valid c behind) := by
  rw [atOther]
  split
  · next hvalid => exact .text c behind hvalid
  split
  · next hvalid =>
    rw [Bool.and_eq_true] at hvalid
    exact .opening hvalid.1
  split
  · split
    · next hvalid => exact .selfClosing hvalid
    · exact .nothing 0
  split
  · exact .nothing 0
  split
  · next hvalid => exact .startTagName hvalid
  split
  · next hvalid => exact .endTagName hvalid
  · exact .nothing 0

/-- Where no blank is ahead, the admissible kinds and the next character choose what is looked
for. -/
theorem chosen_atToken (config : ScanConfig) :
    Chosen s valid ahead (atToken config s valid ahead) := by
  rw [atToken]
  split
  · next hpart => exact chosen_mustachePart? hpart
  · unfold atNext
    split
    · exact chosen_impliedEndIfValid [] rfl
    · exact chosen_atAngle _
    · exact chosen_atOther _ _

/-- Whatever is looked for, what is found tells the truth of its token and is admitted. -/
theorem Chosen.holds {r : Reading} (hchosen : Chosen s valid ahead r) :
    r.Holds s valid ahead := by
  cases hchosen with
  | nothing n => exact holds_decline n
  | newOpening hvalid => exact holds_newOpening hvalid
  | newClosing hvalid => exact holds_newClosing hvalid
  | directiveEnd hvalid => exact holds_delimiter s.delimiters.previousClosingText_ne hvalid
  | mustacheComment hvalid => exact holds_mustacheComment hvalid
  | identifier hvalid => exact holds_identifier hvalid
  | sectionStart hvalid => exact holds_sectionStart hvalid
  | sectionEnd hvalid => exact holds_sectionEnd hvalid
  | closing hvalid => exact holds_delimiter s.delimiters.closingText_ne hvalid
  | opening hvalid => exact holds_delimiter s.delimiters.openingText_ne hvalid
  | angleOpening behind hvalid => exact ⟨List.cons_ne_nil _ _, hvalid⟩
  | comment chars => exact holds_comment chars (List.cons_ne_nil _ _)
  | impliedEnd consumed chars htag hvalid => exact holds_impliedEnd chars hvalid
  | text c behind hvalid => exact holds_textRun (List.cons_ne_nil _ _) hvalid
  | selfClosing hvalid => exact holds_selfClosing hvalid
  | startTagName hvalid => exact holds_startTagName hvalid
  | endTagName hvalid => exact holds_endTagName hvalid

theorem holds_atToken (config : ScanConfig) :
    (atToken config s valid ahead).Holds s valid ahead :=
  (chosen_atToken config).holds

end Holds

/-- What is found behind the characters passed over tells the truth of its token and is admitted. -/
theorem read_holds (config : ScanConfig) (s : ScanState) (valid : TokenSet) (ahead : List Char) :
    (read config s valid ahead).Holds s valid
      (ahead.drop (read config s valid ahead).skipped) := by
  by_cases hraw : wantsRawText valid = true
  · have hread : read config s valid ahead = { rawText s.tags ahead with skipped := 0 } := by
      rw [read, if_pos hraw, rawText]
      split
      · rfl
      · rfl
    have hvalid : valid.contains .rawText = true := by
      simp only [wantsRawText, Bool.and_eq_true] at hraw
      exact hraw.1.1
    rw [hread]
    exact ⟨(holds_rawText hvalid).tells, (holds_rawText hvalid).admitted⟩
  · rw [read, if_neg hraw]
    exact ⟨(holds_atToken config).tells, (holds_atToken config).admitted⟩

end Lexing

end TemplateScan
