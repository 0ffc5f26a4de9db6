import TemplateScan.Proofs.Document.ContentScan
import TemplateScan.Proofs.Document.Scans

/-!
# Opening delimiters that only begin

A directive may set an opening delimiter that begins with `<`.  At each `<` in the content it then
competes with comments and implied ends, and the scanner decides between them by the character
behind the `<`: if it is that of the delimiter, nothing else is looked for, though the delimiter may
go on in another way.

* `openingAtAngle?_of_not_begins`, `openingAtAngle?_of_partial`: the two ways in which a delimiter
  that does not occur is dealt with.
* `Scan.SameMarkup`: scans that come to the same but for the delimiters.
* `Scanner.scan_of_partial_opening`: when a delimiter that only begins hides what the scanner would
  find with the built-in one.
-/

namespace TemplateScan

open Text Markup Mustache

namespace Lexing

/-! ## The decision at a `<` -/

section AtAngle

variable {d : Delimiters} {valid : TokenSet} {behind : List Char}

theorem delimiter_of_not_isPrefix (finding : Finding) {literal ahead : List Char}
    (habsent : ¬literal <+: ahead) :
    delimiter finding literal ahead = .decline (matchLength literal ahead) := by
  rw [delimiter]
  apply if_neg
  intro hlength
  apply habsent
  apply @isPrefix_of_commonLength literal ahead 0
  rw [Nat.zero_add]
  exact hlength

/-- A delimiter whose first two characters are not ahead is not looked for. -/
theorem openingAtAngle?_of_not_begins (hbegins : ¬d.openingText.take 2 <+: '<' :: behind) :
    openingAtAngle? d valid behind = none := by
  rw [openingAtAngle?]
  split
  · split
    · next htext =>
      -- the delimiter is `<` and stands ahead
      rw [htext] at hbegins
      exact absurd ⟨behind, rfl⟩ hbegins
    · next second later htext =>
      rw [htext] at hbegins
      apply if_neg
      intro hsecond
      obtain ⟨rest, rfl⟩ := List.head?_eq_some_iff.mp hsecond
      exact hbegins ⟨rest, rfl⟩
    · rfl
  · rfl

/-- A delimiter whose first two characters are ahead is looked for to the end. -/
theorem openingAtAngle?_of_begins (hvalid : valid.contains .mustacheStartDelimiter = true)
    (hangle : d.openingText.head? = some '<') (hlong : d.openingText ≠ ['<'])
    (hbegins : d.openingText.take 2 <+: '<' :: behind) :
    openingAtAngle? d valid behind = some (delimiter .opening d.openingText ('<' :: behind)) := by
  rw [openingAtAngle?, if_pos hvalid]
  split
  · next htext => exact absurd htext hlong
  · next second later htext =>
    rw [htext] at hbegins
    obtain ⟨rest, hrest⟩ := hbegins
    obtain rfl := (List.cons.inj hrest).2
    exact if_pos rfl
  · next hother =>
    obtain ⟨more, hmore⟩ := List.head?_eq_some_iff.mp hangle
    cases more with
    | nil => exact absurd hmore hlong
    | cons second later => exact absurd hmore (hother second later)

/-- One that goes on in another way is not found, and nothing else is looked for. -/
theorem openingAtAngle?_of_partial (hvalid : valid.contains .mustacheStartDelimiter = true)
    (hangle : d.openingText.head? = some '<') (hpartial : ¬d.openingText <+: '<' :: behind)
    (hbegins : d.openingText.take 2 <+: '<' :: behind) :
    openingAtAngle? d valid behind =
      some (.decline (matchLength d.openingText ('<' :: behind))) := by
  have hlong : d.openingText ≠ ['<'] := by
    intro htext
    rw [htext] at hpartial
    exact hpartial ⟨behind, rfl⟩
  rw [openingAtAngle?_of_begins hvalid hangle hlong hbegins, delimiter_of_not_isPrefix _ hpartial]

/-- Nothing is found at a `<` that the delimiter begins like, and goes on from in another way. -/
theorem atAngle_of_partial {s : ScanState}
    (hvalid : valid.contains .mustacheStartDelimiter = true)
    (hangle : s.delimiters.openingText.head? = some '<')
    (hpartial : ¬s.delimiters.openingText <+: '<' :: behind)
    (hbegins : s.delimiters.openingText.take 2 <+: '<' :: behind) :
    (atAngle s valid behind).finding = .nothing := by
  unfold atAngle
  simp only [openingAtAngle?_of_partial hvalid hangle hpartial hbegins]
  rfl

/-- Without the delimiter, what is found does not depend on the delimiters. -/
theorem atAngle_congr {s s' : ScanState} (htags : s.tags = s'.tags)
    (hnone : openingAtAngle? s.delimiters valid behind = none)
    (hnone' : openingAtAngle? s'.delimiters valid behind = none) :
    atAngle s valid behind = atAngle s' valid behind := by
  unfold atAngle
  simp only [hnone, hnone', impliedEndIfValid, htags]

end AtAngle

end Lexing

/-! ## The built-in delimiter in its place -/

/-- The state with the built-in opening delimiter. -/
def ScanState.withBuiltinOpening (s : ScanState) : ScanState :=
  { s with delimiters := { s.delimiters with opening := .builtin } }

theorem ScanState.openingText_withBuiltinOpening (s : ScanState) :
    s.withBuiltinOpening.delimiters.openingText = ({} : Delimiters).openingText := rfl

/-- The scanner with the built-in opening delimiter. -/
def Scanner.withBuiltinOpening (s : Scanner) : Scanner :=
  { s with state := s.state.withBuiltinOpening }

/-- A finding opens and closes the same elements and sections, whatever the delimiters are. -/
theorem Finding.apply_withBuiltinOpening (finding : Finding) (s : ScanState) :
    (finding.apply s.withBuiltinOpening).tags = (finding.apply s).tags ∧
      (finding.apply s.withBuiltinOpening).sections = (finding.apply s).sections := by
  cases finding with
  | _ => exact ⟨rfl, rfl⟩

/-- Scans that find the same token, if any, and open and close the same elements and sections. -/
structure Scan.SameMarkup (scan scan' : Scan) : Prop where
  kind? : scan.kind? = scan'.kind?
  token? : scan.token? = scan'.token?
  tags : scan.after.state.tags = scan'.after.state.tags
  sections : scan.after.state.sections = scan'.after.state.sections

namespace Scanner

open Lexing Document.Run

section PartialOpening

variable {s : Scanner} {entry : Place} {valid : TokenSet}

theorem sameMarkup_of_reading
    (hreading : (s.scan valid entry).reading = (s.withBuiltinOpening.scan valid entry).reading) :
    (s.scan valid entry).SameMarkup (s.withBuiltinOpening.scan valid entry) := by
  have hkind : (s.scan valid entry).kind? = (s.withBuiltinOpening.scan valid entry).kind? := by
    rw [Scan.kind?, hreading, Scan.kind?]
  obtain ⟨htags, hsections⟩ :=
    (s.withBuiltinOpening.scan valid entry).reading.finding.apply_withBuiltinOpening s.state
  refine ⟨hkind, ?_, ?_, ?_⟩
  · rw [Scan.token?, hkind, Scan.cursor, hreading]
    rfl
  · rw [Scan.after, hreading]
    exact htags.symm
  · rw [Scan.after, hreading]
    exact hsections.symm

/-- Scans that find nothing leave all as it is. -/
theorem sameMarkup_of_none (hkind : (s.scan valid entry).kind? = none)
    (hkind' : (s.withBuiltinOpening.scan valid entry).kind? = none) :
    (s.scan valid entry).SameMarkup (s.withBuiltinOpening.scan valid entry) := by
  refine ⟨hkind.trans hkind'.symm, ?_, ?_, ?_⟩
  · rw [Scan.token?, hkind, Scan.token?, hkind']
    rfl
  all_goals
    rw [Scan.after, Finding.eq_nothing hkind, Scan.after, Finding.eq_nothing hkind']
    rfl

/-- At a `<` in the content that character decides. -/
theorem reading_at_angle {behind : List Char} (s : Scanner) (inElement : Bool)
    (hahead : entry.ahead = '<' :: behind) :
    (s.scan (contentTokens inElement) entry).reading =
      { atAngle s.state (contentTokens inElement) behind with skipped := 0 } := by
  have hblank : entry.ahead.head?.all (!isBlank ·) = true := by
    rw [hahead]
    exact (by decide : (!isBlank '<') = true)
  rw [scan, read_contentTokens inElement s.config s.state hblank, hahead]
  rfl

/-- **What an opening delimiter hides that only begins.**  In the content, at a `<` where the
opening delimiter in force begins with it and does not occur, a scan comes to the same as with the
built-in one, unless the character behind the `<` is that of the delimiter too.  Then nothing is
found and nothing changes, so that it comes to the same only where the built-in one makes way for
nothing. -/
theorem scan_of_partial_opening (inElement : Bool)
    (hangle : s.state.delimiters.openingText.head? = some '<')
    (hentry : entry.ahead.head? = some '<')
    (hpartial : ¬s.state.delimiters.openingText <+: entry.ahead) :
    (s.state.delimiters.openingText.take 2 <+: entry.ahead →
      (s.scan (contentTokens inElement) entry).kind? = none ∧
        (s.scan (contentTokens inElement) entry).after.state = s.state) ∧
    ((s.scan (contentTokens inElement) entry).SameMarkup
        (s.withBuiltinOpening.scan (contentTokens inElement) entry) ↔
      (s.state.delimiters.openingText.take 2 <+: entry.ahead →
        (s.withBuiltinOpening.scan (contentTokens inElement) entry).kind? = none)) := by
  obtain ⟨behind, hahead⟩ := List.head?_eq_some_iff.mp hentry
  -- two characters of the delimiter decide: with both ahead the scan is given up
  have hhidden : s.state.delimiters.openingText.take 2 <+: entry.ahead →
      (s.scan (contentTokens inElement) entry).reading.finding = .nothing := by
    intro hbegins
    rw [hahead] at hpartial hbegins
    rw [reading_at_angle s inElement hahead]
    exact atAngle_of_partial (contentTokens_mustacheStartDelimiter inElement) hangle hpartial
      hbegins
  -- and otherwise both scanners look for the same behind the `<`
  have hshown : ¬s.state.delimiters.openingText.take 2 <+: entry.ahead →
      (s.scan (contentTokens inElement) entry).SameMarkup
        (s.withBuiltinOpening.scan (contentTokens inElement) entry) := by
    intro hbegins
    rw [hahead] at hbegins
    have hbuiltin : s.withBuiltinOpening.state.delimiters.openingText.head? ≠ some '<' := by
      rw [withBuiltinOpening, ScanState.openingText_withBuiltinOpening]
      decide
    have hsame : atAngle s.state (contentTokens inElement) behind =
        atAngle s.withBuiltinOpening.state (contentTokens inElement) behind :=
      atAngle_congr rfl (openingAtAngle?_of_not_begins hbegins)
        (openingAtAngle?_eq_none hbuiltin _ _)
    apply sameMarkup_of_reading
    rw [reading_at_angle s inElement hahead, reading_at_angle _ inElement hahead, hsame]
  refine ⟨?_, ?_, ?_⟩
  · intro hbegins
    rw [Scan.kind?, Scan.after, hhidden hbegins]
    exact ⟨rfl, rfl⟩
  · intro hsame hbegins
    rw [← hsame.kind?, Scan.kind?, hhidden hbegins]
    rfl
  · intro hnone
    by_cases hbegins : s.state.delimiters.openingText.take 2 <+: entry.ahead
    · apply sameMarkup_of_none
      · rw [Scan.kind?, hhidden hbegins]
        rfl
      · exact hnone hbegins
    · exact hshown hbegins

end PartialOpening

/-- A scanner in a paragraph, with an opening delimiter that was set. -/
def inParagraph (opening : String) : Scanner :=
  { state := { tags := .ofList [.known .p], delimiters := { opening := .ofText opening } } }

/-- Where a comment stands. -/
def commentAhead : Place :=
  .start "<!-- c -->".toList

/-- `<%x` leaves the comment, and `<!x` takes it away. -/
theorem scan_of_partial_opening_comment :
    ((inParagraph "<%x").scan (contentTokens true) commentAhead).token? =
        some ⟨.comment, ⟨0, 10⟩⟩ ∧
      ((inParagraph "<!x").scan (contentTokens true) commentAhead).kind? = none := by
  have hshown := (@scan_of_partial_opening (inParagraph "<%x") commentAhead true
    (by decide) (by decide) (by decide)).2.mpr (fun hbegins => absurd hbegins (by decide))
  have hhidden := (@scan_of_partial_opening (inParagraph "<!x") commentAhead true
    (by decide) (by decide) (by decide)).1 (by decide)
  refine ⟨?_, hhidden.1⟩
  rw [hshown.token?]
  decide +kernel

/-- A delimiter that begins like a comment hides the comment, and one that begins like a start tag
the end of the paragraph before it, though neither occurs there; in a document that sets the first
one, the comment is an issue. -/
theorem partial_opening_hides :
    (¬"<!x".toList <+: commentAhead.ahead ∧
      ((inParagraph "<!x").scan (contentTokens false) commentAhead).kind? = none ∧
      ((inParagraph "<!x").withBuiltinOpening.scan (contentTokens false) commentAhead).kind? =
        some .comment) ∧
    (¬"<dx".toList <+: "<div>".toList ∧
      ((inParagraph "<dx").scan (contentTokens true) (.start "<div>".toList)).kind? = none ∧
      ((inParagraph "<dx").withBuiltinOpening.scan (contentTokens true)
        (.start "<div>".toList)).kind? = some .implicitEndTag) ∧
    (Document.parse {} false "\x7B\x7B=<!x %>=\x7D\x7D<!-- c -->").issues =
      [⟨.unterminatedComment, 12⟩] := by
  decide +kernel

end Scanner

end TemplateScan
