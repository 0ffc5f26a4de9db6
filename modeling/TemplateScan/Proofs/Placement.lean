import Mathlib.Order.Bounds.Basic
import TemplateScan.Proofs.Document.Scans
import TemplateScan.Proofs.Lexing.Characters
import TemplateScan.Proofs.Replay

/-!
# Where tokens are

A scan passes over the blanks ahead, takes the characters of its token and may read beyond it.  So
its token begins at the first character that is not blank, and whoever goes on behind the token, or
where the scan has stopped to read, stays at a character boundary of the text.  Only raw text begins
with the blanks ahead, and only three kinds of tokens may have no text.

* `Finding.StandsAt`: what the next character tells of a finding.
* `Lexing.Chosen.standsAt`: so it is for whatever is looked for.
* `Text.IsUnblank`, `isLeast_isUnblank`: passing over blanks leads to the first offset without one.
* `Scan.WellPlaced`, `Scanner.scan_wellPlaced`: every token that a scan finds is well placed.
-/

namespace TemplateScan

open Text Markup Mustache

/-! ## What the next character tells -/

/-- What the next character tells of a finding where no blank is ahead: an implied end is at a `<`
or at the end of the text, and raw text is not looked for there. -/
def Finding.StandsAt (ahead : List Char) : Finding → Prop
  | .implicitEnd => ahead.head?.all (· == '<') = true
  | .rawText => False
  | _ => True

namespace Lexing

section StandsAt

variable {s : ScanState} {valid : TokenSet} {ahead : List Char}

theorem standsAt_delimiter {finding : Finding} (hfinding : finding.StandsAt ahead)
    (literal chars : List Char) : (delimiter finding literal chars).finding.StandsAt ahead := by
  rw [delimiter]
  split
  · exact hfinding
  · trivial

theorem finding_impliedEndBefore (ends : Tag → Bool → Bool) (consumed : Nat) (chars : List Char) :
    (impliedEndBefore ends consumed chars).finding = .nothing ∨
      (impliedEndBefore ends consumed chars).finding = .implicitEnd := by
  rw [impliedEndBefore]
  split
  · exact Or.inl rfl
  · split
    · exact Or.inr rfl
    · exact Or.inl rfl

theorem finding_impliedEnd (tags : Nesting Tag) (consumed : Nat) (chars : List Char) :
    (impliedEnd tags consumed chars).finding = .nothing ∨
      (impliedEnd tags consumed chars).finding = .implicitEnd := by
  unfold impliedEnd
  split
  · exact finding_impliedEndBefore _ _ _
  · split
    · exact Or.inr rfl
    · exact finding_impliedEndBefore _ _ _

/-- Whatever is looked for where no blank is ahead, the next character tells this of what is
found. -/
theorem Chosen.standsAt {r : Reading} (hchosen : Chosen s valid ahead r) :
    r.finding.StandsAt ahead := by
  cases hchosen with
  | nothing | angleOpening => trivial
  | directiveEnd | closing | opening =>
    apply standsAt_delimiter
    trivial
  | newOpening | newClosing | mustacheComment | identifier | sectionStart | startTagName =>
    simp only [Lexing.newOpening, Lexing.newClosing, Lexing.mustacheComment, Lexing.identifier,
      Lexing.sectionStart, Lexing.startTagName]
    split <;> trivial
  | sectionEnd | endTagName =>
    -- the name closes something or nothing
    simp only [Lexing.sectionEnd, Lexing.endTagName]
    split
    · trivial
    · split <;> trivial
  | comment chars =>
    obtain ⟨n, overflowed, ⟨hcomment, -⟩ | ⟨hcomment, -⟩⟩ := comment_cases chars
    · rw [hcomment]
      trivial
    · rw [hcomment]
      trivial
  | impliedEnd consumed chars htag =>
    rcases finding_impliedEnd s.tags consumed chars with hfinding | hfinding
    · rw [hfinding]
      trivial
    · rw [hfinding]
      exact htag
  | text c behind =>
    rw [textRun]
    rcases TextRun.readOn_cases (valid.contains .mustacheStartDelimiter) (.new s.delimiters)
      (c :: behind) with ⟨n, hread⟩ | ⟨-, n, hread⟩ | ⟨n, read, -, hread⟩
    all_goals
      rw [hread]
      trivial
  | selfClosing =>
    unfold Lexing.selfClosing
    split
    · split <;> trivial
    · trivial

/-- Where raw text is not asked for, the blanks ahead are passed over, and the next character behind
them tells of the finding. -/
theorem read_standsAt {config : ScanConfig} (hwants : wantsRawText valid = false) :
    (read config s valid ahead).skipped = (ahead.takeWhile isBlank).length ∧
      (read config s valid ahead).finding.StandsAt
        (ahead.drop (ahead.takeWhile isBlank).length) := by
  rw [read, hwants]
  exact ⟨rfl, (chosen_atToken config).standsAt⟩

/-- Where it is, nothing but raw text is found, at the place itself. -/
theorem read_rawText {config : ScanConfig} (hwants : wantsRawText valid = true) :
    (read config s valid ahead).skipped = 0 ∧
      ∀ kind, (read config s valid ahead).finding.kind? = some kind → kind = .rawText := by
  rw [read, if_pos hwants, rawText]
  split
  · exact ⟨rfl, fun kind hkind => absurd hkind (by simp [Reading.decline, Finding.kind?])⟩
  · exact ⟨rfl, fun kind hkind => (Option.some.inj hkind).symm⟩

end StandsAt

end Lexing

/-! ## Behind the blanks -/

namespace Text

/-- No blank is at the offset of the text: another character is there, or the text ends. -/
def IsUnblank (text : List Char) (offset : Nat) : Prop :=
  ∃ p : Place, p.IsIn text ∧ p.offset = offset ∧ p.next?.all (!isBlank ·) = true

namespace Place

theorem offset_advance_mono (p : Place) {m n : Nat} (hle : m ≤ n) :
    (p.advance m).offset ≤ (p.advance n).offset := by
  obtain ⟨k, rfl⟩ := Nat.exists_eq_add_of_le hle
  rw [advance_add]
  exact offset_le_advance _ _

theorem next?_advance (p : Place) (n : Nat) : (p.advance n).next? = p.ahead[n]? := by
  rw [next?, advance_ahead, List.head?_drop]

/-- Passing over the blanks ahead leads to the first offset from the place on without one. -/
theorem isLeast_isUnblank {text : List Char} {p : Place} (hp : p.IsIn text) :
    IsLeast {n | p.offset ≤ n ∧ IsUnblank text n} (p.skipWhile isBlank).offset := by
  obtain ⟨rest, hsplit, hrest⟩ := Lexing.exists_takeWhile_append isBlank p.ahead
  have hahead := congrArg (List.drop (p.ahead.takeWhile isBlank).length) hsplit
  rw [List.drop_left, ← advance_ahead, ← skipWhile] at hahead
  constructor
  · refine ⟨p.offset_le_advance _, p.skipWhile isBlank, hp.advance _, rfl, ?_⟩
    rwa [next?, hahead]
  · rintro n ⟨hle, q, hq, rfl, hnext⟩
    obtain ⟨m, rfl⟩ := hp.exists_advance hq hle
    apply p.offset_advance_mono
    -- a place before would be at one of the blanks
    by_contra hlt
    have hm : m < (p.ahead.takeWhile isBlank).length := by omega
    have hblank : isBlank (p.ahead.takeWhile isBlank)[m] = true :=
      List.mem_takeWhile_imp (List.getElem_mem hm)
    rw [next?_advance, hsplit, List.getElem?_append_left hm, List.getElem?_eq_getElem hm,
      Option.all_some, hblank] at hnext
    cases hnext

end Place

end Text

/-! ## Scans -/

/-- The token of a scan is where it should be: it begins at or behind the place of the scan, ends
behind its beginning at or before the reading position, and that is not behind the text; all of
these are character boundaries.  It begins at the first offset without a blank, raw text at the
place of the scan itself.  An implied end has no text and is at a `<` or at the end; every other
token but raw text and the text of a mustache comment has some. -/
structure Scan.WellPlaced (text : List Char) (scan : Scan) (t : Token) : Prop where
  entry_le : scan.entry.offset ≤ t.span.start
  start_le : t.span.start ≤ t.span.stop
  stop_le : t.span.stop ≤ scan.cursor.here.offset
  here_le : scan.cursor.here.offset ≤ Utf8.byteLength text
  isBoundary : ∀ n ∈ [scan.entry.offset, t.span.start, t.span.stop, scan.cursor.here.offset],
    IsBoundary text n
  start_isLeast : t.kind ≠ .rawText →
    IsLeast {n | scan.entry.offset ≤ n ∧ IsUnblank text n} t.span.start
  start_rawText : t.kind = .rawText → t.span.start = scan.entry.offset
  isEmpty_implicitEnd : t.kind = .implicitEndTag → t.span.isEmpty = true
  before_implicitEnd : t.kind = .implicitEndTag →
    ∃ p : Place, p.IsIn text ∧ p.offset = t.span.start ∧ (p.next? = some '<' ∨ p.atEnd = true)
  start_lt : t.kind ∉ [.implicitEndTag, .rawText, .mustacheComment] → t.span.start < t.span.stop

namespace Finding

variable {finding : Finding} {ahead : List Char}

theorem StandsAt.kind?_ne (hstands : finding.StandsAt ahead) : finding.kind? ≠ some .rawText := by
  cases finding with
  | rawText => exact hstands.elim
  | startTag tag =>
    rw [kind?]
    split <;> simp
  | _ => simp [kind?]

theorem StandsAt.of_implicitEndTag (hstands : finding.StandsAt ahead)
    (hkind : finding.kind? = some .implicitEndTag) : ahead.head?.all (· == '<') = true := by
  cases finding with
  | implicitEnd => exact hstands
  | startTag tag =>
    rw [kind?] at hkind
    split at hkind <;> cases hkind
  | _ => cases hkind

theorem Tells.of_implicitEndTag {s : ScanState} {text : List Char} (htells : finding.Tells s text)
    (hkind : finding.kind? = some .implicitEndTag) : text = [] := by
  cases finding with
  | implicitEnd => exact htells.1
  | startTag tag =>
    rw [kind?] at hkind
    split at hkind <;> cases hkind
  | _ => cases hkind

end Finding

namespace Scanner

section Place

variable (s : Scanner) (valid : TokenSet) (entry : Place)

/-- A token ends behind its characters. -/
theorem stop_scan :
    (s.scan valid entry).cursor.span.stop =
      (s.scan valid entry).cursor.span.start + Utf8.byteLength (s.found valid entry) := by
  rw [Scan.cursor_span, found, ← Place.advance_ahead]
  dsimp only
  rw [Place.advance_add, Place.advance_offset]
  rfl

variable {s valid entry} {kind : TokenKind}

/-- A token begins behind the blanks ahead, and the next character tells of it, unless it is raw
text. -/
theorem start_scan (hkind : (s.scan valid entry).kind? = some kind) (hraw : kind ≠ .rawText) :
    (s.scan valid entry).cursor.span.start = (entry.skipWhile isBlank).offset ∧
      (s.scan valid entry).reading.finding.StandsAt (entry.skipWhile isBlank).ahead := by
  cases hwants : Lexing.wantsRawText valid with
  | true => exact absurd ((Lexing.read_rawText hwants).2 kind hkind) hraw
  | false =>
    have hread : (s.scan valid entry).reading.skipped = (entry.ahead.takeWhile isBlank).length ∧
        (s.scan valid entry).reading.finding.StandsAt
          (entry.ahead.drop (entry.ahead.takeWhile isBlank).length) :=
      Lexing.read_standsAt hwants
    refine ⟨?_, ?_⟩
    · rw [Scan.cursor_span, hread.1, Place.skipWhile]
      rfl
    · rw [Place.skipWhile, Place.advance_ahead]
      exact hread.2

/-- Raw text begins at the place itself. -/
theorem start_scan_rawText (hkind : (s.scan valid entry).kind? = some .rawText) :
    (s.scan valid entry).cursor.span.start = entry.offset := by
  cases hwants : Lexing.wantsRawText valid with
  | true =>
    have hskipped : (s.scan valid entry).reading.skipped = 0 := (Lexing.read_rawText hwants).1
    rw [Scan.cursor_span, hskipped]
    rfl
  | false => exact absurd hkind (Lexing.read_standsAt hwants).2.kind?_ne

/-- An implied end has no text and is at a `<` or at the end of the text. -/
theorem span_scan_implicitEnd (hkind : (s.scan valid entry).kind? = some .implicitEndTag) :
    (s.scan valid entry).cursor.span.start = (s.scan valid entry).cursor.span.stop ∧
      (s.scan valid entry).cursor.span.start = (entry.skipWhile isBlank).offset ∧
      ((entry.skipWhile isBlank).next? = some '<' ∨ (entry.skipWhile isBlank).atEnd = true) := by
  obtain ⟨hstart, hstands⟩ := start_scan hkind (by decide)
  refine ⟨?_, hstart, ?_⟩
  · rw [s.stop_scan, (s.scan_tells valid entry).of_implicitEndTag hkind]
    rfl
  · have hnext := hstands.of_implicitEndTag hkind
    rw [Place.next?, Place.atEnd]
    cases hahead : (entry.skipWhile isBlank).ahead with
    | nil => exact Or.inr rfl
    | cons c rest =>
      rw [hahead] at hnext
      exact Or.inl (congrArg some (beq_iff_eq.mp hnext))

end Place

/-- **Every token is well placed.**  Whatever the scanner, and whatever it is asked for at a place
of a text, the token that it finds is well placed. -/
theorem scan_wellPlaced (s : Scanner) (request : ScanRequest) {t : Token}
    (hfound : (s.scan request.valid request.entry).token? = some t) :
    (s.scan request.valid request.entry).WellPlaced request.text t := by
  obtain ⟨kind, hkind, rfl⟩ := Option.map_eq_some_iff.mp hfound
  have hentry := request.entry_isIn
  have hspan : (s.scan request.valid request.entry).cursor.span.IsIn request.text :=
    Scan.span_isIn hentry
  have hhere : (s.scan request.valid request.entry).cursor.here.IsIn request.text :=
    Scan.here_isIn hentry
  refine ⟨Scan.offset_entry_le_first _, hspan.le, ?_, ?_, ?_, ?_, ?_, ?_, ?_, ?_⟩
  · -- the reading position is behind the token
    rw [Scan.cursor_span, Scan.cursor, Reading.follow_here]
    exact Place.offset_advance_mono _ (Nat.le_add_right _ _)
  · rw [← hhere.offset_add]
    exact Nat.le_add_right _ _
  · simp only [List.forall_mem_cons]
    exact ⟨hentry.isBoundary, hspan.start, hspan.stop, hhere.isBoundary, by simp⟩
  · intro hraw
    show IsLeast _ (Scan.cursor _).span.start
    rw [(start_scan hkind hraw).1]
    exact Place.isLeast_isUnblank hentry
  · rintro rfl
    exact start_scan_rawText hkind
  · rintro rfl
    exact beq_iff_eq.mpr (span_scan_implicitEnd hkind).1
  · rintro rfl
    obtain ⟨-, hstart, hnext⟩ := span_scan_implicitEnd hkind
    exact ⟨request.entry.skipWhile isBlank, hentry.advance _, hstart.symm, hnext⟩
  · intro hnone
    have hempty : kind.mayBeEmpty = false := by
      cases kind <;> first | rfl | simp at hnone
    have htext := Finding.text_ne (s.scan_tells request.valid request.entry) hkind hempty
    show (Scan.cursor _).span.start < (Scan.cursor _).span.stop
    rw [s.stop_scan]
    exact Nat.lt_add_of_pos_right (Utf8.byteLength_pos htext)

/-- An element ends before a list item, behind blanks of one byte and of more. -/
def itemAhead : ScanRequest where
  text := "é \u3000\n<li>".toList
  valid := .ofList [.implicitEndTag, .startTagName]
  entry := ⟨2, " \u3000\n<li>".toList⟩
  entry_isIn := ⟨['é'], by decide, by decide⟩

theorem scan_wellPlaced_itemAhead :
    (Scanner.scan { state := { tags := .ofList [.known .li] } } itemAhead.valid
        itemAhead.entry).token? = some ⟨.implicitEndTag, ⟨7, 7⟩⟩ ∧
      (Scanner.scan { state := { tags := .ofList [.known .li] } } itemAhead.valid
        itemAhead.entry).WellPlaced itemAhead.text ⟨.implicitEndTag, ⟨7, 7⟩⟩ := by
  have hfound : (Scanner.scan { state := { tags := .ofList [.known .li] } } itemAhead.valid
      itemAhead.entry).token? = some ⟨.implicitEndTag, ⟨7, 7⟩⟩ := by
    decide +kernel
  exact ⟨hfound, scan_wellPlaced _ itemAhead hfound⟩

end Scanner

end TemplateScan
