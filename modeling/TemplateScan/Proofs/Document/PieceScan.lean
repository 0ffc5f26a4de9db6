import TemplateScan.Proofs.Document.ContentScan
import TemplateScan.Proofs.Document.Template
import TemplateScan.Proofs.Text.Stretches

/-!
# Scanning the pieces of a text

A run that has read some pieces of a text, and has noted their tokens and no issues, goes on over
the next piece in the same way: over punctuation by itself, over a token by a scan that finds it.

* `Run.HasRead`: a run that has read some pieces, with what is ahead and the scanner as it is then.
* `HasRead.advance`, `HasRead.scan`, `HasRead.scan_behind`, `HasRead.scan_nothing`: what it does
  next.
-/

namespace TemplateScan

open Text Markup Mustache Lexing

/-- The reading finds `n` characters as a token, behind others that are passed over, and no count
went over on the way. -/
structure Reading.FindsBehind (reading : Reading) (skipped : Nat) (finding : Finding) (n : Nat) :
    Prop where
  finding : reading.finding = finding
  skipped : reading.skipped = skipped
  length : reading.length = n
  overflowed : reading.overflowed = false

namespace Document

theorem tokensFrom_append (offset : Nat) (before after : List Piece) :
    tokensFrom offset (before ++ after) =
      tokensFrom offset before ++ tokensFrom (offset + Utf8.byteLength (charsOf before)) after := by
  induction before generalizing offset with
  | nil => rfl
  | cons piece before ih =>
    rw [List.cons_append, tokensFrom, tokensFrom, ih, charsOf_cons, Utf8.byteLength_append,
      List.append_assoc, Nat.add_assoc]

namespace Run

/-- The run has read the pieces and no others: it is behind them, with their tokens and without an
issue, and no count went over.  The characters are ahead, and the scanner has the settings and is in
the state. -/
structure HasRead (r : Run) (config : ScanConfig) (done : List Piece) (rest : List Char)
    (s : ScanState) : Prop where
  place : r.place = ⟨Utf8.byteLength (charsOf done), rest⟩
  size : r.size = Utf8.byteLength (charsOf done) + Utf8.byteLength rest
  tokens : r.tokens = (tokensFrom 0 done).reverse
  issues : r.issues = []
  plain : r.checkpoint = false
  config : r.scanner.config = config
  state : r.scanner.state = s
  overflowed : r.overflowed = false

section HasRead

variable {r : Run} {config : ScanConfig} {done done' : List Piece} {chars rest : List Char}
  {s : ScanState}

theorem HasRead.ahead (h : r.HasRead config done rest s) : r.ahead = rest := by
  rw [Run.ahead, h.place]

theorem HasRead.next? (h : r.HasRead config done rest s) : r.next? = rest.head? := by
  rw [Run.next?, h.place]
  rfl

theorem HasRead.remaining (h : r.HasRead config done rest s) :
    r.remaining = Utf8.byteLength rest := by
  rw [Run.remaining, h.size, h.place]
  exact Nat.add_sub_cancel_left _ _

/-- Of the pieces read, only the characters and the tokens count. -/
theorem HasRead.congr (h : r.HasRead config done rest s) (hchars : charsOf done' = charsOf done)
    (htokens : tokensFrom 0 done' = tokensFrom 0 done) : r.HasRead config done' rest s := by
  refine ⟨?_, ?_, ?_, h.issues, h.plain, h.config, h.state, h.overflowed⟩
  · rw [hchars, h.place]
  · rw [hchars, h.size]
  · rw [htokens, h.tokens]

/-- Going on over punctuation reads it. -/
theorem HasRead.advance (chars : List Char) (h : r.HasRead config done (chars ++ rest) s) :
    (r.advance chars.length).HasRead config (done ++ [Piece.mark chars]) rest s where
  place := by
    show r.place.advance chars.length = _
    rw [h.place, Place.advance_append]
    simp [Piece.mark]
  size := by
    show r.size = _
    rw [h.size]
    simp [Piece.mark, Nat.add_assoc]
  tokens := by
    show r.tokens = _
    rw [h.tokens, tokensFrom_append]
    simp [tokensFrom, Piece.mark]
  issues := h.issues
  plain := h.plain
  config := h.config
  state := h.state
  overflowed := h.overflowed

/-- No blanks are passed over where none are ahead. -/
theorem HasRead.skipBlanks (h : r.HasRead config done rest s)
    (hblank : rest.head?.all (!isBlank ·) = true) : r.skipBlanks = r := by
  rw [Run.skipBlanks, Run.skipWhile, Place.skipWhile, h.place, takeWhile_eq_nil hblank]
  show r.moveTo ⟨_, _⟩ = r
  rw [moveTo, ← h.place]

/-- A scan that finds the characters behind some others as a token reads both. -/
theorem HasRead.scan_behind {valid : TokenSet} {finding : Finding} {kind : TokenKind}
    {passed : List Char} (h : r.HasRead config done (passed ++ (chars ++ rest)) s)
    (hfinds : (read config s valid (passed ++ (chars ++ rest))).FindsBehind passed.length finding
      chars.length)
    (hkind : finding.kind? = some kind) :
    ∃ r', r.scan valid = (some kind, r') ∧
      r'.HasRead config (done ++ [Piece.mark passed, Piece.token kind chars]) rest
        (finding.apply s) := by
  -- what the scanner reads depends on the state and the characters ahead, which are known
  generalize hscan : r.scanner.scan valid r.place = scan
  have hread : scan.reading = read config s valid (passed ++ (chars ++ rest)) := by
    rw [← hscan, Scanner.scan, h.state, h.place, h.config]
  have hkindOf : scan.kind? = some kind := by
    rw [Scan.kind?, hread, hfinds.finding, hkind]
  have hfirst : scan.entry.advance scan.reading.skipped =
      ⟨Utf8.byteLength (charsOf done) + Utf8.byteLength passed, chars ++ rest⟩ := by
    rw [hread, hfinds.skipped, ← hscan]
    show r.place.advance passed.length = _
    rw [h.place, Place.advance_append]
  have hlast : scan.entry.advance (scan.reading.skipped + scan.reading.length) =
      ⟨Utf8.byteLength (charsOf done) + Utf8.byteLength passed + Utf8.byteLength chars, rest⟩ := by
    rw [Place.advance_add, hfirst, hread, hfinds.length, Place.advance_append]
  rw [Run.scan, beforeScan_eq_self h.plain]
  simp only [hscan, hkindOf]
  refine ⟨_, rfl, ?_⟩
  exact
    { place := by
        show scan.cursor.last = _
        rw [Scan.cursor_last, hlast]
        simp [Piece.mark, Piece.token, Nat.add_assoc]
      size := by
        show r.size = _
        rw [h.size]
        simp [Piece.mark, Piece.token, Nat.add_assoc]
      tokens := by
        show ⟨kind, scan.cursor.span⟩ :: r.tokens = _
        rw [Scan.cursor_span, hfirst, hlast, h.tokens, tokensFrom_append]
        simp [tokensFrom, Piece.mark, Piece.token]
      issues := h.issues
      plain := h.plain
      config := by
        show scan.after.config = _
        rw [Scan.after, ← hscan]
        exact h.config
      state := by
        show scan.after.state = _
        rw [Scan.after, hread, hfinds.finding, ← hscan]
        exact congrArg (Finding.apply · finding) h.state
      overflowed := by
        show (r.overflowed || scan.reading.overflowed) = false
        rw [h.overflowed, hread, hfinds.overflowed]
        rfl }

/-- A scan that finds the characters ahead as a token reads it. -/
theorem HasRead.scan {valid : TokenSet} {finding : Finding} {kind : TokenKind}
    (h : r.HasRead config done (chars ++ rest) s)
    (hfinds : (read config s valid (chars ++ rest)).Finds finding chars.length)
    (hkind : finding.kind? = some kind) :
    ∃ r', r.scan valid = (some kind, r') ∧
      r'.HasRead config (done ++ [Piece.token kind chars]) rest (finding.apply s) := by
  obtain ⟨r', hscan, hr'⟩ :=
    @scan_behind r config done chars rest s valid finding kind [] h
      ⟨hfinds.finding, hfinds.skipped, hfinds.length, hfinds.overflowed⟩ hkind
  refine ⟨r', hscan, hr'.congr ?_ ?_⟩
  · simp [Piece.mark]
  · simp [tokensFrom_append, tokensFrom, Piece.mark]

/-- A scan that finds nothing reads nothing. -/
theorem HasRead.scan_nothing {valid : TokenSet} (h : r.HasRead config done rest s)
    (hnothing : (read config s valid rest).FindsNothing) :
    ∃ r', r.scan valid = (none, r') ∧ r'.HasRead config done rest s := by
  have hscan : (r.scanner.scan valid r.place).reading.FindsNothing := by
    rw [Scanner.scan, h.state, h.place, h.config]
    exact hnothing
  have hkind : (r.scanner.scan valid r.place).kind? = none := by
    rw [Scan.kind?, hscan.finding]
    rfl
  rw [Run.scan, beforeScan_eq_self h.plain]
  simp only [hkind]
  refine ⟨_, rfl, ?_⟩
  exact
    { place := h.place
      size := h.size
      tokens := h.tokens
      issues := h.issues
      plain := h.plain
      config := h.config
      state := by
        show (r.scanner.scan valid r.place).after.state = _
        rw [Scan.after, hscan.finding]
        exact h.state
      overflowed := by
        show (r.overflowed || (r.scanner.scan valid r.place).reading.overflowed) = false
        rw [h.overflowed, hscan.overflowed]
        rfl }

end HasRead

/-! ## Content -/

/-- The run in which a document ends, from a run with so many open elements on. -/
def documentFrom (r : Run) (depth : Nat) : Run :=
  iterate documentLeft documentStep Prod.fst (r, depth)

section Content

variable {r r' : Run} {config config' : ScanConfig} {done done' : List Piece}
  {ahead rest : List Char} {s s' : ScanState} {depth depth' : Nat}

/-- Where the scanner finds nothing, content is read by other means. -/
theorem HasRead.content_nothing (inElement : Bool) (h : r.HasRead config done rest s)
    (hblank : rest.head?.all (!isBlank ·) = true)
    (hnothing : (atNext s (contentTokens inElement) rest).FindsNothing) :
    ∃ r' : Run, r.content inElement = r'.markup ∧ r'.HasRead config done rest s := by
  have hread : (read config s (contentTokens inElement) rest).FindsNothing := by
    rw [read_contentTokens inElement _ _ hblank]
    exact ⟨hnothing.finding, hnothing.overflowed⟩
  obtain ⟨r', hscan, hr'⟩ := h.scan_nothing hread
  refine ⟨r', ?_, hr'⟩
  rw [content, h.skipBlanks hblank, hscan]

/-- At the end of the text nothing more is read. -/
theorem HasRead.content_end (h : r.HasRead config done [] s) :
    ∃ r' : Run, r.content false = (.textEnded, r') ∧ r'.HasRead config done [] s := by
  obtain ⟨r', hcontent, hr'⟩ := h.content_nothing false rfl ⟨rfl, rfl⟩
  refine ⟨r', ?_, hr'⟩
  rw [hcontent]
  unfold markup
  rw [hr'.ahead]

/-- A step that reads something and opens at most one element is followed by the next one. -/
theorem HasRead.documentFrom_eq (h : r.HasRead config done ahead s) (chars : List Char)
    (hahead : ahead = chars ++ rest) (hne : chars ≠ []) (h' : r'.HasRead config' done' rest s')
    (hdepth : depth' ≤ depth + 1) (hstep : documentStep (r, depth) = .inr (r', depth')) :
    documentFrom r depth = documentFrom r' depth' := by
  apply iterate_of_lt hstep
  -- a byte less counts two, an element more one
  have hpos := Utf8.byteLength_pos hne
  rw [documentLeft, documentLeft, h.remaining, h'.remaining, hahead, Utf8.byteLength_append]
  omega

theorem documentStep_content (hcontent : r.content (0 < depth) = (.content, r')) :
    documentStep (r, depth) = .inr (r', depth) := by
  rw [documentStep, hcontent]

/-- With the text at its end and no element to end, the document ends. -/
theorem HasRead.documentFrom_end (h : r.HasRead config done [] s) :
    (documentFrom r 0).HasRead config done [] s := by
  obtain ⟨last, hcontent, hlast⟩ := h.content_end
  have hstop : documentFrom r 0 = last := by
    apply iterate_of_inl
    rw [documentStep]
    simp only [Nat.lt_irrefl, decide_false, hcontent, if_true]
  rwa [hstop]

end Content

/-- A run begins with nothing read. -/
theorem hasRead_start (config : ScanConfig) (chars : List Char) :
    (Run.start (.new config) false (String.ofList chars)).HasRead config [] chars {} where
  place := congrArg (Place.mk 0) String.toList_ofList
  size := (Utf8.utf8ByteSize_ofList chars).trans (Nat.zero_add _).symm
  tokens := rfl
  issues := rfl
  plain := rfl
  config := rfl
  state := rfl
  overflowed := rfl

/-- What is known when all pieces have been read. -/
theorem HasRead.outcome_finish {r : Run} {config : ScanConfig} {done : List Piece} {s : ScanState}
    (h : r.HasRead config done [] s) :
    r.finish.outcome =
      { tokens := tokensFrom 0 done
        issues := []
        openTags := s.tags.toList
        openSections := s.sections.toList } := by
  show Outcome.mk r.tokens.reverse r.issues.reverse r.scanner.state.tags.toList
    r.scanner.state.sections.toList = _
  rw [h.tokens, h.issues, h.state, List.reverse_reverse]
  rfl

end Run

end Document

end TemplateScan
