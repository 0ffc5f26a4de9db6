import TemplateScan.Proofs.Document.PieceScan
import TemplateScan.Proofs.Lexing.MustacheTag
import TemplateScan.Proofs.Lexing.Opening

/-!
# Scanning mustache tags

The parts of mustache tags are found as a whole whatever the delimiters in force are: the delimiters
themselves, the name of a value, and the two delimiters that a directive sets.

* `HasRead.content_opening`: the opening delimiter, where content begins.
* `HasRead.valueTag`: the tag of a value.
* `HasRead.directiveTag`: a directive, closed by the delimiter in force before it.
-/

namespace TemplateScan.Document

open Text Mustache Lexing

/-- A name of a value before a closing delimiter: no blank, no dot and not the first character of
the delimiter, and no character first that tells the sort of a tag. -/
def IsNameBefore (closing name : List Char) : Prop :=
  name ≠ [] ∧ (∀ c ∈ name, isBlank c = false ∧ c ≠ '.' ∧ closing.head? ≠ some c) ∧
    ∀ c ∈ name.head?, c ∉ sortChars

/-- A text that a directive can set as a delimiter: no blank and no `=`. -/
def IsDelimiterText (text : List Char) : Prop :=
  text ≠ [] ∧ ∀ c ∈ text, isBlank c = false ∧ c ≠ '='

instance (closing name : List Char) : Decidable (IsNameBefore closing name) :=
  have := List.decidableBAll (fun c => isBlank c = false ∧ c ≠ '.' ∧ closing.head? ≠ some c) name
  have := @Option.decidableForallMem _ (fun c => c ∉ sortChars) _ name.head?
  inferInstanceAs (Decidable (_ ∧ _ ∧ _))

instance (text : List Char) : Decidable (IsDelimiterText text) :=
  have := List.decidableBAll (fun c => isBlank c = false ∧ c ≠ '=') text
  inferInstanceAs (Decidable (_ ∧ _))

theorem IsDelimiterText.head?_all {text : List Char} (htext : IsDelimiterText text)
    (rest : List Char) : (text ++ rest).head?.all (!isBlank ·) = true := by
  apply head?_all_append htext.1
  intro c hc
  simp [(htext.2 c hc).1]

/-- The delimiters behind a directive that sets these. -/
def setDelimiters (opening closing : List Char) : Delimiters where
  opening := .ofText (String.ofList opening)
  closing := .ofText (String.ofList closing)

namespace Run

section MustacheScan

variable {r : Run} {config : ScanConfig} {done : List Piece}
  {name opening closing before rest : List Char}
  {s : ScanState}

/-! ## Delimiters -/

theorem finds_opening (inElement : Bool)
    (hblank : (s.delimiters.openingText ++ rest).head?.all (!isBlank ·) = true)
    (hfirst : OpensFirst s.delimiters) :
    (read config s (contentTokens inElement) (s.delimiters.openingText ++ rest)).Finds .opening
      s.delimiters.openingText.length := by
  rw [read_contentTokens inElement _ _ hblank]
  by_cases hangle : s.delimiters.openingText.head? = some '<'
  · -- the `<` is looked at before anything that begins with it
    obtain ⟨more, hmore⟩ := List.head?_eq_some_iff.mp hangle
    have htext : s.delimiters.openingText ++ rest = '<' :: (more ++ rest) :=
      congrArg (· ++ rest) hmore
    have hnext : atNext s (contentTokens inElement) (s.delimiters.openingText ++ rest) =
        .take .opening s.delimiters.openingText.length := by
      rw [htext, atNext_angle]
      exact atAngle_of_isPrefix (contentTokens_mustacheStartDelimiter inElement) ⟨rest, htext⟩
    rw [hnext]
    exact Reading.finds_take _ _
  · -- a run of text is tried, which meets the delimiter at once
    obtain ⟨c, more, hmore⟩ := List.exists_cons_of_ne_nil s.delimiters.openingText_ne
    have hc : c ≠ '<' := by
      rintro rfl
      exact hangle (congrArg List.head? hmore)
    have hrun := textRun_append_opening rest hangle
      (hfirst.resolve_left hangle)
    have hnext : atNext s (contentTokens inElement) (s.delimiters.openingText ++ rest) =
        .take .opening s.delimiters.openingText.length := by
      rw [← hrun, hmore, List.cons_append]
      exact atNext_contentTokens inElement s _ hc
    rw [hnext]
    exact Reading.finds_take _ _

/-- The opening delimiter is read, and the tag behind it. -/
theorem HasRead.content_opening (inElement : Bool) (h : r.HasRead config done (opening ++ rest) s)
    (hspelled : s.delimiters.openingText = opening) (hopening : IsDelimiterText opening)
    (hfirst : OpensFirst s.delimiters) :
    ∃ r' : Run, r.content inElement = (.content, r'.mustacheTag) ∧
      r'.HasRead config (done ++ [Piece.token .mustacheStartDelimiter opening]) rest s := by
  subst hspelled
  obtain ⟨r', hscan, hr'⟩ := h.scan (finds_opening inElement (hopening.head?_all rest) hfirst) rfl
  refine ⟨r', ?_, hr'⟩
  rw [content, h.skipBlanks (hopening.head?_all rest), hscan]

/-- The closing delimiter is read. -/
theorem HasRead.closingDelimiter (h : r.HasRead config done (closing ++ rest) s)
    (hspelled : s.delimiters.closingText = closing) (hne : closing ≠ [])
    (hblank : (closing ++ rest).head?.all (!isBlank ·) = true) :
    r.closingDelimiter.HasRead config (done ++ [Piece.token .mustacheEndDelimiter closing]) rest
      s := by
  subst hspelled
  have hbegins :
      (s.delimiters.closingText ++ rest).head?.any (beginsClosing s.delimiters) = true := by
    obtain ⟨c, more, hmore⟩ := List.exists_cons_of_ne_nil hne
    simp [beginsClosing, hmore]
  have hfinds : (read config s (.singleton .mustacheEndDelimiter)
      (s.delimiters.closingText ++ rest)).Finds .closing s.delimiters.closingText.length := by
    rw [read_of_not_blank rfl hblank]
    have hpart : mustachePart? config s (.singleton .mustacheEndDelimiter)
        (s.delimiters.closingText ++ rest) =
          if (s.delimiters.closingText ++ rest).head?.any (beginsClosing s.delimiters) then
            some (delimiter .closing s.delimiters.closingText (s.delimiters.closingText ++ rest))
          else none := rfl
    rw [atToken, hpart, if_pos hbegins, delimiter_append]
    exact Reading.finds_take _ _
  obtain ⟨r', hscan, hr'⟩ := h.scan hfinds rfl
  rw [Run.closingDelimiter, expect, hscan]
  exact hr'

/-! ## Values -/

/-- The path of one part is read. -/
theorem HasRead.path (h : r.HasRead config done (name ++ (closing ++ rest)) s)
    (hspelled : s.delimiters.closingText = closing) (hname : IsNameBefore closing name)
    (hne : closing ≠ []) (hdot : closing.head? ≠ some '.') :
    r.path.HasRead config (done ++ [Piece.token .mustacheIdentifier name]) (closing ++ rest) s := by
  subst hspelled
  obtain ⟨c, more, hmore⟩ := List.exists_cons_of_ne_nil hne
  have hblank : (name ++ (s.delimiters.closingText ++ rest)).head?.all (!isBlank ·) = true :=
    head?_all_append hname.1 fun c hc => by simp [(hname.2.1 c hc).1]
  have hrun : ∀ c ∈ name, (!(c == '.' || isBlank c || beginsClosing s.delimiters c)) = true := by
    intro c hc
    obtain ⟨hc, hdot, hclosing⟩ := hname.2.1 c hc
    simp [hc, hdot, beginsClosing, hclosing]
  have hstop :
      (s.delimiters.closingText ++ rest).head?.all (beginsClosing s.delimiters) = true := by
    simp [beginsClosing, hmore]
  have hfinds : (read config s (.singleton .mustacheIdentifier)
      (name ++ (s.delimiters.closingText ++ rest))).Finds .identifier name.length := by
    rw [read_of_not_blank rfl hblank]
    show Reading.Finds { identifier s.delimiters _ with skipped := 0 } _ _
    rw [identifier_append hname.1 hrun (by simp [hne]) hstop]
    exact Reading.finds_take _ _
  obtain ⟨r', hscan, hr'⟩ := h.scan hfinds rfl
  -- no dot follows, so the path has one part
  have hnext : r'.next? ≠ some '.' := by
    rw [hr'.next?, List.head?_append_of_ne_nil _ hne]
    exact hdot
  have hpath : r.path = r' := by
    apply iterate_of_inl
    rw [pathStep, hscan]
    dsimp only
    rw [if_neg hnext]
  rw [hpath]
  exact hr'

/-- Where no character tells another sort of tag, the path of a value is read. -/
theorem mustacheBody_of_head? {c : Char} (hahead : r.ahead = c :: rest) (hsort : c ∉ sortChars)
    (hdot : c ≠ '.') : r.mustacheBody = r.path.closingDelimiter := by
  rw [mustacheBody, hahead]
  split <;> simp_all [sortChars]

/-- The tag of a value is read. -/
theorem HasRead.valueTag (h : r.HasRead config done (name ++ (closing ++ rest)) s)
    (hspelled : s.delimiters.closingText = closing) (hname : IsNameBefore closing name)
    (hne : closing ≠ []) (hblank : (closing ++ rest).head?.all (!isBlank ·) = true)
    (hdot : closing.head? ≠ some '.') :
    r.mustacheTag.HasRead config
      (done ++ [Piece.token .mustacheIdentifier name, Piece.token .mustacheEndDelimiter closing])
      rest s := by
  obtain ⟨c, more, rfl⟩ := List.exists_cons_of_ne_nil hname.1
  obtain ⟨hc, hcDot, -⟩ := hname.2.1 c (List.mem_cons_self ..)
  have hclosed := (h.path hspelled hname hne hdot).closingDelimiter hspelled hne hblank
  rw [List.append_assoc] at hclosed
  rw [mustacheTag, h.skipBlanks (by simp [hc]),
    mustacheBody_of_head? h.ahead (hname.2.2 c rfl) hcDot]
  exact hclosed

/-! ## Directives -/

theorem isDelimiterText_run {text : List Char} (htext : IsDelimiterText text) :
    ∀ c ∈ text, (!(isBlank c || c == '=')) = true := by
  intro c hc
  simp [htext.2 c hc]

theorem finds_newOpening (hchanges : config.delimiterChanges = true)
    (htext : IsDelimiterText opening) :
    (read config s (.singleton .mustacheSetStartDelimiter) (opening ++ ' ' :: rest)).Finds
      (.newOpening (String.ofList opening)) opening.length := by
  rw [read_of_not_blank rfl (htext.head?_all _)]
  show Reading.Finds { (if config.delimiterChanges then newOpening _ else .decline 0) with
    skipped := 0 } _ _
  rw [if_pos hchanges, newOpening_append rest htext.1 (isDelimiterText_run htext)]
  exact Reading.finds_take _ _

/-- The closing delimiter that a directive sets is found behind the blank before it. -/
theorem finds_newClosing (hchanges : config.delimiterChanges = true)
    (htext : IsDelimiterText closing) :
    (read config s (.singleton .mustacheSetEndDelimiter)
      ([' '] ++ (closing ++ '=' :: rest))).FindsBehind 1
      (.newClosing (String.ofList closing)) closing.length := by
  have hblanks : ([' '] ++ (closing ++ '=' :: rest)).takeWhile isBlank = [' '] := by
    apply takeWhile_append_stop
    · exact List.forall_mem_singleton.mpr rfl
    · exact htext.head?_all _
  rw [Lexing.read, if_neg (by decide), hblanks]
  show Reading.FindsBehind { (if config.delimiterChanges then newClosing _ else .decline 0) with
    skipped := 1 } _ _ _
  have hdrop : ([' '] ++ (closing ++ '=' :: rest)).drop 1 = closing ++ '=' :: rest := rfl
  rw [if_pos hchanges, List.length_singleton, hdrop,
    newClosing_append rest htext.1 (isDelimiterText_run htext)]
  exact ⟨rfl, rfl, rfl, rfl⟩

theorem finds_directiveEnd
    (hblank : (s.delimiters.previousClosingText ++ rest).head?.all (!isBlank ·) = true) :
    (read config s (.singleton .mustacheOldEndDelimiter)
      (s.delimiters.previousClosingText ++ rest)).Finds .directiveEnd
      s.delimiters.previousClosingText.length := by
  rw [read_of_not_blank rfl hblank]
  show Reading.Finds { delimiter .directiveEnd s.delimiters.previousClosingText _ with
    skipped := 0 } _ _
  rw [delimiter_append]
  exact Reading.finds_take _ _

/-- A directive is read, and its delimiters are in force behind it. -/
theorem HasRead.directiveTag
    (h : r.HasRead config done ('=' :: (opening ++ ' ' :: (closing ++ '=' :: (before ++ rest)))) s)
    (hchanges : config.delimiterChanges = true) (hopening : IsDelimiterText opening)
    (hclosing : IsDelimiterText closing) (hspelled : s.delimiters.closingText = before)
    (hblank : (before ++ rest).head?.all (!isBlank ·) = true) :
    r.mustacheTag.HasRead config
      (done ++ [Piece.mark ['='], Piece.token .mustacheSetStartDelimiter opening, Piece.mark [' '],
        Piece.token .mustacheSetEndDelimiter closing, Piece.mark ['='],
        Piece.token .mustacheOldEndDelimiter before]) rest
      { s with delimiters := setDelimiters opening closing } := by
  have hsort : (r.advance 1).HasRead config (done ++ [Piece.mark ['=']])
      (opening ++ ' ' :: (closing ++ '=' :: (before ++ rest))) s :=
    HasRead.advance ['='] h
  obtain ⟨opened, hopened, hfirst⟩ := hsort.scan (finds_newOpening hchanges hopening) rfl
  obtain ⟨closed, hclosed, hsecond⟩ :=
    @scan_behind opened config _ closing _ _ _ _ _ [' '] hfirst
      (finds_newClosing hchanges hclosing) rfl
  have hmark : (closed.advance 1).HasRead config _ (before ++ rest) _ :=
    HasRead.advance ['='] hsecond
  -- the delimiter that closes the directive is the one that the last scan has put aside
  generalize hstate : Finding.apply (Finding.apply s (.newOpening (String.ofList opening)))
    (.newClosing (String.ofList closing)) = changed at hmark
  have hprevious : changed.delimiters.previousClosingText = before := by
    rw [← hstate, ← hspelled]
    rfl
  have hends : Finding.apply changed .directiveEnd =
      { s with delimiters := setDelimiters opening closing } := by
    rw [← hstate]
    rfl
  rw [← hprevious] at hmark hblank
  obtain ⟨last, hlast, hthird⟩ := hmark.scan (finds_directiveEnd hblank) rfl
  have htag : r.mustacheTag = last := by
    have hequals : closed.next? = some '=' := hsecond.next?
    rw [mustacheTag, h.skipBlanks rfl, mustacheBody, h.ahead]
    show (r.advance 1).directive = last
    rw [directive, hopened]
    dsimp only
    rw [hclosed]
    dsimp only
    rw [directiveEnd, if_pos hequals, expect, hlast]
  rw [hends, hprevious] at hthird
  rw [htag]
  simpa [List.append_assoc] using hthird

end MustacheScan

end Run

end TemplateScan.Document
