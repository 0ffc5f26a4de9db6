import Mathlib.Data.List.Chain
import TemplateScan.Proofs.Document.Balance
import TemplateScan.Proofs.Document.ContentScan
import TemplateScan.Proofs.Document.Termination
import TemplateScan.Proofs.Lexing.Bodies
import TemplateScan.Proofs.Lexing.ElementName

/-!
# The elements that a document leaves open

A document is read with a depth at hand, and the scanner has the open elements.  As long as no issue
is noted, or there is still a name to come, no more elements are open than the depth tells, but for
those whose raw text an end tag of another name follows: such a tag closes nothing, and nothing is
noted of it.

* `opens_endTag`, `opens_attributes`, `opens_rawTextBody`, `opens_startTag`: what the parts of an
  element come to.
* `opens_documentStep`: a step opens no more elements than it adds to the depth.
* `length_openTags_le`: at the end, no more elements are open than there are stray ends.
* `openTags_eq_nil`: none is open where every raw text is followed by its end tag.
-/

namespace TemplateScan.Document

open Text Lexing TokenSet

/-! ## What is found in tags -/

/-- At a slash, the end of a start tag is found or nothing. -/
theorem finding_selfClosing (config : ScanConfig) (s : ScanState) (rest : List Char) :
    (read config s (.singleton .selfClosingTagDelimiter) ('/' :: rest)).finding = .selfClosing ∨
      (read config s (.singleton .selfClosingTagDelimiter) ('/' :: rest)).finding = .nothing := by
  rw [read_of_not_blank rfl rfl]
  show (selfClosing s.tags ('/' :: rest)).finding = .selfClosing ∨
    (selfClosing s.tags ('/' :: rest)).finding = .nothing
  unfold selfClosing
  split
  · split
    · exact Or.inr rfl
    · exact Or.inl rfl
  · exact Or.inr rfl

/-- Where a name is ahead, an end tag is found, and at the end of the text nothing. -/
theorem finding_endTag (config : ScanConfig) (s : ScanState) {rest : List Char}
    (hrest : rest.head?.all isNameChar = true) :
    (read config s (.ofList [.endTagName, .erroneousEndTagName]) rest).finding = .endTag ∨
      (read config s (.ofList [.endTagName, .erroneousEndTagName]) rest).finding =
        .erroneousEndTag ∨
      (read config s (.ofList [.endTagName, .erroneousEndTagName]) rest).finding = .nothing ∧
        rest = [] := by
  cases rest with
  | nil => exact Or.inr (Or.inr ⟨rfl, rfl⟩)
  | cons c rest =>
    have hc : isNameChar c = true := by simpa using hrest
    have hchoice : atToken config s (.ofList [.endTagName, .erroneousEndTagName]) (c :: rest) =
        endTagName s.tags (c :: rest) := atNext_of_isNameChar hc rfl rfl rfl
    have hname : (tagName (c :: rest)).isEmpty = false := by
      rw [tagName, List.takeWhile_cons_of_pos hc]
      rfl
    rw [read_of_not_blank rfl (by simp [not_isBlank_of_isNameChar hc]), hchoice, endTagName, hname]
    cases s.tags.closes (tagOf (tagName (c :: rest))) with
    | true => exact Or.inl rfl
    | false => exact Or.inr (Or.inl rfl)

/-- How many elements a step through content opens. -/
def Progress.gain : Progress → Int
  | .elementBegun => 1
  | .elementEnded => -1
  | _ => 0

namespace Run

/-! ## End tags -/

section ElementTag

variable {text : List Char} {r last : Run}

theorem opens_endTag (hend : r.endTag = (some .endTagName, last)) : Opens (-1) r last := by
  rw [endTag] at hend
  split at hend
  · cases hend
  · next kind name hscan =>
    obtain ⟨rfl, rfl⟩ : kind = .endTagName ∧ name.closeAngle = last := by simpa using hend
    have hname : Opens (-1) r name :=
      (opens_advance r 2).trans (opens_scan_of_closesElement hscan rfl) rfl
    exact hname.trans (acts_closeAngle.opens name) rfl

/-- Right behind raw text, an end tag closes the element or is counted apart, unless the text ends
in it. -/
theorem opens_endTag_of_rawText {more : List Char} (hraw : r.kinds.head? = some .rawText)
    (hahead : r.ahead = '<' :: '/' :: more) (hmore : more.head?.all isNameChar = true) :
    Opens (-1) r r.endTag.2 := by
  have hmarks : (r.advance 2).place.ahead = more := by
    show (r.place.advance 2).ahead = more
    rw [Place.advance_ahead, show r.place.ahead = _ from hahead]
    rfl
  have hfinding := finding_endTag (r.advance 2).beforeScan.scanner.config
    (r.advance 2).beforeScan.scanner.state hmore
  have hkind := (r.advance 2).kind_scan (.ofList [.endTagName, .erroneousEndTagName])
  rw [Scan.kind?, scanAhead, Scanner.scan, hmarks] at hkind
  rw [endTag]
  split
  · -- no name is found, which is so at the end of the text only
    next name hscan =>
    have hnone : ¬name.NameAhead := by
      rw [hscan] at hkind
      have hend : more = [] := by
        rcases hfinding with hfound | hfound | ⟨-, hend⟩
        · rw [hfound] at hkind
          cases hkind
        · rw [hfound] at hkind
          cases hkind
        · exact hend
      rintro ⟨c, hc, -⟩
      rw [ahead, place_of_scan_none hscan, hmarks, hend] at hc
      exact List.not_mem_nil hc
    have hname : Opens 0 r name := (opens_advance r 2).trans (opens_scan hscan rfl) rfl
    have hissue : Opens (-1) r (name.raise .missingTagName) :=
      hname.trans (opens_raise_of_not_nameAhead (-1) hnone) rfl
    exact hissue.trans (acts_closeAngle.opens _) rfl
  · -- the name closes the element, or it is the one that is counted apart
    next kind name hscan =>
    rw [hscan] at hkind
    have hname : Opens (-1) (r.advance 2) name := by
      rcases hfinding with hfound | hfound | ⟨hfound, -⟩
      all_goals
        rw [hfound] at hkind
        cases hkind
      · exact opens_scan_of_closesElement hscan rfl
      · exact opens_scan_stray hscan rfl hraw
    exact ((opens_advance r 2).trans hname rfl).trans (acts_closeAngle.opens name) rfl

/-! ## Raw text -/

/-- Without a snapshot in between, a scan for raw text meets the element that is open and finds its
body.  Behind that stands the beginning of an end tag, or the text ends. -/
theorem rawText_of_scan (hplain : r.checkpoint = false) (hopen : 0 < r.openCount) :
    (r.scan (.singleton .rawText)).1 = some .rawText ∧
      (∀ more, (r.scan (.singleton .rawText)).2.ahead = '<' :: '/' :: more →
        more.head?.all isNameChar = true) ∧
      (¬['<', '/'] <+: (r.scan (.singleton .rawText)).2.ahead →
        (r.scan (.singleton .rawText)).2.ahead <+: ['<']) := by
  obtain ⟨tag, htop⟩ := Nesting.exists_top? hopen
  obtain ⟨length, read, hread, hbehind, hend⟩ := exists_rawText_behind r.ahead htop
  have hfinds : (r.scanAhead (.singleton .rawText)).reading.Finds .rawText length := by
    rw [scanAhead, beforeScan_eq_self hplain]
    show (rawText r.scanner.state.tags r.ahead).Finds .rawText length
    rw [hread]
    exact Reading.finds_ofLength _ _ _
  have hkind := Scan.kind?_of_finds hfinds
  have hahead : (r.scan (.singleton .rawText)).2.ahead = r.ahead.drop length := by
    rw [ahead, place_scan_of_some _ _ hkind, Scan.last_of_finds hfinds]
    exact Place.advance_ahead ..
  rw [kind_scan, hahead]
  exact ⟨hkind, hbehind, hend⟩

/-- Reading the body of an open element closes it, unless the text ends in it. -/
theorem opens_rawTextBody (hopen : 0 < r.openCount) : Opens (-1) r r.rawTextBody := by
  apply (acts_rawTextBody.opens r).of_plain
  intro hplain
  obtain ⟨hkind, hbehind, hend⟩ := rawText_of_scan hplain hopen
  have hbody : Opens 0 r (r.scan (.singleton .rawText)).2 := opens_scan rfl rfl
  rw [rawTextBody]
  split
  · next hmarks =>
    obtain ⟨more, hmore⟩ := List.isPrefixOf_iff_prefix.mp hmarks
    have hraw : (r.scan (.singleton .rawText)).2.kinds.head? = some .rawText := by
      rw [kinds_scan, hkind]
      rfl
    exact hbody.trans (opens_endTag_of_rawText hraw hmore.symm (hbehind more hmore.symm)) rfl
  · next hmarks =>
    -- no end tag is ahead, and so no name
    refine hbody.trans (opens_raise_of_not_nameAhead (-1) ?_) rfl
    rintro ⟨c, hc, hname⟩
    rw [List.isPrefixOf_iff_prefix] at hmarks
    rw [List.mem_singleton.mp ((hend hmarks).subset hc)] at hname
    cases hname

/-! ## Start tags -/

/-- Where a scan for the end of a start tag finds something at a slash, it closes the element. -/
theorem opens_scan_selfClosing {kind : TokenKind} (hslash : r.next? = some '/')
    (hscan : r.scan (.singleton .selfClosingTagDelimiter) = (some kind, last)) :
    Opens (-1) r last := by
  obtain ⟨rest, hrest⟩ := exists_ahead hslash
  have hkind := r.kind_scan (.singleton .selfClosingTagDelimiter)
  rw [hscan, Scan.kind?, scanAhead, Scanner.scan, show r.place.ahead = _ from hrest] at hkind
  rcases finding_selfClosing r.beforeScan.scanner.config r.beforeScan.scanner.state rest
    with hfound | hfound
  all_goals
    rw [hfound] at hkind
    cases hkind
  exact opens_scan_of_closesElement hscan rfl

/-- Where a start tag ends without content to follow, its element is closed, unless the text ends in
it. -/
theorem opens_attributeStep {result : Bool × Run} (hstop : attributeStep r = .inl result) :
    Opens (if result.1 then 0 else -1) r result.2 := by
  obtain ⟨_ | _, last⟩ := result
  · show Opens (-1) r last
    have hblanks : Opens 0 r r.skipBlanks := acts_skipBlanks.opens r
    rw [attributeStep] at hstop
    -- only at the end of the text and at a slash does a tag end without content
    split at hstop
    · next hnext =>
      cases hstop
      refine hblanks.trans (opens_raise_of_not_nameAhead (-1) ?_) rfl
      rintro ⟨c, hc, -⟩
      rw [ahead, List.head?_eq_none_iff.mp hnext] at hc
      exact List.not_mem_nil hc
    · cases hstop
    · next hslash =>
      split at hstop
      · next hscan =>
        cases hstop
        exact hblanks.trans (opens_scan_selfClosing hslash hscan) rfl
      · cases hstop
    · split at hstop
      · split at hstop
        · cases hstop
        · cases hstop
      · cases hstop
  · have hstep := procedure_attributeOutcome.opens r
    rw [attributeOutcome, hstop] at hstep
    exact hstep

/-- Attributes are read to where content follows or the element is closed. -/
theorem opens_attributes (hr : r.IsOver text) :
    Opens (if r.attributes.1 then 0 else -1) r r.attributes.2 := by
  -- each step gets further, so the loop is not cut short
  have hruns : Iterates Further attributeStep r r.attributes := by
    apply (leads_attributeStep text).iterates _ hr
    intro r next hnext hfurther hsize
    exact remaining_lt hnext hsize hfurther
  generalize r.attributes = result at hruns ⊢
  clear hr
  induction hruns with
  | stop hstop => exact opens_attributeStep hstop
  | @go r next result hgo _ _ ih =>
    have hstep : Opens 0 r next := by
      have houtcome := procedure_attributeOutcome.opens r
      rwa [attributeOutcome, hgo] at houtcome
    exact hstep.trans ih (Int.zero_add _)

/-- An element is open behind its start tag if content follows, and else it is closed again, unless
the text ends in it. -/
theorem opens_startTag (hr : r.IsOver text) {goesOn : Bool}
    (hstart : r.startTag = (goesOn, last)) : Opens (if goesOn then 1 else 0) r last := by
  have hmark : (r.advance 1).IsOver text := walks_advance.isOver hr
  have hbegin : Opens 0 r (r.advance 1) := opens_advance r 1
  rw [startTag] at hstart
  split at hstart
  · next name hscan =>
    cases hstart
    have hname : Opens 0 r name := hbegin.trans (opens_scan_none hscan) rfl
    exact hname.trans (opens_raise _ _) rfl
  · -- one element is open behind the name, and it may be closed among the attributes already
    next kind name hscan =>
    have hname : Opens 1 r name := hbegin.trans (opens_scan_one hscan) rfl
    have hattributes := opens_attributes ((walks_of_scan hscan).isOver hmark)
    split at hstart
    · next hend =>
      rw [hend] at hattributes
      cases hstart
      exact hname.trans hattributes rfl
    · next body hend =>
      rw [hend] at hattributes
      have hbody : Opens 1 r body := hname.trans hattributes rfl
      split at hstart
      · -- the element is open where its raw text begins, or nothing is open at all
        cases hstart
        rcases Nat.eq_zero_or_pos body.openCount with hnone | hopen
        · exact (hbody.of_openCount_eq_zero hnone).trans (acts_rawTextBody.opens body) rfl
        · exact hbody.trans (opens_rawTextBody hopen) rfl
      · cases hstart
        exact hbody

end ElementTag

/-! ## Documents -/

section Document

variable {text : List Char} {r last : Run} {progress : Progress} {depth : Nat}

/-- What is not told by a token: elements begin here, and no other part opens or closes one. -/
theorem opens_markup (hr : r.IsOver text) (hmarkup : r.markup = (progress, last)) :
    Opens progress.gain r last := by
  unfold markup at hmarkup
  split at hmarkup
  · cases hmarkup
    exact .refl
  · cases hmarkup
    exact .refl
  · cases hmarkup
    exact (opens_raise _ _).trans (opens_toEnd _) rfl
  · cases hmarkup
    exact acts_declaration.opens r
  · next hahead =>
    split at hmarkup
    all_goals
      next hstart =>
      cases hmarkup
      exact opens_startTag hr hstart
  · cases hmarkup
    exact (opens_raise _ _).trans (opens_advance _ _) rfl

/-- The text ends where nothing is ahead. -/
theorem ahead_of_textEnded {inElement : Bool}
    (hcontent : r.content inElement = (.textEnded, last)) : last.ahead = [] := by
  have hmarkup {r : Run} (hend : r.markup = (.textEnded, last)) : last.ahead = [] := by
    unfold markup at hend
    split at hend
    · next hahead =>
      cases hend
      exact hahead
    · cases hend
    · cases hend
    · cases hend
    · split at hend
      · cases hend
      · cases hend
    · cases hend
  rw [content] at hcontent
  split at hcontent
  · cases hcontent
  · cases hcontent
  · cases hcontent
  · exact hmarkup hcontent

theorem opens_content {inElement : Bool} (hr : r.IsOver text)
    (hcontent : r.content inElement = (progress, last)) : Opens progress.gain r last := by
  have hblanks : Opens 0 r r.skipBlanks := acts_skipBlanks.opens r
  have hnoStart : (contentTokens inElement).NoStartTag := by cases inElement <;> rfl
  rw [content] at hcontent
  split at hcontent
  · next hscan =>
    cases hcontent
    exact hblanks.trans (opens_scan_of_closesElement hscan rfl) rfl
  · next tag hscan =>
    cases hcontent
    have htag : Opens 0 r tag := hblanks.trans (opens_scan hscan hnoStart) rfl
    exact htag.trans (acts_mustacheTag.opens tag) rfl
  · next hscan =>
    cases hcontent
    exact hblanks.trans (opens_scan hscan hnoStart) rfl
  · next hscan =>
    have hover := (walks_skipBlanks.trans (walks_of_scan hscan)).isOver hr
    exact (hblanks.trans (opens_scan hscan hnoStart) rfl).trans (opens_markup hover hcontent)
      (Int.zero_add _)

/-- A step through a document opens no more elements than it adds to the depth, and a document ends
only where the depth is zero. -/
theorem opens_documentStep (hr : r.IsOver text) :
    (documentStep (r, depth)).elim (fun last => depth = 0 ∧ Opens 0 r last)
      fun next => Opens (next.2 - depth) r next.1 := by
  rcases hx : r.content (0 < depth) with ⟨progress, last⟩
  have hcontent := opens_content hr hx
  rw [documentStep, hx]
  cases progress with
  | content =>
    have hlast : Opens 0 r last := hcontent
    exact hlast.mono (by dsimp only; omega)
  | elementBegun =>
    have hlast : Opens 1 r last := hcontent
    exact hlast.mono (by dsimp only; omega)
  | elementEnded =>
    have hlast : Opens (-1) r last := hcontent
    exact hlast.mono (by dsimp only; omega)
  | endTagAhead =>
    have hlast : Opens 0 r last := hcontent
    dsimp only
    split
    · next hend =>
      have hclosed : Opens (-1) r _ := hlast.trans (opens_endTag hend) rfl
      exact hclosed.mono (by dsimp only; omega)
    · next hend =>
      have hread : Opens 0 r _ := hlast.trans (opens_of_eq procedure_endTag hend) rfl
      exact hread.mono (by dsimp only; omega)
  | textEnded =>
    have hlast : Opens 0 r last := hcontent
    dsimp only
    split
    · next hdepth => exact ⟨hdepth, hlast⟩
    · -- an issue is noted for each element that the depth tells
      have hnone : ¬last.NameAhead := by
        rintro ⟨c, hc, -⟩
        rw [ahead_of_textEnded hx] at hc
        exact List.not_mem_nil hc
      have hraise : Opens (-1) r (last.raise .missingEndTag) :=
        hlast.trans (opens_raise_of_not_nameAhead (-1) hnone) rfl
      exact hraise.mono (by dsimp only; omega)

/-- What is left of a document closes as many elements as the depth tells, at least. -/
theorem opens_of_iterates {s : Run × Nat} (hruns : Iterates Closer documentStep s last)
    (hs : s.1.IsOver text) : Opens (-s.2) s.1 last := by
  induction hruns with
  | @stop s last hstop =>
    have hstep := @opens_documentStep text s.1 s.2 hs
    rw [show documentStep (s.1, s.2) = _ from hstop] at hstep
    obtain ⟨hdepth, hlast⟩ := hstep
    rw [hdepth]
    exact hlast
  | @go s next last hgo _ _ ih =>
    have hstep := @opens_documentStep text s.1 s.2 hs
    rw [show documentStep (s.1, s.2) = _ from hgo] at hstep
    have hwalk := leads_documentStep text s
    rw [hgo] at hwalk
    exact Opens.trans hstep (ih (hwalk.1.isOver hs)) (by omega)

theorem opens_document (scanner : Scanner) (checkpoint : Bool) (text : String) :
    Opens 0 (start scanner checkpoint text) (start scanner checkpoint text).document :=
  opens_of_iterates (iterates_document scanner checkpoint text)
    (isOver_start scanner checkpoint text)

end Document

end Run

/-- At the end of a document without issues, no more elements are open than there are end tags right
behind raw text that have closed nothing. -/
theorem length_openTags_le {config : ScanConfig} {text : String}
    (hclean : (parse config false text).issues = []) :
    (parse config false text).openTags.length ≤ strayEnds (run config false text).kinds := by
  have hissues : (Run.start (.new config) false text).document.issues = [] :=
    List.reverse_eq_nil_iff.mp hclean
  have hexcess := (Run.opens_document (.new config) false text).excess_le rfl (.inl hissues)
  -- nothing is open at the beginning
  have hstart : (Run.start (.new config) false text).excess = 0 := rfl
  rw [hstart, Run.excess] at hexcess
  show (Run.start (.new config) false text).document.scanner.state.tags.toList.length ≤
    strayEnds (Run.start (.new config) false text).document.kinds
  rw [Nesting.length_toList]
  rw [Run.openCount] at hexcess
  omega

theorem strayEnds_eq_zero {kinds : List TokenKind}
    (hends : kinds.IsChain fun later earlier => earlier = .rawText → later ≠ .erroneousEndTagName) :
    strayEnds kinds = 0 := by
  induction kinds with
  | nil => rfl
  | cons kind earlier ih =>
    obtain ⟨hkind, hearlier⟩ := List.isChain_cons.mp hends
    rw [strayEnds, if_neg, ih hearlier]
    rintro ⟨rfl, hraw⟩
    exact hkind _ hraw rfl rfl

/-- **A document without issues leaves no element open.**  The one exception is an end tag right
behind raw text that is not the one of the element: it closes nothing, and no issue is noted.  Where
every raw text is followed by its end tag, all that was opened has been closed. -/
theorem openTags_eq_nil (config : ScanConfig) (text : String)
    (hclean : (parse config false text).issues = [])
    (hends : (parse config false text).tokens.IsChain fun token next =>
      token.kind = .rawText → next.kind ≠ .erroneousEndTagName) :
    (parse config false text).openTags = [] := by
  have hkinds : (run config false text).kinds.IsChain fun later earlier =>
      earlier = .rawText → later ≠ .erroneousEndTagName :=
    (List.isChain_map _).mpr (List.isChain_reverse.mp hends)
  have hlength := length_openTags_le hclean
  rw [strayEnds_eq_zero hkinds] at hlength
  exact List.length_eq_zero_iff.mp (Nat.le_zero.mp hlength)

/-- Elements that end in each of the ways in which one can. -/
def closedElements : String :=
  "<ul><li>a<li>b</ul><p a='b'/><br><script>\x3Cp></script>"

theorem openTags_eq_nil_closedElements :
    (parse {} false closedElements).issues = [] ∧
      ((parse {} false closedElements).tokens.IsChain fun token next =>
        token.kind = .rawText → next.kind ≠ .erroneousEndTagName) ∧
      (parse {} false closedElements).openTags = [] := by
  have hclean : (parse {} false closedElements).issues = [] := by decide +kernel
  have hends : (parse {} false closedElements).tokens.IsChain fun token next =>
      token.kind = .rawText → next.kind ≠ .erroneousEndTagName := by
    decide +kernel
  exact ⟨hclean, hends, openTags_eq_nil {} closedElements hclean hends⟩

/-- The body of a script ends before the beginning of its end tag, which goes on to another name. -/
def longerEndTag : String :=
  "<script></scriptx>"

/-- No issue is noted, and the script is still open. -/
theorem openTags_longerEndTag :
    (parse {} false longerEndTag).issues = [] ∧
      (parse {} false longerEndTag).openTags = [.known .script] := by
  decide +kernel

end TemplateScan.Document
