import TemplateScan.Proofs.Document.NewElements
import TemplateScan.Proofs.Document.OpenElements
import TemplateScan.Proofs.Lexing.Lookahead
import TemplateScan.Proofs.Lexing.MustacheTag

/-!
# Elements stand where they may

Before an element begins, the scanner is asked whether the one around it ends: if it finds nothing,
the one around can contain the new one.  Three things keep the question from being asked, or from
being answered for the same name: an element of which the depth does not know, as an end tag behind
raw text has closed nothing; blanks before the name, at which the look at it ends, while the scan
for it passes over them; and an opening delimiter that begins like the start tag, whose mismatch
further behind ends the scan.

* `NewElement.Fits`: the element around is not void and can contain the new one.
* `StartTag.IsPlain`: none of the three things comes before the element.
* `canContain_of_nothing`: the element fits where the scanner finds nothing.
* `begun_of_iterates`: by induction over the steps, this is so of every element of a document.
* `newElements_fit`: every element stands where it may, but for these three things.
-/

namespace TemplateScan

open Text Markup Mustache Lexing

/-- The element can stand where it begins: the one directly around it, if there is one, is not void
and can contain it. -/
def NewElement.Fits (e : NewElement) : Prop :=
  ∀ parent ∈ e.before.tags.top?, parent.isVoid = false ∧ parent.canContain e.tag = true

instance (e : NewElement) : Decidable e.Fits :=
  inferInstanceAs (Decidable (∀ parent ∈ e.before.tags.top?,
    parent.isVoid = false ∧ parent.canContain e.tag = true))

/-- Whether the opening delimiter may be taken for the start tag of a name at first: it begins like
one, with the first character of the name, and goes on behind that. -/
def Mustache.Delimiters.opensLike (d : Delimiters) (name : List Char) : Bool :=
  match d.openingText with
  | '<' :: second :: _ :: _ => name.head? == some second
  | _ => false

/-- Whether the token stands directly behind a `<` of the text. -/
def Token.isBehindAngle (text : List Char) (t : Token) : Bool :=
  Span.textIn? text ⟨t.span.start - 1, t.span.start⟩ == some ['<']

/-- What else than the element around may keep an element from beginning does not: its name is
directly behind the `<`, the opening delimiter does not begin like its tag, and before it no end tag
right behind raw text has closed nothing. -/
structure StartTag.IsPlain (text : List Char) (d : Delimiters) (tag : StartTag) : Prop where
  behindAngle : tag.name.isBehindAngle text = true
  noOpening : ∀ name ∈ tag.name.span.textIn? text, d.opensLike name = false
  noStray : tag.earlier.IsChain fun later earlier =>
    earlier.kind = .rawText → later.kind ≠ .erroneousEndTagName

instance (text : List Char) (d : Delimiters) (tag : StartTag) : Decidable (tag.IsPlain text d) :=
  have := @Option.decidableForallMem _ (d.opensLike · = false) _ (tag.name.span.textIn? text)
  decidable_of_iff
    (tag.name.isBehindAngle text = true ∧
      (∀ name ∈ tag.name.span.textIn? text, d.opensLike name = false) ∧
      tag.earlier.IsChain fun later earlier =>
        earlier.kind = .rawText → later.kind ≠ .erroneousEndTagName)
    ⟨fun h => ⟨h.1, h.2.1, h.2.2⟩, fun h => ⟨h.behindAngle, h.noOpening, h.noStray⟩⟩

namespace Lexing

section StartTag

variable {config : ScanConfig} {s : ScanState} {valid : TokenSet} {behind : List Char} {tag : Tag}

/-- Whether a delimiter begins like a start tag is told by the first character of the name. -/
theorem opensLike_take {n : Nat} (hn : 0 < n) (d : Delimiters) (ahead : List Char) :
    d.opensLike (ahead.take n) = d.opensLike ahead := by
  rw [Delimiters.opensLike, Delimiters.opensLike, List.head?_take, if_neg (Nat.ne_of_gt hn)]

/-- An opening delimiter that does not begin like a start tag is found at one, or not even tried. -/
theorem openingAtAngle?_of_nothing {d : Delimiters} (hopens : d.opensLike behind = false)
    (hnothing : ∀ reading ∈ openingAtAngle? d valid behind, reading.finding = .nothing) :
    openingAtAngle? d valid behind = none := by
  cases hreading : openingAtAngle? d valid behind with
  | none => rfl
  | some reading =>
    have hfinding := hnothing reading hreading
    rw [openingAtAngle?] at hreading
    split at hreading
    · split at hreading
      · cases hreading
        cases hfinding
      · next second more htext =>
        split at hreading
        · next hsecond =>
          -- the delimiter of these two characters is found, and a longer one begins like the tag
          obtain ⟨rest, rfl⟩ := List.head?_eq_some_iff.mp hsecond
          cases hreading
          rw [htext] at hfinding
          cases more with
          | nil =>
            rw [show '<' :: second :: rest = ['<', second] ++ rest from rfl, delimiter_append]
              at hfinding
            cases hfinding
          | cons c more =>
            simp [Delimiters.opensLike, htext] at hopens
        · cases hreading
      · cases hreading
    · cases hreading

/-- **The element around a start tag can contain the new element where it does not end.** -/
theorem canContain_of_nothing (hopens : s.delimiters.opensLike behind = false)
    (hname : tagName behind ≠ [])
    (hnothing :
      (read config s (Document.Run.contentTokens true) ('<' :: behind)).finding = .nothing) :
    ∀ parent ∈ s.tags.top?, parent.isVoid = false ∧
      parent.canContain (tagOf (tagName behind)) = true := by
  -- a name does not look like a comment
  have hbang : behind.head? ≠ some '!' := by
    intro hhead
    obtain ⟨ahead, rfl⟩ := List.head?_eq_some_iff.mp hhead
    exact hname rfl
  rw [Document.Run.read_contentTokens true _ _ rfl, Document.Run.atNext_angle, atAngle_eq]
    at hnothing
  simp only [if_neg hbang] at hnothing
  have hopening : openingAtAngle? s.delimiters (Document.Run.contentTokens true) behind = none := by
    apply openingAtAngle?_of_nothing hopens
    intro reading hreading
    rwa [show openingAtAngle? _ _ _ = some reading from hreading] at hnothing
  have hends : (impliedEnd s.tags 1 behind).finding = .nothing := by
    rwa [hopening] at hnothing
  obtain ⟨rest, hsplit, hrest⟩ := exists_tagName_append behind
  have hchars : ∀ c ∈ tagName behind, isNameChar c = true := fun c hc => List.mem_takeWhile_imp hc
  generalize tagName behind = name at hname hsplit hchars ⊢
  rw [hsplit] at hends
  exact canContain_of_impliedEnd hname hchars hrest hends

theorem finding_comment (ahead : List Char) :
    (comment ahead).finding = .comment ∨ (comment ahead).finding = .nothing := by
  obtain ⟨n, overflowed, ⟨hcomment, -⟩ | ⟨hcomment, -⟩⟩ := comment_cases ahead
  · rw [hcomment]
    exact .inl rfl
  · rw [hcomment]
    exact .inr rfl

/-- Where a scan for names in start tags finds one, it is the name behind the blanks. -/
theorem tagName_of_startTag
    (hfinding : (read config s Document.Run.startTagNames behind).finding = .startTag tag) :
    let ahead := behind.drop (behind.takeWhile isBlank).length
    tagName ahead ≠ [] ∧ tag = tagOf (tagName ahead) := by
  intro ahead
  have htoken : (atNext s Document.Run.startTagNames ahead).finding = .startTag tag := hfinding
  rcases ahead with _ | ⟨c, rest⟩
  · cases htoken
  · by_cases hangle : c = '<'
    · -- all that is found at a `<` is a comment
      subst hangle
      have hcomment : (atAngle s Document.Run.startTagNames rest).finding = .startTag tag := htoken
      unfold atAngle at hcomment
      split at hcomment
      · next hopening => cases hopening
      · split at hcomment
        · next ahead _ =>
          rcases finding_comment ahead with hfound | hfound
          all_goals
            rw [hfound] at hcomment
            cases hcomment
        · cases hcomment
    · have hname : atNext s Document.Run.startTagNames (c :: rest) =
          if c = '/' then .decline 0 else startTagName (c :: rest) := by
        rw [atNext]
        · rfl
        · exact hangle
      rw [hname, startTagName] at htoken
      split at htoken
      · cases htoken
      · split at htoken
        · cases htoken
        · next hne =>
          cases htoken
          exact ⟨by simpa using hne, rfl⟩

end StartTag

end Lexing

namespace Document

namespace Run

open TokenSet

/-- The element stands where it may, if nothing else keeps the one around it from ending. -/
def Placed (text : List Char) (e : NewElement) (tag : StartTag) : Prop :=
  tag.IsPlain text e.before.delimiters → e.Fits

section Placed

variable {text rest : List Char} {r next last : Run} {valid : TokenSet} {depth : Nat} {tag : Tag}

/-- What a scan for the name in a start tag finds directly behind the `<` is the name ahead, and its
text begins with what is ahead. -/
theorem tagName_of_isBehindAngle {kind : TokenKind} (hr : r.IsOver text)
    (hplain : r.checkpoint = false)
    (hfinding : (r.scanAhead startTagNames).reading.finding = .startTag tag)
    (hbehind : Token.isBehindAngle text ⟨kind, (r.scanAhead startTagNames).cursor.span⟩ = true) :
    tagName r.ahead ≠ [] ∧ tag = tagOf (tagName r.ahead) ∧
      ∃ n, 0 < n ∧
        (r.scanAhead startTagNames).cursor.span.textIn? text = some (r.ahead.take n) := by
  rw [Token.isBehindAngle, beq_iff_eq, Scan.cursor_span] at hbehind
  -- a `<` right before the name leaves no blanks in between that the scan could pass over
  have hblanks : r.place.ahead.takeWhile isBlank = [] :=
    Place.takeWhile_eq_nil_of_textIn? hr.place (by decide) hbehind
  have hskipped : (r.scanAhead startTagNames).reading.skipped = 0 := by
    show (r.place.ahead.takeWhile isBlank).length = 0
    rw [hblanks]
    rfl
  have htells := r.beforeScan.scanner.scan_tells startTagNames r.place
  rw [Scanner.found, ← scanAhead, hfinding, hskipped] at htells
  have hspan := Span.textIn?_advance hr.place 0 (r.scanAhead startTagNames).reading.length
  rw [scanAhead, beforeScan_eq_self hplain] at hfinding
  obtain ⟨hname, htag⟩ := tagName_of_startTag hfinding
  rw [hblanks] at hname htag
  refine ⟨hname, htag, (r.scanAhead startTagNames).reading.length, ?_, ?_⟩
  · exact Nat.pos_of_ne_zero fun hzero => htells.1 (by rw [hzero]; rfl)
  · rw [Scan.cursor_span, hskipped]
    exact hspan

theorem nameAhead_of_tagName (hname : tagName r.ahead ≠ []) : r.NameAhead := by
  obtain ⟨c, hc⟩ := List.exists_mem_of_ne_nil _ hname
  exact ⟨c, (List.takeWhile_prefix _).subset hc, List.mem_takeWhile_imp hc⟩

/-- Where the scanner finds nothing at a `<`, the element whose name follows stands where it may. -/
theorem placed_of_scan_none (hr : r.IsOver text) (hplain : r.checkpoint = false)
    (hcount : r.NameAhead → r.excess ≤ depth)
    (hscan : r.scan (contentTokens (0 < depth)) = (none, next))
    (hahead : next.ahead = '<' :: rest) :
    (next.advance 1).ScanBegins (Placed text) startTagNames := by
  intro tag kind hfinding htag
  obtain ⟨hstate, hnothing⟩ := finding_of_scan_none hplain hscan
  have hangle : r.ahead = '<' :: rest := by
    rw [← hahead, ahead, ahead, place_of_scan_none hscan]
  have hplain' : (next.advance 1).checkpoint = false := by
    have hcheckpoint := r.checkpoint_scan (contentTokens (0 < depth))
    rw [hscan] at hcheckpoint
    exact hcheckpoint.trans hplain
  have hbefore : (next.advance 1).beforeScan.scanner.state = r.scanner.state := by
    rw [beforeScan_eq_self hplain']
    exact hstate
  have hrest : (next.advance 1).ahead = rest := by
    show (next.place.advance 1).ahead = rest
    rw [Place.advance_ahead, show next.place.ahead = _ from hahead]
    rfl
  have hover : (next.advance 1).IsOver text :=
    ((walks_of_scan hscan).trans walks_advance).isOver hr
  obtain ⟨hname, rfl, n, hn, htext⟩ :=
    tagName_of_isBehindAngle hover hplain' hfinding htag.behindAngle
  have hopens := htag.noOpening _ htext
  rw [opensLike_take hn, hbefore, hrest] at hopens
  rw [hbefore]
  rcases Nat.eq_zero_or_pos depth with hdepth | hdepth
  · -- no end tag has failed to close an element, so nothing is open and no element is around
    have hnone : r.openCount = 0 := by
      have hsuffix : (next.advance 1).ahead <:+ r.ahead := by
        rw [hrest, hangle]
        exact List.suffix_cons _ _
      have hle := hcount ((nameAhead_of_tagName hname).of_suffix hsuffix)
      have htokens : next.tokens = r.tokens := by
        have htokens := r.tokens_scan (contentTokens (0 < depth))
        have hkind := r.kind_scan (contentTokens (0 < depth))
        rw [hscan] at htokens hkind
        rwa [Scan.token?, ← hkind] at htokens
      have hstrays : strayEnds r.kinds = 0 := by
        rw [kinds, ← htokens]
        exact strayEnds_eq_zero ((List.isChain_map _).mpr htag.noStray)
      rw [excess, hstrays] at hle
      omega
    have htags : r.scanner.state.tags.innermostFirst = [] := List.length_eq_zero_iff.mp hnone
    intro parent hparent
    simp [Nesting.top?, htags] at hparent
  · rw [hrest] at hname ⊢
    rw [decide_eq_true hdepth, hangle] at hnothing
    exact canContain_of_nothing hopens hname hnothing

/-- Where the depth tells of all elements that are counted, a step through a document lets elements
begin only where they may stand. -/
theorem begun_stepRun (hr : r.IsOver text) (hplain : r.checkpoint = false)
    (hcount : r.NameAhead → r.excess ≤ depth) (hbegun : r.Begun (Placed text)) :
    (stepRun (r, depth)).Begun (Placed text) := by
  apply hbegun.documentStep
  intro next rest hscan hahead
  refine placed_of_scan_none (walks_skipBlanks.isOver hr) hplain ?_ hscan hahead
  intro hname
  apply hcount (hname.of_suffix _)
  show (r.place.skipWhile isBlank).ahead <:+ r.place.ahead
  rw [Place.skipWhile, Place.advance_ahead]
  exact List.drop_suffix _ _

/-- So does what is left of a document. -/
theorem begun_of_iterates {s : Run × Nat} (hruns : Iterates Closer documentStep s last)
    (hs : s.1.IsOver text) (hplain : s.1.checkpoint = false)
    (hcount : s.1.Counts → s.1.excess ≤ s.2) (hbegun : s.1.Begun (Placed text)) :
    last.Begun (Placed text) := by
  -- no step opens more than it adds to the depth, so the depth goes on to bound what is open
  induction hruns with
  | @stop s last hstop =>
    have hstep := begun_stepRun hs hplain (fun hname => hcount (.inr hname)) hbegun
    rwa [stepRun, hstop] at hstep
  | @go s next last hgo hgoes hlater ih =>
    have hstep := begun_stepRun hs hplain (fun hname => hcount (.inr hname)) hbegun
    rw [stepRun, hgo] at hstep
    have hwalk := leads_documentStep text s
    rw [hgo] at hwalk
    have hopens : Opens (next.2 - s.2) s.1 next.1 := by
      have hdepth := @opens_documentStep text s.1 s.2 hs
      rwa [show documentStep (s.1, s.2) = _ from hgo] at hdepth
    refine ih (hwalk.1.isOver hs) (hopens.checkpoint.trans hplain) ?_ hstep
    intro hcounts
    have hexcess := hopens.excess_le hplain hcounts
    have hbefore := hcount (hopens.counts hcounts)
    omega

end Placed

end Run

/-- **Elements stand where they may.**  Whatever the text and whatever the settings, the element
around each new one is not void and can contain it, as long as nothing else keeps the one around
from ending: the name of the new one is directly behind its `<`, the opening delimiter in force does
not begin like its tag and go on behind that, and no end tag right behind raw text has closed
nothing before it. -/
theorem newElements_fit (config : ScanConfig) (text : String) :
    List.Forall₂ (fun element tag =>
        tag.IsPlain text.toList element.before.delimiters → element.Fits)
      (run config false text).newElements (run config false text).startTags := by
  have hruns := Run.iterates_document (.new config) false text
  have hover := Run.isOver_start (.new config) false text
  -- nothing is open at the beginning, and the depth is zero
  have hcount : (Run.start (.new config) false text).excess ≤ 0 := Int.le_refl 0
  have hbegun : (Run.start (.new config) false text).Begun (Run.Placed text.toList) := .nil
  have hdocument := Run.begun_of_iterates hruns hover rfl (fun _ => hcount) hbegun
  exact hdocument

/-- Items of a list and paragraphs, each of which ends where the next one begins. -/
def impliedEnds : String :=
  "<ul><li>a<li>b</ul><p>c<br><p>d</p>"

/-- Nothing else keeps an element of `impliedEnds` from ending, so each element stands where it
may. -/
theorem newElements_fit_impliedEnds :
    List.Forall₂ (fun element tag => tag.IsPlain impliedEnds.toList element.before.delimiters)
        (run {} false impliedEnds).newElements (run {} false impliedEnds).startTags ∧
      ∀ element ∈ (run {} false impliedEnds).newElements, element.Fits := by
  have hplain :
      List.Forall₂ (fun element tag => tag.IsPlain impliedEnds.toList element.before.delimiters)
        (run {} false impliedEnds).newElements (run {} false impliedEnds).startTags := by
    decide +kernel
  refine ⟨hplain, fun element helement => ?_⟩
  have hfits := newElements_fit {} impliedEnds
  rw [List.forall₂_iff_get] at hplain hfits
  obtain ⟨i, hi, rfl⟩ := List.mem_iff_getElem.mp helement
  have hi' : i < (run {} false impliedEnds).startTags.length := hplain.1 ▸ hi
  exact hfits.2 i hi hi' (hplain.2 i hi hi')

/-- An opening delimiter that begins like the start tag of the block in a paragraph. -/
def likeStartTag : String :=
  "\x7b\x7b=<dx %>=\x7d\x7d<p><div>"

/-- A blank between the `<` and the name of the second item. -/
def blankBeforeName : String :=
  "<li>< li>"

/-- An end tag behind raw text that closes nothing, so that the paragraph is open although the depth
is zero where the block begins. -/
def strayEnd : String :=
  "<p><script></scriptx></script><div>"

/-- Each of the three conditions is needed: without it, an element begins directly inside of one
that cannot contain it. -/
theorem newElements_not_fit :
    (¬∀ element ∈ (run {} false likeStartTag).newElements, element.Fits) ∧
      (¬∀ element ∈ (run {} false blankBeforeName).newElements, element.Fits) ∧
        ¬∀ element ∈ (run {} false strayEnd).newElements, element.Fits := by
  decide +kernel

end Document

end TemplateScan
