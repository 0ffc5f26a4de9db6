import Mathlib.Data.List.TakeWhile
import TemplateScan.Proofs.Document.PieceReading

/-!
# Elements that end one after the other

Where a tag ends several elements by implication, they end one at a time: the scanner is asked again
at the same place, and each time it decides anew from what is still open.  This module says what is
open when it finds no more elements that end.

* `Nesting.closeWhile`: closing the innermost scope as long as what is open tells to.
* `Scanner.ClosesTo`: repeated scans at a place end elements up to some that stay open.
* `openBeforeEndTag`, `openBeforeStartTag`: what stays open before a tag.
* `exists_closesTo`: the scans before an end tag or a start tag.
-/

namespace TemplateScan

open Text Markup Mustache Lexing Document

/-! ## Closing scopes -/

namespace Nesting

variable {α : Type}

/-- What stays open when the innermost scopes are closed as long as they satisfy `p`. -/
def closedWhile (p : α → Bool) (s : Nesting α) : Nesting α :=
  ⟨s.innermostFirst.dropWhile p⟩

/-- What is open from the outermost scope on as long as the scopes satisfy `p`. -/
def outermostWhile (p : α → Bool) (s : Nesting α) : Nesting α :=
  .ofList (s.toList.takeWhile p)

/-- A scope that is inside of one where the run of scopes ends does not belong to the run. -/
theorem outermostWhile_cons_of_exists {p : α → Bool} {scope : α} {around : List α}
    (hstop : ∃ outer ∈ around, p outer = false) :
    outermostWhile p ⟨scope :: around⟩ = outermostWhile p ⟨around⟩ := by
  obtain ⟨outer, hmem, houter⟩ := hstop
  rw [outermostWhile, toList, List.reverse_cons, List.takeWhile_append, if_neg]
  · rfl
  · -- the run would go on over all scopes around
    intro hlength
    have hself := (List.takeWhile_prefix p).eq_of_length hlength
    have hp := List.takeWhile_eq_self_iff.mp hself outer (List.mem_reverse.mpr hmem)
    rw [houter] at hp
    cases hp

theorem outermostWhile_eq_self {p : α → Bool} {scopes : List α} (hall : ∀ scope ∈ scopes, p scope) :
    outermostWhile p ⟨scopes⟩ = ⟨scopes⟩ := by
  have hself : (Nesting.mk scopes).toList.takeWhile p = (Nesting.mk scopes).toList :=
    List.takeWhile_eq_self_iff.mpr fun scope hscope => hall scope (List.mem_reverse.mp hscope)
  rw [outermostWhile, hself, ofList_toList]

theorem outermostWhile_cons_of_forall {p : α → Bool} {scope : α} {around : List α}
    (hall : ∀ outer ∈ around, p outer) :
    outermostWhile p ⟨scope :: around⟩ = if p scope then ⟨scope :: around⟩ else ⟨around⟩ := by
  have hreverse : ∀ outer ∈ around.reverse, p outer :=
    fun outer houter => hall outer (List.mem_reverse.mp houter)
  rw [outermostWhile, toList, List.reverse_cons, List.takeWhile_append_of_pos hreverse]
  cases hscope : p scope with
  | false => simp [hscope, ofList]
  | true => simp [hscope, ofList]

/-- What stays open of the scopes, the innermost first, when one after the other is closed as long
as all that is open tells to. -/
def closeWhile (ends : Nesting α → Bool) : List α → Nesting α
  | [] => .empty
  | scope :: around =>
    if ends ⟨scope :: around⟩ then closeWhile ends around else ⟨scope :: around⟩

/-- If the innermost scope alone decides, the scopes are closed as long as each tells to. -/
theorem closeWhile_top (p : α → Bool) (s : Nesting α) :
    closeWhile (fun s => s.top?.any p) s.innermostFirst = s.closedWhile p := by
  obtain ⟨scopes⟩ := s
  rw [closedWhile]
  induction scopes with
  | nil => rfl
  | cons scope around ih =>
    have htop : (Nesting.mk (scope :: around)).top?.any p = p scope := rfl
    rw [closeWhile, htop, List.dropWhile_cons]
    split
    · exact ih
    · rfl

end Nesting

/-- What stays open before an end tag: if the element that it names is open, all up to the innermost
one of this name, otherwise all up to the outermost element of the same kind. -/
def openBeforeEndTag (tags : Nesting Tag) (next : Tag) : Nesting Tag :=
  if next ∈ tags.innermostFirst then tags.closedWhile (· != next)
  else tags.outermostWhile (!next.sameKind ·)

/-- Whether an element ends before a start tag whose name may be the end of the text. -/
def yieldsTo (next : Tag) (atEnd : Bool) (tag : Tag) : Bool :=
  tag.isVoid || !tag.canContain next || (tag.category ∈ [.html, .head, .body] && atEnd)

/-- What stays open before a start tag. -/
def openBeforeStartTag (tags : Nesting Tag) (next : Tag) (atEnd : Bool) : Nesting Tag :=
  tags.closedWhile (yieldsTo next atEnd)

section EndTag

variable {tag next : Tag} {around : List Tag}

theorem sameKind_self (tag : Tag) : tag.sameKind tag = true :=
  beq_self_eq_true _

theorem endsBeforeEndTag_cons :
    endsBeforeEndTag ⟨tag :: around⟩ next = true ↔
      tag ≠ next ∧ ∃ scope ∈ tag :: around, next.sameKind scope = true := by
  simp [endsBeforeEndTag, Nesting.closes, Nesting.top?, Nesting.any]

/-- Where the element that the end tag names is open, all inside of it end. -/
theorem closeWhile_endTag_of_mem {scopes : List Tag} (hopen : next ∈ scopes) :
    Nesting.closeWhile (endsBeforeEndTag · next) scopes =
      Nesting.closedWhile (· != next) ⟨scopes⟩ := by
  induction scopes with
  | nil => cases hopen
  | cons tag around ih =>
    rw [Nesting.closeWhile, Nesting.closedWhile, List.dropWhile_cons]
    by_cases htag : tag = next
    · subst htag
      have hends : endsBeforeEndTag ⟨tag :: around⟩ tag = false := by
        rw [← Bool.not_eq_true, endsBeforeEndTag_cons]
        exact fun hends => hends.1 rfl
      simp [hends]
    · have hends : endsBeforeEndTag ⟨tag :: around⟩ next = true :=
        endsBeforeEndTag_cons.mpr ⟨htag, next, hopen, sameKind_self next⟩
      have hinner : (tag != next) = true := bne_iff_ne.mpr htag
      rw [if_pos hends, if_pos hinner]
      exact ih (List.mem_of_ne_of_mem (Ne.symm htag) hopen)

/-- Where it is not open, all elements end up to the outermost one of its kind. -/
theorem closeWhile_endTag_of_not_mem {scopes : List Tag} (hclosed : next ∉ scopes) :
    Nesting.closeWhile (endsBeforeEndTag · next) scopes =
      Nesting.outermostWhile (!next.sameKind ·) ⟨scopes⟩ := by
  induction scopes with
  | nil => rfl
  | cons tag around ih =>
    obtain ⟨htag, haround⟩ := List.ne_and_not_mem_of_not_mem_cons hclosed
    rw [Nesting.closeWhile]
    by_cases hinner : ∃ scope ∈ around, next.sameKind scope = true
    · -- one that is further outside is of the kind, so this one ends
      obtain ⟨scope, hmem, hkind⟩ := hinner
      have hends : endsBeforeEndTag ⟨tag :: around⟩ next = true :=
        endsBeforeEndTag_cons.mpr ⟨Ne.symm htag, scope, List.mem_cons_of_mem _ hmem, hkind⟩
      rw [if_pos hends, Nesting.outermostWhile_cons_of_exists ⟨scope, hmem, by simp [hkind]⟩]
      exact ih haround
    · -- none further outside is, so this one ends if it is of the kind itself
      have hall : ∀ scope ∈ around, (!next.sameKind scope) = true := by
        intro scope hscope
        cases hkind : next.sameKind scope with
        | false => rfl
        | true => exact absurd ⟨scope, hscope, hkind⟩ hinner
      have hends : endsBeforeEndTag ⟨tag :: around⟩ next = next.sameKind tag := by
        rw [Bool.eq_iff_iff, endsBeforeEndTag_cons]
        constructor
        · rintro ⟨-, scope, hscope, hkind⟩
          rcases List.mem_cons.mp hscope with rfl | hmem
          · exact hkind
          · exact absurd ⟨scope, hmem, hkind⟩ hinner
        · exact fun hkind => ⟨Ne.symm htag, tag, List.mem_cons_self .., hkind⟩
      rw [hends, ih haround, Nesting.outermostWhile_cons_of_forall hall,
        Nesting.outermostWhile_eq_self hall]
      cases next.sameKind tag with
      | false => rfl
      | true => rfl

/-- What is open then is the element that the end tag names, and what is around it. -/
theorem closes_openBeforeEndTag {tags : Nesting Tag} (hopen : next ∈ tags.innermostFirst) :
    (openBeforeEndTag tags next).closes next = true := by
  obtain ⟨scopes⟩ := tags
  rw [openBeforeEndTag, if_pos hopen, Nesting.closedWhile, Nesting.closes, Nesting.top?]
  induction scopes with
  | nil => cases hopen
  | cons tag around ih =>
    rw [List.dropWhile_cons]
    by_cases htag : tag = next
    · simp [htag]
    · have hinner : (tag != next) = true := bne_iff_ne.mpr htag
      rw [if_pos hinner]
      exact ih (List.mem_of_ne_of_mem (Ne.symm htag) hopen)

theorem closeWhile_endTag (tags : Nesting Tag) (next : Tag) :
    Nesting.closeWhile (endsBeforeEndTag · next) tags.innermostFirst =
      openBeforeEndTag tags next := by
  rw [openBeforeEndTag]
  split
  · next hopen => exact closeWhile_endTag_of_mem hopen
  · next hclosed => exact closeWhile_endTag_of_not_mem hclosed

end EndTag

/-! ## Scans at one place -/

namespace Scanner

/-- The scanner after so many scans at the same place. -/
def scanTimes (s : Scanner) (valid : TokenSet) (entry : Place) : Nat → Scanner
  | 0 => s
  | n + 1 => (s.scan valid entry).after.scanTimes valid entry n

/-- Each of `n` scans at the place, no more than there are open elements, finds that the innermost
element ends there; the next scan finds nothing, and behind it the given elements are open and
nothing else has changed. -/
structure ClosesTo (s : Scanner) (valid : TokenSet) (entry : Place) (n : Nat) (tags : Nesting Tag) :
    Prop where
  le : n ≤ s.state.tags.size
  finds : ∀ i < n, ((s.scanTimes valid entry i).scan valid entry).token? =
    some ⟨.implicitEndTag, ⟨entry.offset, entry.offset⟩⟩
  declines : ((s.scanTimes valid entry n).scan valid entry).token? = none
  state : (s.scanTimes valid entry (n + 1)).state = { s.state with tags }

/-- What is open decides whether a scan at the place finds that the innermost element ends, or finds
nothing. -/
structure DecidesEnds (s : Scanner) (valid : TokenSet) (entry : Place) (ends : Nesting Tag → Bool) :
    Prop where
  here : ∀ tags, ends tags = true →
    ∃ n, read s.config { s.state with tags } valid entry.ahead = .here .implicitEnd n
  decline : ∀ tags, ends tags = false →
    ∃ n, read s.config { s.state with tags } valid entry.ahead = .decline n

section ClosesTo

variable {s : Scanner} {valid : TokenSet} {entry : Place} {ends : Nesting Tag → Bool}

/-- A scan that finds nothing leaves all open. -/
theorem closesTo_of_decline {looked : Nat}
    (hread : (s.scan valid entry).reading = .decline looked) :
    s.ClosesTo valid entry 0 s.state.tags where
  le := Nat.zero_le _
  finds i hi := absurd hi (Nat.not_lt_zero i)
  declines := by
    show (s.scan valid entry).token? = none
    rw [Scan.token?, Scan.kind?, hread]
    rfl
  state := by
    show (s.scan valid entry).after.state = s.state
    rw [Scan.after, hread]
    rfl

theorem state_of_end {looked : Nat}
    (hread : (s.scan valid entry).reading = .here .implicitEnd looked) :
    (s.scan valid entry).after.state = { s.state with tags := s.state.tags.pop } := by
  rw [Scan.after, hread]
  rfl

/-- A scan that ends the innermost element comes before those that end the others. -/
theorem ClosesTo.of_end {looked n : Nat} {tags : Nesting Tag}
    (hread : (s.scan valid entry).reading = .here .implicitEnd looked)
    (hopen : 0 < s.state.tags.size)
    (hlater : (s.scan valid entry).after.ClosesTo valid entry n tags) :
    s.ClosesTo valid entry (n + 1) tags := by
  have hfinds : (s.scan valid entry).reading.Finds .implicitEnd 0 := by
    rw [hread]
    exact ⟨rfl, rfl, rfl, rfl⟩
  have hstate := state_of_end hread
  refine ⟨?_, ?_, hlater.declines, ?_⟩
  · have hle := hlater.le
    rw [hstate] at hle
    simp only [Nesting.pop, Nesting.size, List.length_tail] at hle hopen ⊢
    omega
  · -- the first of the ends is this one, and the others are those that follow
    intro i hi
    cases i with
    | zero =>
      show (s.scan valid entry).token? = _
      rw [Scan.token?, Scan.kind?_of_finds hfinds, Scan.span_of_finds hfinds]
      rfl
    | succ i => exact hlater.finds i (Nat.lt_of_succ_lt_succ hi)
  · have hlast := hlater.state
    rw [hstate] at hlast
    exact hlast

/-- Where the open elements decide, repeated scans close them as long as they tell to. -/
theorem DecidesEnds.closesTo_closeWhile (hdecides : s.DecidesEnds valid entry ends)
    (hempty : ends .empty = false) :
    ∃ n, s.ClosesTo valid entry n (Nesting.closeWhile ends s.state.tags.innermostFirst) := by
  -- by induction on the open elements: a scan that ends one leaves the others and all else
  generalize hscopes : s.state.tags.innermostFirst = scopes
  induction scopes generalizing s with
  | nil =>
    have htags : s.state.tags = .empty := congrArg Nesting.mk hscopes
    obtain ⟨looked, hread⟩ := hdecides.decline s.state.tags (by rwa [htags])
    refine ⟨0, ?_⟩
    rw [Nesting.closeWhile, ← htags]
    exact closesTo_of_decline hread
  | cons tag around ih =>
    have htags : s.state.tags = ⟨tag :: around⟩ := congrArg Nesting.mk hscopes
    rw [Nesting.closeWhile, ← htags]
    cases hends : ends s.state.tags with
    | false =>
      obtain ⟨looked, hread⟩ := hdecides.decline s.state.tags hends
      exact ⟨0, closesTo_of_decline hread⟩
    | true =>
      obtain ⟨looked, hread⟩ := hdecides.here s.state.tags hends
      have hopen : 0 < s.state.tags.size := by
        rw [htags]
        exact Nat.zero_lt_succ _
      have hstate := state_of_end hread
      have hafter : (s.scan valid entry).after.DecidesEnds valid entry ends := by
        refine ⟨fun tags => ?_, fun tags => ?_⟩
        · rw [hstate]
          exact hdecides.here tags
        · rw [hstate]
          exact hdecides.decline tags
      have haround : (s.scan valid entry).after.state.tags.innermostFirst = around := by
        rw [hstate, htags]
        rfl
      obtain ⟨n, hlater⟩ := ih hafter haround
      exact ⟨n + 1, .of_end hread hopen hlater⟩

end ClosesTo

/-! ## Before a tag -/

section BeforeTag

variable {s : Scanner} {entry : Place} {name rest : List Char}

/-- At a `<` that begins no delimiter and no comment, it is told whether the innermost element
ends. -/
theorem read_angle (config : ScanConfig) {state : ScanState} (tags : Nesting Tag)
    {behind : List Char} (hopening : state.delimiters.openingText.head? ≠ some '<')
    (hbang : behind.head? ≠ some '!') :
    read config { state with tags } (Run.contentTokens true) ('<' :: behind) =
      { impliedEnd tags 1 behind with skipped := 0 } := by
  rw [Run.read_contentTokens true _ _ rfl, Run.atNext_angle, atAngle,
    Run.openingAtAngle?_eq_none hopening]
  · rfl
  · intro ahead heq
    exact hbang (congrArg List.head? heq)

/-- Before an end tag, what is open decides whether the innermost element ends. -/
theorem decidesEnds_endTag (hopening : s.state.delimiters.openingText.head? ≠ some '<')
    (hname : IsTagName name) (hrest : rest.head?.all (!isNameChar ·) = true)
    (hahead : entry.ahead = '<' :: '/' :: (name ++ rest)) :
    s.DecidesEnds (Run.contentTokens true) entry (endsBeforeEndTag · (tagOf name)) := by
  have hread : ∀ tags, read s.config { s.state with tags } (Run.contentTokens true) entry.ahead =
      { impliedEnd tags 1 ('/' :: (name ++ rest)) with skipped := 0 } := by
    intro tags
    rw [hahead]
    exact read_angle s.config tags hopening (by simp)
  refine ⟨fun tags hends => ⟨1 + 1 + name.length, ?_⟩, fun tags hends => ⟨1 + 1 + name.length, ?_⟩⟩
  · rw [hread, impliedEnd_slash_append tags 1 hname.1 hname.2 hrest, hends]
    rfl
  · rw [hread, impliedEnd_slash_append tags 1 hname.1 hname.2 hrest, hends]
    rfl

theorem top?_any_yieldsTo (tags : Nesting Tag) (next : Tag) (atEnd : Bool) :
    tags.top?.any (yieldsTo next atEnd) =
      (tags.top?.any Tag.isVoid || endsBeforeStartTag tags next atEnd) := by
  rw [endsBeforeStartTag]
  cases tags.top? with
  | none => rfl
  | some tag => exact Bool.or_assoc ..

/-- Before a start tag, the innermost element decides. -/
theorem decidesEnds_startTag (hopening : s.state.delimiters.openingText.head? ≠ some '<')
    (hname : IsTagName name) (hrest : rest.head?.all (!isNameChar ·) = true)
    (hahead : entry.ahead = '<' :: (name ++ rest)) :
    s.DecidesEnds (Run.contentTokens true) entry
      fun tags => tags.top?.any (yieldsTo (tagOf name) rest.isEmpty) := by
  -- a name does not look like a comment
  have hbang : (name ++ rest).head? ≠ some '!' := by
    obtain ⟨c, later, rfl⟩ := List.exists_cons_of_ne_nil hname.1
    intro heq
    obtain rfl := Option.some.inj heq
    exact absurd (hname.2 '!' (List.mem_cons_self ..)) (by decide)
  have hread : ∀ tags, read s.config { s.state with tags } (Run.contentTokens true) entry.ahead =
      { impliedEnd tags 1 (name ++ rest) with skipped := 0 } := by
    intro tags
    rw [hahead]
    exact read_angle s.config tags hopening hbang
  constructor
  · intro tags hends
    rw [top?_any_yieldsTo] at hends
    -- a void element ends without a look at the name
    cases hvoid : tags.top?.any Tag.isVoid with
    | true =>
      refine ⟨1, ?_⟩
      rw [hread, impliedEnd_append tags 1 hname.1 hname.2 hrest, hvoid]
      rfl
    | false =>
      rw [hvoid, Bool.false_or] at hends
      refine ⟨1 + name.length, ?_⟩
      rw [hread, impliedEnd_append tags 1 hname.1 hname.2 hrest, hvoid, hends]
      rfl
  · intro tags hends
    rw [top?_any_yieldsTo, Bool.or_eq_false_iff] at hends
    refine ⟨1 + name.length, ?_⟩
    rw [hread, impliedEnd_append tags 1 hname.1 hname.2 hrest, hends.1, hends.2]
    rfl

/-- The scan for the name of the end tag whose `</` is at the place. -/
def scanEndTag (s : Scanner) (entry : Place) : Scan :=
  s.scan (.ofList [.endTagName, .erroneousEndTagName]) (entry.advance 2)

theorem scanEndTag_finds (hname : IsTagName name) (hrest : rest.head?.all (!isNameChar ·) = true)
    (hahead : entry.ahead = '<' :: '/' :: (name ++ rest))
    (hcloses : s.state.tags.closes (tagOf name) = true) :
    (s.scanEndTag entry).reading.Finds .endTag name.length := by
  have hbehind : (entry.advance 2).ahead = name ++ rest := by
    rw [Place.advance_ahead, hahead]
    rfl
  rw [scanEndTag, Scanner.scan, hbehind]
  exact Run.finds_endTagName hname hrest hcloses

/-- **Elements end by implication up to the right one.**  Whatever is open, repeated scans before a
tag end so many of the elements inside, and no more, as have to end there.  Before an end tag these
are all inside of the element that it names, which the tag then closes; if that one is not open, all
from the outermost element of its kind on.  Before a start tag they are the innermost ones as long
as each is void, cannot contain the new element, or belongs to the document frame while the text
ends with the name. -/
theorem exists_closesTo (s : Scanner) (entry : Place)
    (hopening : s.state.delimiters.openingText.head? ≠ some '<') (hname : IsTagName name)
    (hrest : rest.head?.all (!isNameChar ·) = true) :
    (entry.ahead = '<' :: '/' :: (name ++ rest) →
      ∃ n, s.ClosesTo (Run.contentTokens true) entry n
          (openBeforeEndTag s.state.tags (tagOf name)) ∧
        (tagOf name ∈ s.state.tags.innermostFirst →
          let scan := (s.scanTimes (Run.contentTokens true) entry (n + 1)).scanEndTag entry
          scan.token? = some ⟨.endTagName, ⟨(entry.advance 2).offset,
            ((entry.advance 2).advance name.length).offset⟩⟩ ∧
          scan.after.state =
            { s.state with tags := (openBeforeEndTag s.state.tags (tagOf name)).pop })) ∧
    (entry.ahead = '<' :: (name ++ rest) →
      ∃ n, s.ClosesTo (Run.contentTokens true) entry n
        (openBeforeStartTag s.state.tags (tagOf name) rest.isEmpty)) := by
  constructor
  · intro hahead
    obtain ⟨n, hcloses⟩ :=
      (decidesEnds_endTag hopening hname hrest hahead).closesTo_closeWhile rfl
    rw [closeWhile_endTag] at hcloses
    refine ⟨n, hcloses, ?_⟩
    intro hopen scan
    -- behind the implied ends the element of the tag is the innermost one
    have hstate : scan.before.state =
        { s.state with tags := openBeforeEndTag s.state.tags (tagOf name) } := hcloses.state
    have hfinds : scan.reading.Finds .endTag name.length := by
      apply scanEndTag_finds hname hrest hahead
      rw [hcloses.state]
      exact closes_openBeforeEndTag hopen
    constructor
    · rw [Scan.token?, Scan.kind?_of_finds hfinds, Scan.span_of_finds hfinds]
      rfl
    · rw [Scan.state_of_finds hfinds, hstate]
      rfl
  · intro hahead
    obtain ⟨n, hcloses⟩ :=
      (decidesEnds_startTag hopening hname hrest hahead).closesTo_closeWhile rfl
    rw [Nesting.closeWhile_top] at hcloses
    exact ⟨n, hcloses⟩

/-- A scanner inside of an element without content, in an item of a list. -/
def inListItem : Scanner :=
  { state := { tags := .ofList [.known .ul, .known .li, .known .br] } }

/-- Before the end of the list both elements inside of it end, before another item the item does. -/
theorem exists_closesTo_inListItem :
    (∃ n, inListItem.ClosesTo (Run.contentTokens true) ⟨8, "</ul>".toList⟩ n
        (.ofList [.known .ul]) ∧
      ((inListItem.scanTimes (Run.contentTokens true) ⟨8, "</ul>".toList⟩ (n + 1)).scanEndTag
        ⟨8, "</ul>".toList⟩).after.state = {}) ∧
    ∃ n, inListItem.ClosesTo (Run.contentTokens true) ⟨8, "<li>".toList⟩ n
      (.ofList [.known .ul]) := by
  have hopening : inListItem.state.delimiters.openingText.head? ≠ some '<' := by decide
  have hlist : IsTagName "ul".toList := by decide +kernel
  have hitem : IsTagName "li".toList := by decide +kernel
  have hangle : ['>'].head?.all (!isNameChar ·) = true := by decide +kernel
  have hul : openBeforeEndTag inListItem.state.tags (tagOf "ul".toList) = .ofList [.known .ul] := by
    decide +kernel
  have hli : openBeforeStartTag inListItem.state.tags (tagOf "li".toList) false =
      .ofList [.known .ul] := by
    decide +kernel
  constructor
  · obtain ⟨n, hcloses, hnamed⟩ :=
      (exists_closesTo inListItem ⟨8, "</ul>".toList⟩ hopening hlist hangle).1 rfl
    rw [hul] at hcloses hnamed
    exact ⟨n, hcloses, (hnamed (by decide +kernel)).2⟩
  · obtain ⟨n, hcloses⟩ :=
      (exists_closesTo inListItem ⟨8, "<li>".toList⟩ hopening hitem hangle).2 rfl
    exact ⟨n, hli ▸ hcloses⟩

end BeforeTag

end Scanner

end TemplateScan