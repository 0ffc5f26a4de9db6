import TemplateScan.Proofs.Host.Loops

/-!
# Hosts read documents as runs do

Part by part, a host that follows a run comes to where the run comes: mustache tags, start and end
tags, attributes, and with them the document as a whole.

* `Follows.path`, `Follows.mustacheTag`, `Follows.endTag` and the like: the parts.
* `Follows.attributeStep`, `Follows.documentStep`: the steps of the loops.
* `Follows.document`: a host reads a document as a run does, and step by step gets closer to its
  end.
-/

namespace TemplateScan.Document.Host

open Text TokenSet
open Run (Walks Acts Leads walks_raise walks_advance)

/-- One host is further on than the other. -/
def Further {text : String} (h next : Host text) : Prop :=
  h.pos < next.pos

/-- One state of a document, with the number of open elements, is closer to the end than the other:
it is further on, where one more element may be open, or at the same place and fewer are open. -/
def Closer {text : String} (s next : Host text × Nat) : Prop :=
  (Further s.1 next.1 ∧ next.2 ≤ s.2 + 1) ∨ (next.1.pos = s.1.pos ∧ next.2 < s.2)

variable {text : String} {checked : Bool} {h : Host text} {r : Run}

theorem Follows.further {h' : Host text} {r' : Run} (hf : Follows checked h r)
    (hf' : Follows checked h' r') (hfurther : Run.Further r r') : Further h h' := by
  rwa [Further, hf.pos, hf'.pos]

/-! ## Mustache tags -/

theorem Follows.closingDelimiter (hf : Follows checked h r) :
    ComesTo checked r.closingDelimiter h.closingDelimiter :=
  hf.expect _ _

/-- What is done before the closing delimiter is read. -/
theorem Comes.closingDelimiter {x : Except Fault (Host text)} (hx : ComesTo checked r x) :
    ComesTo checked r.closingDelimiter (x >>= Host.closingDelimiter) :=
  hx.bind ((Run.acts_closingDelimiter (p := Unrestricted)).walks r) fun _ hf => hf.closingDelimiter

/-! ### Paths -/

theorem Follows.pathStep (hf : Follows checked h r) :
    Comes checked ((Run.pathStep r).elim id id)
      (Sum.LiftRel (Follows checked) (Follows checked) · (Run.pathStep r)) h.pathStep := by
  rw [Host.pathStep, Run.pathStep]
  rcases hscan : r.scan (.singleton .mustacheIdentifier) with ⟨_ | kind, next⟩
  · refine (hf.scan _).bindWith hscan (walks_raise _) fun _ hf' => ?_
    have hraise := hf'.raise .missingIdentifier
    exact .ok hraise.spared (.inl hraise)
  · by_cases hdot : next.next? = some '.'
    · simp only [if_pos hdot]
      refine (hf.scan _).bindWith hscan walks_advance fun _ hf' => ?_
      have hbehind := hf'.goOn_mark hdot (by decide)
      simp only [hf'.next?, ok_bind, if_pos hdot]
      exact .ok hbehind.spared (.inr hbehind)
    · simp only [if_neg hdot]
      refine (hf.scan _).bindWith hscan Walks.refl fun _ hf' => ?_
      simp only [hf'.next?, ok_bind, if_neg hdot]
      exact .ok hf'.spared (.inl hf')

theorem Follows.path_completes (hf : Follows checked h r) :
    ComesTo checked r.path h.path ∧ Completes Further Host.pathStep h h.path := by
  refine Comes.repeatStep (Follows checked) (Follows checked) id
    (Run.leads_pathStep text.toList) (fun _ => rfl) (fun hf => hf.isOver) (fun hf => hf.remaining)
    ?_ Follows.further Follows.pathStep hf
  intro r next hnext hfurther hsize
  exact Run.remaining_lt hnext hsize hfurther

theorem Follows.path (hf : Follows checked h r) : ComesTo checked r.path h.path :=
  hf.path_completes.1

/-! ### Directives -/

theorem Follows.skipPastClosing (hf : Follows checked h r) :
    ComesTo checked r.skipPastClosing h.skipPastClosing := by
  rw [Host.skipPastClosing, Run.skipPastClosing, hf.ahead, ok_bind, hf.scanner, findText?]
  cases hfound : Lexing.occurrence? r.scanner.state.delimiters.closingText r.ahead with
  | none => exact hf.toEnd.comes
  | some n => exact (hf.goOn (byteLength_take_literal hfound).symm).comes

theorem Follows.rejectDirective (hf : Follows checked h r) :
    ComesTo checked r.rejectDirective h.rejectDirective :=
  (hf.raise _).skipPastClosing

theorem Follows.directiveEnd (hf : Follows checked h r) :
    ComesTo checked r.directiveEnd h.directiveEnd := by
  rw [Host.directiveEnd, Run.directiveEnd, hf.next?, ok_bind]
  split
  · next hnext => exact (hf.goOn_mark hnext (by decide)).expect _ _
  · exact (hf.raise _).expect _ _

theorem Follows.directive (hf : Follows checked h r) :
    ComesTo checked r.directive h.directive := by
  have hreject : ∀ r : Run, Walks r r.rejectDirective :=
    (Run.acts_rejectDirective (p := Unrestricted)).walks
  have hend : ∀ r : Run, Walks r r.directiveEnd :=
    (Run.acts_directiveEnd (p := Unrestricted)).walks
  rw [Host.directive, Run.directive]
  rcases hopening : r.scan (.singleton .mustacheSetStartDelimiter) with ⟨_ | kind, next⟩
  · exact (hf.scan _).bindWith hopening (hreject next) fun _ hf' => hf'.rejectDirective
  dsimp only
  rcases hclosing : next.scan (.singleton .mustacheSetEndDelimiter) with ⟨_ | kind', last⟩
  · refine (hf.scan _).bindWith hopening ((Run.walks_of_scan hclosing).trans (hreject last))
      fun _ hf' => ?_
    exact (hf'.scan _).bindWith hclosing (hreject last) fun _ hlast => hlast.rejectDirective
  · refine (hf.scan _).bindWith hopening ((Run.walks_of_scan hclosing).trans (hend last))
      fun _ hf' => ?_
    exact (hf'.scan _).bindWith hclosing (hend last) fun _ hlast => hlast.directiveEnd

/-! ### Tags -/

theorem Follows.mustacheComment (hf : Follows checked h r) :
    ComesTo checked r.mustacheComment h.mustacheComment := by
  rw [Host.mustacheComment, Run.mustacheComment]
  rcases hscan : r.scan (.singleton .mustacheComment) with ⟨_ | kind, next⟩
  · refine (hf.scan _).bindWith hscan ?_ fun _ hf' => (hf'.raise _).toEnd.comes
    exact (walks_raise _).trans (Acts.walks (p := Unrestricted) .toEnd _)
  · refine (hf.scan _).bindWith hscan ?_ fun _ hf' => hf'.closingDelimiter
    exact (Run.acts_closingDelimiter (p := Unrestricted)).walks _

theorem Follows.sectionTag (hf : Follows checked h r) (valid : TokenSet) :
    ComesTo checked (r.expect valid .missingSectionName).closingDelimiter (h.sectionTag valid) :=
  (hf.expect valid _).closingDelimiter

theorem Follows.value (hf : Follows checked h r) :
    ComesTo checked r.path.closingDelimiter h.value :=
  hf.path.closingDelimiter

theorem Follows.bracedPath (hf : Follows checked h r) :
    ComesTo checked r.bracedPath h.bracedPath := by
  have hwalk : Walks r.path r.bracedPath := by
    rw [Run.bracedPath]
    split
    · exact Run.walks_skipBlanks.trans walks_advance
    · exact Run.walks_skipBlanks
  rw [Host.bracedPath]
  refine hf.path.bind hwalk ?_
  intro behind hbehind
  obtain ⟨h', hskip, hf'⟩ := hbehind.skipBlanks
  rw [Run.bracedPath, hskip, ok_bind, hf'.next?, ok_bind]
  split
  · next hnext => exact (hf'.goOn_mark hnext (by decide)).comes
  · exact hf'.comes

theorem Follows.bracedValue (hf : Follows checked h r) :
    ComesTo checked r.bracedPath.closingDelimiter h.bracedValue :=
  hf.bracedPath.closingDelimiter

/-- The character behind the dot is looked at from behind one byte on. -/
theorem Follows.dottedValue (hf : Follows checked h r) {rest : List Char}
    (hahead : r.ahead = '.' :: rest) :
    ComesTo checked (if Run.endsName rest then r.advance 1 else r.path).closingDelimiter
      h.dottedValue := by
  have hslice : sliceFrom r.ahead 1 = .ok rest := by
    have hbehind : Place.at? ('.' :: rest) 1 = some ⟨1, rest⟩ :=
      Place.at?_eq_some_iff.mpr ⟨⟨['.'], rfl, rfl⟩, rfl⟩
    rw [sliceFrom, hahead, hbehind]
  rw [Host.dottedValue, hf.ahead, ok_bind, hslice, ok_bind]
  split
  · exact (hf.goOn_mark (congrArg List.head? hahead) (by decide)).closingDelimiter
  · exact hf.value

theorem Follows.mustacheBody (hf : Follows checked h r) :
    ComesTo checked r.mustacheBody h.mustacheBody := by
  -- each sort but a plain path is told by a mark
  have hlook : ∀ {c : Char} {rest : List Char}, r.ahead = c :: rest → r.next? = some c :=
    fun hahead => congrArg List.head? hahead
  have hmark : ∀ {c : Char} {rest : List Char}, r.ahead = c :: rest → IsMark c →
      Follows checked (h.goOn 1) (r.advance 1) :=
    fun hahead hc => hf.goOn_mark (hlook hahead) hc
  rw [Host.mustacheBody, hf.next?, ok_bind]
  unfold Run.mustacheBody
  split
  · next hahead =>
    rw [hlook hahead]
    exact (hmark hahead (by decide)).sectionTag _
  · next hahead =>
    rw [hlook hahead]
    exact (hmark hahead (by decide)).sectionTag _
  · next hahead =>
    rw [hlook hahead]
    exact (hmark hahead (by decide)).sectionTag _
  · next hahead =>
    rw [hlook hahead]
    exact (hmark hahead (by decide)).mustacheComment
  · next hahead =>
    rw [hlook hahead]
    exact (hmark hahead (by decide)).directive
  · next hahead =>
    rw [hlook hahead]
    exact (hmark hahead (by decide)).bracedValue
  · next hahead =>
    rw [hlook hahead]
    exact (hmark hahead (by decide)).value
  · next hahead =>
    rw [hlook hahead]
    exact (hmark hahead (by decide)).value
  · next hahead =>
    rw [hlook hahead]
    exact hf.dottedValue hahead
  · -- where no mark is ahead, the host finds none either
    split
    case h_10 => exact hf.value
    all_goals
      next hnext =>
        obtain ⟨rest, hahead⟩ := Run.exists_ahead hnext
        simp_all

theorem Follows.mustacheTag (hf : Follows checked h r) :
    ComesTo checked r.mustacheTag h.mustacheTag := by
  obtain ⟨h', hskip, hf'⟩ := hf.skipBlanks
  rw [Host.mustacheTag, hskip, ok_bind]
  exact hf'.mustacheBody

/-! ## Start tags, end tags and raw text -/

theorem Follows.closeAngle (hf : Follows checked h r) :
    ComesTo checked r.closeAngle h.closeAngle := by
  obtain ⟨h', hskip, hf'⟩ := hf.skipBlanks
  rw [Host.closeAngle, Run.closeAngle, hskip, ok_bind, hf'.next?, ok_bind]
  split
  · next hnext => exact (hf'.goOn_mark hnext (by decide)).comes
  · exact (hf'.raise _).comes

/-- An end tag is entered at two marks. -/
theorem Follows.endTag (hf : Follows checked h r) (hahead : ['<', '/'] <+: r.ahead) :
    ComesWith checked r.endTag h.endTag := by
  have hmarks : Follows checked (h.goOn 2) (r.advance 2) :=
    hf.goOn_marks ['<', '/'] (by simp [IsMark]) hahead
  have hclose : ∀ r : Run, Walks r r.closeAngle := (Run.acts_closeAngle (p := Unrestricted)).walks
  rw [Host.endTag, Run.endTag]
  rcases hscan : (r.advance 2).scan (.ofList [.endTagName, .erroneousEndTagName]) with
    ⟨_ | kind, next⟩
  · refine (hmarks.scan _).bindWith hscan ((walks_raise _).trans (hclose _)) fun h' hf' => ?_
    exact (hf'.raise _).closeAngle.bind Walks.refl fun _ hlast => hlast.comesWith none
  · refine (hmarks.scan _).bindWith hscan (hclose next) fun h' hf' => ?_
    exact hf'.closeAngle.bind Walks.refl fun _ hlast => hlast.comesWith (some kind)

theorem Follows.rawTextBody (hf : Follows checked h r) :
    ComesTo checked r.rawTextBody h.rawTextBody := by
  rw [Host.rawTextBody, Run.rawTextBody]
  rcases hscan : r.scan (.singleton .rawText) with ⟨kind?, next⟩
  dsimp only
  split
  · next hahead =>
    have hwalk : Walks next next.endTag.2 := (Run.procedure_endTag (p := Unrestricted)).walks next
    refine (hf.scan _).bindWith hscan hwalk fun h' hf' => ?_
    dsimp only
    rw [hf'.ahead, ok_bind, if_pos hahead]
    have hend := hf'.endTag (List.isPrefixOf_iff_prefix.mp hahead)
    exact hend.bind Walks.refl fun _ hlast => hlast.2.comes
  · next hahead =>
    refine (hf.scan _).bindWith hscan (walks_raise _) fun h' hf' => ?_
    dsimp only
    rw [hf'.ahead, ok_bind, if_neg hahead]
    exact (hf'.raise _).comes

/-! ### Attributes -/

theorem Follows.quotedValue (hf : Follows checked h r) {c : Char} (hc : IsMark c) :
    ComesTo checked (r.quotedValue c) (h.skipPast c .unterminatedStartTag) := by
  obtain ⟨h', hskip, hf'⟩ := hf.skipPast hc .unterminatedStartTag
  rw [hskip]
  exact hf'.comes

theorem Follows.attributeValue (hf : Follows checked h r) :
    ComesTo checked r.attributeValue h.attributeValue := by
  rw [Host.attributeValue, Run.attributeValue, hf.next?, ok_bind]
  cases hnext : r.next? with
  | none => exact hf.comes
  | some c =>
    dsimp only
    split
    · next hquote =>
      have hc : IsMark c := by
        rw [Bool.or_eq_true, decide_eq_true_eq, decide_eq_true_eq] at hquote
        rcases hquote with rfl | rfl
        · decide
        · decide
      exact (hf.goOn_mark hnext hc).quotedValue hc
    · obtain ⟨h', htake, hf'⟩ := hf.takeWhile fun c => !(isBlank c || c == '>')
      rw [htake]
      exact hf'.comes

/-- A run of a class has no bytes where no character of the class is ahead. -/
theorem byteLength_takeWhile_eq_zero_iff (inClass : Char → Bool) :
    Utf8.byteLength (r.ahead.takeWhile inClass) = 0 ↔ ¬r.next?.any inClass = true := by
  have hnext : r.next? = r.ahead.head? := rfl
  rw [hnext]
  cases r.ahead with
  | nil => simp
  | cons c rest =>
    have hpositive := c.utf8Size_pos
    cases hclass : inClass c with
    | true => simp [hclass]; omega
    | false => simp [hclass]

theorem skipWhile_eq_self {inClass : Char → Bool}
    (hnone : Utf8.byteLength (r.ahead.takeWhile inClass) = 0) : r.skipWhile inClass = r := by
  have hempty : r.ahead.takeWhile inClass = [] := by
    by_contra hne
    exact Nat.ne_of_gt (Utf8.byteLength_pos hne) hnone
  show r.moveTo (r.place.advance (r.ahead.takeWhile inClass).length) = r
  rw [hempty]
  rfl

theorem Follows.oneAttribute (hf : Follows checked h r) :
    ComesTo checked r.oneAttribute h.oneAttribute := by
  obtain ⟨h', htake, hf'⟩ := hf.takeWhile Run.isAttributeNameChar
  rw [Host.oneAttribute, Run.oneAttribute, htake, ok_bind]
  dsimp only
  -- the host tells by the bytes of the name whether there is one, the run by the character ahead
  split
  · next hname =>
    have hbytes := not_imp_not.mpr (byteLength_takeWhile_eq_zero_iff _).mp (not_not_intro hname)
    rw [if_neg hbytes]
    obtain ⟨behind, hskip, hbehind⟩ := hf'.skipBlanks
    rw [hskip, ok_bind, hbehind.next?, ok_bind]
    split
    · next hsign =>
      obtain ⟨value, hskip', hvalue⟩ := (hbehind.goOn_mark hsign (by decide)).skipBlanks
      rw [hskip', ok_bind]
      exact hvalue.attributeValue
    · exact hbehind.comes
  · next hname =>
    have hnone := (byteLength_takeWhile_eq_zero_iff _).mpr hname
    rw [skipWhile_eq_self hnone] at hf'
    rw [if_pos hnone]
    obtain ⟨last, hbump, hlast⟩ := (hf'.raise .unexpectedCharacter).bump
    rw [hbump]
    exact hlast.comes

theorem Follows.atOpening (hf : Follows checked h r) : h.atOpening = .ok r.atOpening := by
  rw [Host.atOpening, Run.atOpening, hf.ahead, ok_bind, hf.scanner]
  rfl

/-- The run behind a mustache tag or an attribute of a start tag.  Where the scanner finds no tag at
the delimiter, a character is passed over. -/
def behindPart (r : Run) : Run :=
  if r.atOpening then
    match r.scan (.singleton .mustacheStartDelimiter) with
    | (some _, r) => r.mustacheTag
    | (none, r) => r.advance 1
  else r.oneAttribute

theorem attributeStep_of_next? {c : Char} (hnext : r.skipBlanks.next? = some c) (hend : c ≠ '>')
    (hslash : c ≠ '/') : Run.attributeStep r = .inr (behindPart r.skipBlanks) := by
  rw [Run.attributeStep, hnext, behindPart]
  split
  · next hnone => cases hnone
  · next heq => exact (hend (Option.some.inj heq)).elim
  · next heq => exact (hslash (Option.some.inj heq)).elim
  · split
    · rcases r.skipBlanks.scan (.singleton .mustacheStartDelimiter) with ⟨_ | kind, next⟩
      · rfl
      · rfl
    · rfl

theorem Follows.attributePart (hf : Follows checked h r) :
    ComesTo checked (behindPart r) h.attributePart := by
  rw [Host.attributePart, behindPart, hf.atOpening, ok_bind]
  split
  · rw [Host.tagInside]
    rcases hscan : r.scan (.singleton .mustacheStartDelimiter) with ⟨_ | kind, next⟩
    · refine (hf.scan _).bindWith hscan walks_advance fun h' hf' => ?_
      obtain ⟨last, hbump, hlast⟩ := hf'.bump
      dsimp only
      rw [hbump]
      exact hlast.comes
    · exact (hf.scan _).bindWith hscan (Run.acts_mustacheTag.walks next)
        fun h' hf' => hf'.mustacheTag
  · exact hf.oneAttribute

theorem Follows.attributeStep (hf : Follows checked h r) :
    Comes checked ((Run.attributeStep r).elim Prod.snd id)
      (Sum.LiftRel (fun x y => FollowsWith checked y x) (Follows checked) · (Run.attributeStep r))
      h.attributeStep := by
  obtain ⟨h', hskip, hf'⟩ := hf.skipBlanks
  rw [Host.attributeStep, hskip, ok_bind, hf'.next?, ok_bind]
  split
  · next hnext =>
    rw [Run.attributeStep, hnext]
    have hraise := hf'.raise .unterminatedStartTag
    exact .ok hraise.spared (.inl ⟨rfl, hraise⟩)
  · next hnext =>
    rw [Run.attributeStep, hnext]
    have hbehind := hf'.goOn_mark hnext (by decide)
    exact .ok hbehind.spared (.inl ⟨rfl, hbehind⟩)
  · next hnext =>
    rw [Run.attributeStep, hnext]
    rcases hscan : r.skipBlanks.scan (.singleton .selfClosingTagDelimiter) with ⟨_ | kind, next⟩
    · -- nothing is found, so the slash is still ahead
      have hslash : (next.raise .unexpectedCharacter).next? = some '/' := by
        show next.place.next? = some '/'
        rw [Run.place_of_scan_none hscan]
        exact hnext
      refine (hf'.scan _).bindWith hscan ((walks_raise _).trans walks_advance) fun _ hlast => ?_
      have hbehind := (hlast.raise .unexpectedCharacter).goOn_mark hslash (by decide)
      exact .ok hbehind.spared (.inr hbehind)
    · exact (hf'.scan _).bindWith hscan Walks.refl
        fun _ hlast => .ok hlast.spared (.inl ⟨rfl, hlast⟩)
  · next c hend hslash hnext =>
    rw [attributeStep_of_next? hnext hend hslash]
    exact hf'.attributePart.bind Walks.refl fun _ hlast => .ok hlast.spared (.inr hlast)

theorem Follows.attributes_completes (hf : Follows checked h r) :
    ComesWith checked r.attributes h.attributes ∧
      Completes Further Host.attributeStep h h.attributes := by
  refine Comes.repeatStep (Follows checked) (fun x y => FollowsWith checked y x) Prod.snd
    (Run.leads_attributeStep text.toList) (fun _ => rfl)
    (fun hf => hf.isOver) (fun hf => hf.remaining) ?_ Follows.further Follows.attributeStep hf
  intro r next hnext hfurther hsize
  exact Run.remaining_lt hnext hsize hfurther

theorem Follows.attributes (hf : Follows checked h r) :
    ComesWith checked r.attributes h.attributes :=
  hf.attributes_completes.1

/-! ### Start tags -/

theorem Follows.startTag (hf : Follows checked h r) : ComesWith checked r.startTag h.startTag := by
  obtain ⟨h', hbump, hf'⟩ := hf.bump
  rw [Host.startTag, Run.startTag, hbump, ok_bind]
  rcases hscan : (r.advance 1).scan
    (.ofList [.startTagName, .scriptStartTagName, .styleStartTagName]) with ⟨_ | kind, name⟩
  · refine (hf'.scan _).bindWith hscan (walks_raise _) fun _ hlast => ?_
    exact (hlast.raise _).comesWith false
  dsimp only
  have hname : Walks name name.attributes.2 := Run.procedure_attributes.walks name
  rcases hattributes : name.attributes with ⟨_ | _, behind⟩
  · rw [hattributes] at hname
    refine (hf'.scan _).bindWith hscan hname fun _ hf' => ?_
    exact hf'.attributes.bindWith hattributes Walks.refl fun _ hlast => hlast.comesWith false
  rw [hattributes] at hname
  dsimp only
  split
  · next hraw =>
    -- the body of a raw element is read with its start tag
    have hbody : Walks behind behind.rawTextBody :=
      (Run.acts_rawTextBody (p := Unrestricted)).walks behind
    refine (hf'.scan _).bindWith hscan (hname.trans hbody) fun _ hf' => ?_
    refine hf'.attributes.bindWith hattributes hbody fun _ hf' => ?_
    dsimp only
    rw [if_pos hraw]
    exact hf'.rawTextBody.bind Walks.refl fun _ hlast => hlast.comesWith false
  · next hraw =>
    refine (hf'.scan _).bindWith hscan hname fun _ hf' => ?_
    refine hf'.attributes.bindWith hattributes Walks.refl fun _ hlast => ?_
    dsimp only
    rw [if_neg hraw]
    exact hlast.comesWith true

/-! ## Documents -/

theorem Follows.declaration (hf : Follows checked h r) :
    ComesTo checked r.declaration h.declaration := by
  obtain ⟨h', hskip, hf'⟩ := hf.skipPast (c := '>') (by decide) .missingCloseAngle
  rw [Host.declaration, hskip]
  exact hf'.comes

theorem Follows.markup (hf : Follows checked h r) : ComesWith checked r.markup h.markup := by
  have hlook : ∀ {ahead}, r.ahead = ahead → h.ahead = .ok ahead := fun hahead => hahead ▸ hf.ahead
  -- the run is split first: what it finds ahead decides for the host as well
  unfold Run.markup
  split
  · next hahead =>
    rw [Host.markup, hlook hahead]
    exact hf.comesWith _
  · next hahead =>
    rw [Host.markup, hlook hahead]
    exact hf.comesWith _
  · next hahead =>
    rw [Host.markup, hlook hahead]
    exact (hf.raise _).toEnd.comesWith _
  · next hdashes hahead =>
    simp only [Host.markup, hlook hahead, ok_bind]
    exact hf.declaration.bind Walks.refl fun _ hlast => hlast.comesWith _
  · next hahead =>
    simp only [Host.markup, hlook hahead, ok_bind]
    rcases hstart : r.startTag with ⟨_ | _, behind⟩
    · exact hf.startTag.bindWith hstart Walks.refl fun _ hlast => hlast.comesWith _
    · exact hf.startTag.bindWith hstart Walks.refl fun _ hlast => hlast.comesWith _
  · next hempty hend hcomment hdeclaration hstart =>
    obtain ⟨last, hbump, hlast⟩ := (hf.raise .unexpectedCharacter).bump
    simp only [Host.markup, hf.ahead, ok_bind, hbump]
    exact hlast.comesWith _

theorem Follows.content (hf : Follows checked h r) (inElement : Bool) :
    ComesWith checked (r.content inElement) (h.content inElement) := by
  obtain ⟨h', hskip, hf'⟩ := hf.skipBlanks
  rw [Host.content, Run.content, hskip, ok_bind]
  rcases hscan : r.skipBlanks.scan (Run.contentTokens inElement) with ⟨_ | kind, next⟩
  · refine (hf'.scan _).bindWith hscan ?_ fun _ hlast => hlast.markup
    exact Run.procedure_markup.walks next
  cases kind with
  | implicitEndTag =>
    exact (hf'.scan _).bindWith hscan Walks.refl fun _ hlast => hlast.comesWith _
  | mustacheStartDelimiter =>
    refine (hf'.scan _).bindWith hscan (Run.acts_mustacheTag.walks next) fun _ hlast => ?_
    exact hlast.mustacheTag.bind Walks.refl fun _ hlast => hlast.comesWith _
  | _ => exact (hf'.scan _).bindWith hscan Walks.refl fun _ hlast => hlast.comesWith _

/-- The host has read what the run has read, and as many elements are open. -/
def FollowsAt (checked : Bool) (s : Host text × Nat) (t : Run × Nat) : Prop :=
  Follows checked s.1 t.1 ∧ s.2 = t.2

/-- Where the run goes on, so does the host. -/
theorem Follows.goesOn (hf : Follows checked h r) (depth : Nat) :
    Comes checked r (fun x : Host text ⊕ Host text × Nat =>
      Sum.LiftRel (Follows checked) (FollowsAt checked) x (.inr (r, depth)))
      (.ok (.inr (h, depth))) :=
  .ok hf.spared (.inr ⟨hf, rfl⟩)

theorem Follows.documentStep (hf : Follows checked h r) (depth : Nat) :
    Comes checked ((Run.documentStep (r, depth)).elim id Prod.fst)
      (Sum.LiftRel (Follows checked) (FollowsAt checked) · (Run.documentStep (r, depth)))
      (Host.documentStep (h, depth)) := by
  have hleads : Run.ContentLeads text.toList r (0 < depth) (r.content (0 < depth)) :=
    Run.contentLeads_content _
  rw [Host.documentStep, Run.documentStep]
  rcases hcontent : r.content (0 < depth) with ⟨progress, next⟩
  rw [hcontent] at hleads
  cases progress with
  | content => exact (hf.content _).bindWith hcontent Walks.refl fun _ hf' => hf'.goesOn _
  | elementBegun => exact (hf.content _).bindWith hcontent Walks.refl fun _ hf' => hf'.goesOn _
  | elementEnded => exact (hf.content _).bindWith hcontent Walks.refl fun _ hf' => hf'.goesOn _
  | endTagAhead =>
    -- the two marks of the end tag are ahead, as content that leads there tells
    have hwalk : Walks next next.endTag.2 := (Run.procedure_endTag (p := Unrestricted)).walks next
    dsimp only
    rcases hend : next.endTag with ⟨_ | kind, last⟩
    · rw [hend] at hwalk
      refine (hf.content _).bindWith hcontent hwalk fun _ hf' => ?_
      exact (hf'.endTag hleads.2).bindWith hend Walks.refl fun _ hlast => hlast.goesOn _
    · rw [hend] at hwalk
      cases kind with
      | endTagName =>
        refine (hf.content _).bindWith hcontent hwalk fun _ hf' => ?_
        exact (hf'.endTag hleads.2).bindWith hend Walks.refl fun _ hlast => hlast.goesOn _
      | _ =>
        refine (hf.content _).bindWith hcontent hwalk fun _ hf' => ?_
        exact (hf'.endTag hleads.2).bindWith hend Walks.refl fun _ hlast => hlast.goesOn _
  | textEnded =>
    dsimp only
    split
    · refine (hf.content _).bindWith hcontent Walks.refl fun _ hlast => ?_
      exact .ok hlast.spared (.inl hlast)
    · refine (hf.content _).bindWith hcontent (walks_raise _) fun _ hf' => ?_
      exact (hf'.raise _).goesOn _

theorem Follows.document (hf : Follows checked h r) :
    ComesTo checked r.document h.document ∧
      Completes Closer Host.documentStep (h, 0) h.document := by
  refine Comes.repeatStep (FollowsAt checked) (Follows checked) id
    (Run.leads_documentStep text.toList) (fun _ => rfl) ?_ ?_ ?_ ?_ ?_ ⟨hf, rfl⟩
  · exact fun hs => hs.1.isOver
  · rintro ⟨h, depth⟩ ⟨r, _⟩ ⟨hf, rfl⟩
    rw [Host.documentLeft, Run.documentLeft, hf.remaining]
  · intro s next hnext hcloser hsize
    exact Run.documentLeft_lt hnext hsize hcloser
  · rintro ⟨h, depth⟩ ⟨r, _⟩ ⟨h', depth'⟩ ⟨r', _⟩ ⟨hf, rfl⟩ ⟨hf', rfl⟩ hcloser
    rcases hcloser with ⟨hfurther, hdepth⟩ | ⟨hsame, hdepth⟩
    · exact Or.inl ⟨hf.further hf' hfurther, hdepth⟩
    · exact Or.inr ⟨by rw [hf.pos, hf'.pos]; exact hsame, hdepth⟩
  · rintro ⟨h, depth⟩ ⟨r, _⟩ ⟨hf, rfl⟩
    exact hf.documentStep depth

end TemplateScan.Document.Host
