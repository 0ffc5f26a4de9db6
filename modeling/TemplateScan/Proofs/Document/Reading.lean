import Mathlib.Tactic.Choose
import TemplateScan.Proofs.Document.Procedure

/-!
# Documents are read by procedures

Every part of reading a document is a procedure: mustache tags, start and end tags, attributes, and
with them the document as a whole.  Elements begin only where a start tag is read: no other part
scans for the name of one.

* `Procedure.byPlace`: what is done may depend on the place and the delimiters, `Procedure.after`:
  and on the result of what was done before.
* `acts_mustacheTag`, `procedure_endTag` and the like: the parts that let no element begin.
* `acts_document`: a document is read by moves that depend on places, delimiters and kinds of tokens
  alone.
-/

namespace TemplateScan

/-- No name in a start tag is admissible, so no element begins. -/
def TokenSet.NoStartTag (valid : TokenSet) : Prop :=
  valid.contains .startTagName = false

/-- No delimiter that closes is admissible as a new one, so none is set. -/
def TokenSet.NoNewClosing (valid : TokenSet) : Prop :=
  valid.contains .mustacheSetEndDelimiter = false

/-- Any set of kinds may be admissible. -/
def TokenSet.Unrestricted (_ : TokenSet) : Prop :=
  True

/-- A restriction of scans that leaves those for neither of these. -/
class TokenSet.AllowsPlain (p : TokenSet → Prop) : Prop where
  of_plain : ∀ {valid : TokenSet}, valid.NoStartTag → valid.NoNewClosing → p valid

instance : TokenSet.AllowsPlain TokenSet.NoStartTag where
  of_plain hstart _ := hstart

instance : TokenSet.AllowsPlain TokenSet.NoNewClosing where
  of_plain _ hclosing := hclosing

instance : TokenSet.AllowsPlain TokenSet.Unrestricted where
  of_plain _ _ := trivial

namespace Document.Run

open Text Mustache TokenSet

/-! ## Putting procedures together -/

section Combine

variable {p : TokenSet → Prop} {α : Type} {c c' : Run → α × Run} {f g : Run → Run}

theorem Acts.id : Acts p fun r => r :=
  .done ()

theorem Acts.comp (hg : Acts p g) (hf : Acts p f) : Acts p fun r => g (f r) :=
  .andThen (k := fun _ r => ((), g r)) hf fun _ => hg

/-- A procedure with a result behind one without. -/
theorem Procedure.comp (hc : Procedure p c) (hf : Acts p f) : Procedure p fun r => c (f r) :=
  .andThen (k := fun _ r => c r) hf fun _ => hc

theorem Procedure.congr (hc : Procedure p c) (heq : ∀ r, c' r = c r) : Procedure p c' := by
  rwa [funext heq]

/-- The result of a procedure is forgotten. -/
theorem Procedure.acts (hc : Procedure p c) : Acts p fun r => (c r).2 :=
  .andThen (k := fun _ r => ((), r)) hc fun _ => .done ()

/-- A result goes with what is done. -/
theorem Acts.pair (hf : Acts p f) (a : α) : Procedure p fun r => (a, f r) :=
  .andThen (k := fun _ r => (a, r)) hf fun _ => .done a

/-- What the place and the delimiters decide is a procedure if it is one for each place and
delimiters. -/
theorem Procedure.byPlace
    (h : ∀ here d, ∃ k : Run → α × Run,
      (∀ r : Run, r.place = here → r.scanner.state.delimiters = d → c r = k r) ∧ Procedure p k) :
    Procedure p c := by
  choose k heq hk using h
  refine (Procedure.look hk).congr ?_
  intro r
  exact heq _ _ r rfl rfl

/-- What goes on behind a procedure, as its result decides, is a procedure if it is one for each
result. -/
theorem Procedure.after {β : Type} {b : Run → β × Run} (hb : Procedure p b)
    (h : ∀ a, ∃ k : Run → α × Run,
      (∀ r last : Run, b r = (a, last) → c r = k last) ∧ Procedure p k) :
    Procedure p c := by
  choose k heq hk using h
  refine (Procedure.andThen hb hk).congr ?_
  intro r
  exact heq _ r _ rfl

theorem Procedure.ite {b : Prop} [Decidable b] (hc : Procedure p c) (hc' : Procedure p c') :
    Procedure p fun r => if b then c r else c' r := by
  by_cases hb : b
  · simpa only [if_pos hb] using hc
  · simpa only [if_neg hb] using hc'

theorem Acts.ite {b : Prop} [Decidable b] (hf : Acts p f) (hg : Acts p g) :
    Acts p fun r => if b then f r else g r := by
  by_cases hb : b
  · simpa only [if_pos hb] using hf
  · simpa only [if_neg hb] using hg

end Combine

/-! ## Moving on -/

variable {p : TokenSet → Prop} {f g : Run → Run}

/-- A scan for neither a start tag nor a new closing delimiter. -/
theorem procedure_scan [AllowsPlain p] (valid : TokenSet) (hstart : valid.NoStartTag)
    (hclosing : valid.NoNewClosing) (hseen : valid.NoSectionEnd) :
    Procedure p fun r => r.scan valid :=
  .scan valid (AllowsPlain.of_plain hstart hclosing) hseen

theorem acts_skipWhile (inClass : Char → Bool) : Acts p (·.skipWhile inClass) := by
  refine .byPlace fun here _ =>
    ⟨fun r => ((), r.advance (here.ahead.takeWhile inClass).length), ?_, .advance _⟩
  intro r hplace _
  rw [← hplace]
  rfl

theorem acts_skipBlanks : Acts p skipBlanks :=
  acts_skipWhile isBlank

theorem acts_expect [AllowsPlain p] (valid : TokenSet) (cause : Cause)
    (hstart : valid.NoStartTag) (hclosing : valid.NoNewClosing) :
    Acts p (·.expect valid cause) :=
  .expect valid (AllowsPlain.of_plain hstart hclosing) cause

/-- What the character ahead decides. -/
theorem Acts.ifNext (c : Char) (hf : Acts p f) (hg : Acts p g) :
    Acts p fun r => if r.next? = some c then f r else g r := by
  refine .byPlace fun here _ => ⟨_, fun r hplace _ => by simp only [next?, hplace]; rfl, ?_⟩
  exact Acts.ite hf hg

/-! ## Mustache tags -/

theorem acts_closingDelimiter [AllowsPlain p] : Acts p closingDelimiter :=
  acts_expect (.singleton .mustacheEndDelimiter) _ rfl rfl

theorem acts_skipPastClosing : Acts p skipPastClosing := by
  refine .byPlace fun here d =>
    ⟨_, fun r hplace hdelimiters => by rw [skipPastClosing, ahead, hplace, hdelimiters], ?_⟩
  cases Lexing.occurrence? d.closingText here.ahead with
  | none => exact .toEnd
  | some n => exact .advance _

theorem acts_rejectDirective : Acts p rejectDirective :=
  acts_skipPastClosing.comp (.raise _)

theorem acts_directiveEnd [AllowsPlain p] : Acts p directiveEnd :=
  (acts_expect (.singleton .mustacheOldEndDelimiter) _ rfl rfl).comp
    (.ifNext '=' (.advance 1) (.raise _))

theorem acts_directive : Acts NoStartTag directive := by
  refine .after (.scan (.singleton .mustacheSetStartDelimiter) rfl ⟨rfl, rfl⟩) ?_
  rintro (_ | kind)
  · exact ⟨_, fun r last hscan => by rw [directive, hscan], acts_rejectDirective⟩
  refine ⟨_, fun r last hscan => by rw [directive, hscan], ?_⟩
  dsimp only
  refine .after (.scan (.singleton .mustacheSetEndDelimiter) rfl ⟨rfl, rfl⟩) ?_
  rintro (_ | kind)
  · exact ⟨_, fun r last hscan => by rw [hscan], acts_rejectDirective⟩
  · exact ⟨_, fun r last hscan => by rw [hscan], acts_directiveEnd⟩

theorem acts_mustacheComment [AllowsPlain p] : Acts p mustacheComment := by
  refine .after (procedure_scan (.singleton .mustacheComment) rfl rfl ⟨rfl, rfl⟩) ?_
  rintro (_ | kind)
  · exact ⟨_, fun r last hscan => by rw [mustacheComment, hscan], .comp .toEnd (.raise _)⟩
  · exact ⟨_, fun r last hscan => by rw [mustacheComment, hscan], acts_closingDelimiter⟩

/-! ### Paths -/

/-- The outcome of a step of a path, beside its run. -/
def pathOutcome (r : Run) : (Unit ⊕ Unit) × Run :=
  joinOutcome ((pathStep r).map ((), ·) ((), ·))

theorem procedure_pathOutcome [AllowsPlain p] : Procedure p pathOutcome := by
  refine .after (procedure_scan (.singleton .mustacheIdentifier) rfl rfl ⟨rfl, rfl⟩) ?_
  rintro (_ | kind)
  · exact ⟨_, fun r last hscan => by rw [pathOutcome, pathStep, hscan]; rfl, Acts.pair (.raise _) _⟩
  refine ⟨_, fun r last hscan => by rw [pathOutcome, pathStep, hscan], ?_⟩
  refine .byPlace fun here _ => ⟨_, fun r hplace _ => by simp only [next?, hplace]; rfl, ?_⟩
  -- another part follows a dot
  by_cases hdot : here.next? = some '.'
  · simp only [if_pos hdot]
    exact Acts.pair (.advance 1) _
  · simp only [if_neg hdot]
    exact .done _

theorem acts_path [AllowsPlain p] : Acts p path := by
  -- the loop over runs is the loop that passes a unit on beside them
  refine (Procedure.loop (fun _ size p => size - p.offset) (fun _ => ())
    (fun _ => procedure_pathOutcome) ()).congr ?_
  intro r
  refine (loop_eq_iterate ((), ·) ((), ·) ?_ ?_ ?_ r).symm
  · exact fun _ => rfl
  · exact fun _ => rfl
  · exact fun _ => rfl

/-! ### Tags -/

theorem acts_bracedPath [AllowsPlain p] : Acts p bracedPath :=
  .comp (f := fun r => r.path.skipBlanks) (.ifNext '}' (.advance 1) .id)
    (acts_skipBlanks.comp acts_path)

/-- The tag that begins or ends a section. -/
theorem acts_sectionTag [AllowsPlain p] (valid : TokenSet) (hstart : valid.NoStartTag)
    (hclosing : valid.NoNewClosing) :
    Acts p fun r => ((r.advance 1).expect valid .missingSectionName).closingDelimiter :=
  acts_closingDelimiter.comp ((acts_expect valid _ hstart hclosing).comp (.advance 1))

theorem acts_mustacheBody : Acts NoStartTag mustacheBody := by
  refine .byPlace fun here _ => ⟨_, fun r hplace _ => by rw [mustacheBody, ahead, hplace], ?_⟩
  -- the character ahead tells the sort: sections, their ends, comments, delimiters and paths
  split
  · exact acts_sectionTag _ rfl rfl
  · exact acts_sectionTag _ rfl rfl
  · exact acts_sectionTag _ rfl rfl
  · exact acts_mustacheComment.comp (.advance 1)
  · exact acts_directive.comp (.advance 1)
  · exact acts_closingDelimiter.comp (acts_bracedPath.comp (.advance 1))
  · exact acts_closingDelimiter.comp (acts_path.comp (.advance 1))
  · exact acts_closingDelimiter.comp (acts_path.comp (.advance 1))
  · exact acts_closingDelimiter.comp (.ite (.advance 1) acts_path)
  · exact acts_closingDelimiter.comp acts_path

theorem acts_mustacheTag : Acts NoStartTag mustacheTag :=
  acts_mustacheBody.comp acts_skipBlanks

/-! ## Start tags, end tags and raw text -/

theorem acts_closeAngle : Acts p closeAngle :=
  .comp (f := skipBlanks) (.ifNext '>' (.advance 1) (.raise _)) acts_skipBlanks

theorem procedure_endTag [AllowsPlain p] : Procedure p endTag := by
  refine .after (Procedure.comp
    (procedure_scan (.ofList [.endTagName, .erroneousEndTagName]) rfl rfl ⟨rfl, rfl⟩)
    (.advance 2)) ?_
  rintro (_ | kind)
  · refine ⟨_, fun r last hscan => by rw [endTag, hscan], ?_⟩
    exact Acts.pair (acts_closeAngle.comp (.raise _)) _
  · exact ⟨_, fun r last hscan => by rw [endTag, hscan], acts_closeAngle.pair _⟩

theorem acts_rawTextBody [AllowsPlain p] : Acts p rawTextBody := by
  refine .after (procedure_scan (.singleton .rawText) rfl rfl ⟨rfl, rfl⟩) fun kind? =>
    ⟨_, fun r last hscan => by rw [rawTextBody, hscan], ?_⟩
  refine .byPlace fun here _ => ⟨_, fun r hplace _ => by simp only [ahead, hplace]; rfl, ?_⟩
  exact Acts.ite procedure_endTag.acts (.raise _)

/-! ### Attributes -/

theorem acts_quotedValue (quote : Char) : Acts p (quotedValue quote) := by
  refine .byPlace fun here _ => ⟨_, fun r hplace _ => by rw [quotedValue, ahead, hplace], ?_⟩
  cases here.ahead.idxOf? quote with
  | none => exact Acts.comp .toEnd (.raise _)
  | some n => exact .advance _

theorem acts_attributeValue : Acts p attributeValue := by
  refine .byPlace fun here _ => ⟨_, fun r hplace _ => by rw [attributeValue, next?, hplace], ?_⟩
  cases here.next? with
  | none => exact .done ()
  | some c => exact Acts.ite ((acts_quotedValue c).comp (.advance 1)) (acts_skipWhile _)

theorem acts_oneAttribute : Acts p oneAttribute := by
  have hvalue : Acts p fun r =>
      if r.next? = some '=' then (r.advance 1).skipBlanks.attributeValue else r :=
    .ifNext '=' (acts_attributeValue.comp (acts_skipBlanks.comp (.advance 1))) .id
  refine .byPlace fun here _ => ⟨_, fun r hplace _ => by rw [oneAttribute, next?, hplace], ?_⟩
  exact Acts.ite (hvalue.comp (acts_skipBlanks.comp (acts_skipWhile _)))
    (.comp (.advance 1) (.raise _))

/-- The outcome of a step through the attributes, beside its run. -/
def attributeOutcome (r : Run) : (Bool ⊕ Unit) × Run :=
  joinOutcome ((attributeStep r).map id ((), ·))

theorem procedure_attributeOutcome : Procedure NoStartTag attributeOutcome := by
  refine .after acts_skipBlanks fun _ => ⟨_, fun r last hskip => by
    rw [attributeOutcome, attributeStep, show r.skipBlanks = last from congrArg Prod.snd hskip], ?_⟩
  -- behind the blanks the character ahead decides: the end of the text, `>`, `/`, or a mustache tag
  -- or an attribute
  refine .byPlace fun here d => ⟨_, fun r hplace hdelimiters => by
    simp only [next?, atOpening, ahead, hplace, hdelimiters]; rfl, ?_⟩
  split
  · exact Acts.pair (.raise _) _
  · exact Acts.pair (.advance 1) _
  · refine .after (procedure_scan (.singleton .selfClosingTagDelimiter) rfl rfl ⟨rfl, rfl⟩) ?_
    rintro (_ | kind)
    · exact ⟨_, fun r last hscan => by rw [hscan]; rfl, Acts.pair (.comp (.advance 1) (.raise _)) _⟩
    · exact ⟨_, fun r last hscan => by rw [hscan]; rfl, .done _⟩
  · by_cases hopening : d.openingText.isPrefixOf here.ahead
    · simp only [if_pos hopening]
      refine .after (procedure_scan (.singleton .mustacheStartDelimiter) rfl rfl ⟨rfl, rfl⟩) ?_
      rintro (_ | kind)
      · exact ⟨_, fun r last hscan => by rw [hscan]; rfl, Acts.pair (.advance 1) _⟩
      · exact ⟨_, fun r last hscan => by rw [hscan]; rfl, acts_mustacheTag.pair _⟩
    · simp only [if_neg hopening]
      exact acts_oneAttribute.pair _

theorem procedure_attributes : Procedure NoStartTag attributes := by
  refine (Procedure.loop (fun _ size p => size - p.offset) (fun _ => false)
    (fun _ => procedure_attributeOutcome) ()).congr ?_
  intro r
  refine (loop_eq_iterate ((), ·) id ?_ ?_ ?_ r).symm
  · exact fun _ => rfl
  · exact fun _ => rfl
  · exact fun _ => rfl

/-! ### Start tags -/

theorem procedure_startTag : Procedure Unrestricted startTag := by
  refine .after (Procedure.comp
    (.scan (.ofList [.startTagName, .scriptStartTagName, .styleStartTagName]) trivial ⟨rfl, rfl⟩)
    (.advance 1)) ?_
  rintro (_ | kind)
  · exact ⟨_, fun r last hscan => by rw [startTag, hscan], Acts.pair (.raise _) _⟩
  refine ⟨_, fun r last hscan => by rw [startTag, hscan], ?_⟩
  dsimp only
  refine .after (procedure_attributes.mono fun _ _ => trivial) ?_
  rintro (_ | _)
  · exact ⟨_, fun r last hattributes => by rw [hattributes], .done _⟩
  · refine ⟨_, fun r last hattributes => by rw [hattributes], ?_⟩
    exact Procedure.ite (acts_rawTextBody.pair _) (.done _)

/-! ## Documents -/

theorem acts_declaration : Acts p declaration := by
  refine .byPlace fun here _ => ⟨_, fun r hplace _ => by rw [declaration, ahead, hplace], ?_⟩
  cases here.ahead.idxOf? '>' with
  | none => exact Acts.comp .toEnd (.raise _)
  | some n => exact .advance _

theorem procedure_markup : Procedure Unrestricted markup := by
  refine .byPlace fun here _ => ⟨_, fun r hplace _ => by rw [markup, ahead, hplace], ?_⟩
  -- at the end, an end tag, an open comment, a declaration, a start tag, or what is none of these
  split
  · exact .done _
  · exact .done _
  · exact Acts.pair (.comp .toEnd (.raise _)) _
  · exact acts_declaration.pair _
  · refine .after procedure_startTag ?_
    rintro (_ | _)
    · exact ⟨_, fun r last hstart => by rw [hstart], .done _⟩
    · exact ⟨_, fun r last hstart => by rw [hstart], .done _⟩
  · exact Acts.pair (.comp (.advance 1) (.raise _)) _

theorem noSectionEnd_contentTokens (inElement : Bool) : (contentTokens inElement).NoSectionEnd := by
  cases inElement <;> exact ⟨rfl, rfl⟩

theorem procedure_content (inElement : Bool) :
    Procedure Unrestricted fun r => r.content inElement := by
  refine .after (Procedure.comp
    (.scan (contentTokens inElement) trivial (noSectionEnd_contentTokens inElement))
    acts_skipBlanks) ?_
  rintro (_ | kind)
  · exact ⟨_, fun r last hscan => by rw [content, hscan], procedure_markup⟩
  · cases kind with
    | implicitEndTag => exact ⟨_, fun r last hscan => by rw [content, hscan], .done _⟩
    | mustacheStartDelimiter =>
      exact ⟨_, fun r last hscan => by rw [content, hscan],
        (acts_mustacheTag.pair _).mono fun _ _ => trivial⟩
    | _ => exact ⟨_, fun r last hscan => by rw [content, hscan], .done _⟩

/-- The outcome of a step through a document, beside its run. -/
def documentOutcome (depth : Nat) (r : Run) : (Unit ⊕ Nat) × Run :=
  joinOutcome ((documentStep (r, depth)).map ((), ·) Prod.swap)

theorem procedure_documentOutcome (depth : Nat) :
    Procedure Unrestricted (documentOutcome depth) := by
  refine .after (procedure_content (0 < depth)) ?_
  intro progress
  refine ⟨_, fun r last hcontent => by rw [documentOutcome, documentStep, hcontent], ?_⟩
  cases progress with
  | content => exact .done (Sum.inr depth)
  | elementBegun => exact .done (Sum.inr (depth + 1))
  | elementEnded => exact .done (Sum.inr (depth - 1))
  | endTagAhead =>
    refine .after procedure_endTag ?_
    rintro (_ | kind)
    · exact ⟨_, fun r last hend => by dsimp only; rw [hend]; rfl, .done (Sum.inr depth)⟩
    · cases kind with
      | endTagName =>
        exact ⟨_, fun r last hend => by dsimp only; rw [hend]; rfl, .done (Sum.inr (depth - 1))⟩
      | _ => exact ⟨_, fun r last hend => by dsimp only; rw [hend]; rfl, .done (Sum.inr depth)⟩
  | textEnded =>
    by_cases hdepth : depth = 0
    · simp only [if_pos hdepth]
      exact .done (Sum.inl ())
    · simp only [if_neg hdepth]
      exact Acts.pair (.raise .missingEndTag) (Sum.inr (depth - 1))

/-- A document is read by a procedure. -/
theorem acts_document : Acts Unrestricted document := by
  -- the depth is the value that the loop passes on from step to step
  refine (Procedure.loop (fun depth size p => 2 * (size - p.offset) + depth) (fun _ => ())
    procedure_documentOutcome 0).congr ?_
  intro r
  refine (loop_eq_iterate Prod.swap ((), ·) ?_ ?_ ?_ (r, 0)).symm
  · exact fun _ => rfl
  · exact fun _ => rfl
  · exact fun _ => rfl

end Document.Run

end TemplateScan
