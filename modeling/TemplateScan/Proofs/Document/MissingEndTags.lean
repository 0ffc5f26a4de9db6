import TemplateScan.Proofs.Document.NewElements
import TemplateScan.Proofs.Document.OpenElements

/-!
# Missing end tags

Where a document ends, an end tag is missing for each element that the depth still tells, and where
raw text ends with the text, one for its element.  No more are noted than elements are open, but for
comments: behind the `<` of a start tag, a scan for the name may find a comment in its place.  The
depth then tells an element that was never opened.

* `Keeps`: no more than so many elements are closed, and no end tag is noted as missing.
* `keeps_mustacheTag`, `keeps_attributes` and the like: what the parts of a document close.
* `Spares`: how many elements are open besides those whose end tags are noted as missing.
* `Covered.documentStep`: the depth tells no more of them than there are, step by step.
* `missingEndTags_le`: at the end, no more end tags are missing than elements are open.
-/

namespace TemplateScan

open Text

/-- A scan for the name in a start tag has found a comment. -/
def Event.isCommentForName : Event → Bool
  | .scanned _ valid (some .comment) => valid.contains .startTagName
  | _ => false

/-- No end of an element is admissible, so none is closed. -/
def TokenSet.NoElementEnd (valid : TokenSet) : Prop :=
  valid.contains .endTagName = false ∧ valid.contains .selfClosingTagDelimiter = false ∧
    valid.contains .implicitEndTag = false

theorem Nesting.size_le_size_pop {α : Type} (scopes : Nesting α) :
    scopes.size ≤ scopes.pop.size + 1 := by
  rw [size_pop]
  omega

namespace Finding

variable {s : ScanState} {valid : TokenSet}

/-- No token closes more than one element. -/
theorem size_le_apply (finding : Finding) (s : ScanState) :
    s.tags.size ≤ (finding.apply s).tags.size + 1 := by
  cases finding with
  | startTag tag => exact Nat.le_succ_of_le (Nat.le_succ _)
  | endTag | selfClosing | implicitEnd => exact s.tags.size_le_size_pop
  | _ => exact Nat.le_succ _

/-- A token closes an element only if it is one of the kinds for that, and admissible. -/
theorem size_le_apply_of_admitted {finding : Finding} (hadmitted : finding.Admitted valid)
    (hnone : ∀ kind, kind.closesElement = true → valid.contains kind = true →
      finding.kind? ≠ some kind) : s.tags.size ≤ (finding.apply s).tags.size := by
  cases finding with
  | endTag | selfClosing | implicitEnd => exact absurd rfl (hnone _ rfl hadmitted)
  | startTag tag => exact Nat.le_succ _
  | _ => exact Nat.le_refl _

end Finding

namespace Document

open TokenSet

/-- How many end tags are noted as missing. -/
def missingEndTags (issues : List Issue) : Nat :=
  issues.countP (·.cause = .missingEndTag)

namespace Run

/-- How many end tags are noted as missing so far. -/
def missing (r : Run) : Nat :=
  missingEndTags r.issues

/-- How many comments were found by scans for names in start tags. -/
def commentNames (r : Run) : Nat :=
  r.trace.countP Event.isCommentForName

/-- From one run to another, at most `k` elements are closed, and no end tag is noted as missing. -/
structure Keeps (k : Nat) (r last : Run) : Prop where
  checkpoint : last.checkpoint = r.checkpoint
  missing_eq : last.missing = r.missing
  openCount_le : r.checkpoint = false → r.openCount ≤ last.openCount + k
  commentNames_le : r.checkpoint = false → r.commentNames ≤ last.commentNames
  ahead_suffix : last.ahead <:+ r.ahead

section Keeps

variable {j k m : Nat} {r next last : Run}

theorem Keeps.refl : Keeps 0 r r :=
  ⟨rfl, rfl, fun _ => Nat.le_refl _, fun _ => Nat.le_refl _, List.suffix_rfl⟩

theorem Keeps.trans (hkeeps : Keeps j r next) (hlater : Keeps k next last) (hm : j + k = m) :
    Keeps m r last where
  checkpoint := by rw [hlater.checkpoint, hkeeps.checkpoint]
  missing_eq := by rw [hlater.missing_eq, hkeeps.missing_eq]
  openCount_le hplain := by
    have hfirst := hkeeps.openCount_le hplain
    have hsecond := hlater.openCount_le (hkeeps.checkpoint ▸ hplain)
    omega
  commentNames_le hplain :=
    Nat.le_trans (hkeeps.commentNames_le hplain)
      (hlater.commentNames_le (hkeeps.checkpoint ▸ hplain))
  ahead_suffix := hlater.ahead_suffix.trans hkeeps.ahead_suffix

theorem Keeps.mono (hkeeps : Keeps j r last) (hm : j ≤ m) : Keeps m r last where
  checkpoint := hkeeps.checkpoint
  missing_eq := hkeeps.missing_eq
  openCount_le hplain := Nat.le_trans (hkeeps.openCount_le hplain) (Nat.add_le_add_left hm _)
  commentNames_le := hkeeps.commentNames_le
  ahead_suffix := hkeeps.ahead_suffix

/-! ## Single moves -/

theorem keeps_moveTo {p : Place} (hsuffix : p.ahead <:+ r.ahead) : Keeps 0 r (r.moveTo p) :=
  ⟨rfl, rfl, fun _ => Nat.le_refl _, fun _ => Nat.le_refl _, hsuffix⟩

theorem keeps_advance (r : Run) (n : Nat) : Keeps 0 r (r.advance n) := by
  refine keeps_moveTo ?_
  rw [Place.advance_ahead]
  exact List.drop_suffix n r.ahead

theorem keeps_skipWhile (r : Run) (inClass : Char → Bool) : Keeps 0 r (r.skipWhile inClass) :=
  keeps_advance r _

theorem keeps_skipBlanks (r : Run) : Keeps 0 r r.skipBlanks :=
  keeps_skipWhile r _

theorem keeps_toEnd (r : Run) : Keeps 0 r r.toEnd :=
  keeps_moveTo List.nil_suffix

theorem missing_raise (r : Run) (cause : Cause) :
    (r.raise cause).missing = r.missing + if cause = .missingEndTag then 1 else 0 := by
  show missingEndTags (⟨cause, r.place.offset⟩ :: r.issues) = missingEndTags r.issues + _
  rw [missingEndTags, missingEndTags, List.countP_cons]
  simp only [decide_eq_true_eq]

/-- Any other issue is no missing end tag. -/
theorem keeps_raise (r : Run) {cause : Cause} (hcause : cause ≠ .missingEndTag) :
    Keeps 0 r (r.raise cause) where
  checkpoint := rfl
  missing_eq := by rw [missing_raise, if_neg hcause, Nat.add_zero]
  openCount_le _ := Nat.le_refl _
  commentNames_le _ := Nat.le_refl _
  ahead_suffix := List.suffix_rfl

end Keeps

/-! ## Scans -/

section Scan

variable {k : Nat} {r last : Run} {valid : TokenSet} {kind? : Option TokenKind}

/-- A scan closes what its finding closes. -/
theorem keeps_of_finding (hsize : r.scanner.state.tags.size ≤
      ((r.scanAhead valid).reading.finding.apply r.scanner.state).tags.size + k) :
    Keeps k r (r.scan valid).2 where
  checkpoint := r.checkpoint_scan valid
  missing_eq := by rw [missing, issues_scan, missing]
  openCount_le hplain := by
    rw [r.openCount_scan valid hplain]
    exact hsize
  commentNames_le hplain := by
    rw [commentNames, commentNames, trace_scan, beforeScan_eq_self hplain, List.countP_append]
    exact Nat.le_add_left _ _
  ahead_suffix := ahead_scan_suffix

theorem keeps_scan_one (hscan : r.scan valid = (kind?, last)) : Keeps 1 r last := by
  have hkeeps : Keeps 1 r (r.scan valid).2 := keeps_of_finding (Finding.size_le_apply _ _)
  rwa [hscan] at hkeeps

/-- A scan closes nothing if it does not find one of the kinds that do and are admissible. -/
theorem keeps_scan_of_ne (hscan : r.scan valid = (kind?, last))
    (hnone : ∀ kind, kind.closesElement = true → valid.contains kind = true →
      kind? ≠ some kind) : Keeps 0 r last := by
  have hkind := r.kind_scan valid
  rw [hscan] at hkind
  have hkeeps : Keeps 0 r (r.scan valid).2 := by
    apply keeps_of_finding
    apply Finding.size_le_apply_of_admitted (r.beforeScan.scanner.scan_admitted valid r.place)
    intro kind hcloses hvalid hfound
    exact hnone kind hcloses hvalid (hkind.trans hfound)
  rwa [hscan] at hkeeps

theorem keeps_scan (hscan : r.scan valid = (kind?, last)) (hvalid : valid.NoElementEnd) :
    Keeps 0 r last := by
  obtain ⟨hend, hself, himplied⟩ := hvalid
  apply keeps_scan_of_ne hscan
  intro kind hcloses hkind
  cases kind with
  | endTagName => exact absurd hkind (by simp [hend])
  | selfClosingTagDelimiter => exact absurd hkind (by simp [hself])
  | implicitEndTag => exact absurd hkind (by simp [himplied])
  | _ => cases hcloses

theorem keeps_expect {cause : Cause} (hvalid : valid.NoElementEnd)
    (hcause : cause ≠ .missingEndTag) : Keeps 0 r (r.expect valid cause) := by
  rw [expect]
  split
  · next hscan => exact keeps_scan hscan hvalid
  · next hscan => exact (keeps_scan hscan hvalid).trans (keeps_raise _ hcause) rfl

end Scan

/-! ## Mustache tags -/

section MustacheTag

variable {r : Run}

theorem keeps_closingDelimiter (r : Run) : Keeps 0 r r.closingDelimiter :=
  keeps_expect ⟨rfl, rfl, rfl⟩ (by decide)

theorem keeps_path (r : Run) : Keeps 0 r r.path := by
  refine iterate_related (R := Keeps 0) (f := id) (g := id) (fun _ => .refl)
    (fun hfirst hsecond => hfirst.trans hsecond rfl) ?_ (fun _ => rfl) r
  intro r
  rw [pathStep]
  split
  · next hscan => exact (keeps_scan hscan ⟨rfl, rfl, rfl⟩).trans (keeps_raise _ (by decide)) rfl
  · next hscan =>
    have hpart := keeps_scan hscan ⟨rfl, rfl, rfl⟩
    split
    · exact hpart.trans (keeps_advance _ 1) rfl
    · exact hpart

theorem keeps_skipPastClosing (r : Run) : Keeps 0 r r.skipPastClosing := by
  rw [skipPastClosing]
  split
  · exact keeps_advance r _
  · exact keeps_toEnd r

theorem keeps_rejectDirective (r : Run) : Keeps 0 r r.rejectDirective := by
  have hraise : Keeps 0 r (r.raise .rejectedDelimiterChange) := keeps_raise r (by decide)
  exact hraise.trans (keeps_skipPastClosing _) rfl

theorem keeps_directiveEnd (r : Run) : Keeps 0 r r.directiveEnd := by
  have hmark : Keeps 0 r
      (if r.next? = some '=' then r.advance 1 else r.raise .unexpectedCharacter) := by
    split
    · exact keeps_advance r 1
    · exact keeps_raise r (by decide)
  exact hmark.trans (keeps_expect ⟨rfl, rfl, rfl⟩ (by decide)) rfl

theorem keeps_directive (r : Run) : Keeps 0 r r.directive := by
  rw [directive]
  split
  · next hscan =>
    exact (keeps_scan hscan ⟨rfl, rfl, rfl⟩).trans (keeps_rejectDirective _) rfl
  · next hscan =>
    have hopening := keeps_scan hscan ⟨rfl, rfl, rfl⟩
    split
    · next hscan' =>
      exact (hopening.trans (keeps_scan hscan' ⟨rfl, rfl, rfl⟩) rfl).trans
        (keeps_rejectDirective _) rfl
    · next hscan' =>
      exact (hopening.trans (keeps_scan hscan' ⟨rfl, rfl, rfl⟩) rfl).trans
        (keeps_directiveEnd _) rfl

theorem keeps_mustacheComment (r : Run) : Keeps 0 r r.mustacheComment := by
  rw [mustacheComment]
  split
  · next hscan =>
    exact ((keeps_scan hscan ⟨rfl, rfl, rfl⟩).trans (keeps_raise _ (by decide)) rfl).trans
      (keeps_toEnd _) rfl
  · next hscan =>
    exact (keeps_scan hscan ⟨rfl, rfl, rfl⟩).trans (keeps_closingDelimiter _) rfl

theorem keeps_bracedPath (r : Run) : Keeps 0 r r.bracedPath := by
  have hpath : Keeps 0 r r.path.skipBlanks := (keeps_path r).trans (keeps_skipBlanks _) rfl
  rw [bracedPath]
  split
  · exact hpath.trans (keeps_advance _ 1) rfl
  · exact hpath

theorem keeps_mustacheBody (r : Run) : Keeps 0 r r.mustacheBody := by
  have hmark : Keeps 0 r (r.advance 1) := keeps_advance r 1
  -- each sort of tags but directives and comments ends with the closing delimiter
  have hclosed {next : Run} (hnext : Keeps 0 r next) : Keeps 0 r next.closingDelimiter :=
    hnext.trans (keeps_closingDelimiter next) rfl
  have hname {valid : TokenSet} (hvalid : valid.NoElementEnd) :
      Keeps 0 r ((r.advance 1).expect valid .missingSectionName) :=
    hmark.trans (keeps_expect hvalid (by decide)) rfl
  unfold mustacheBody
  split
  · exact hclosed (hname ⟨rfl, rfl, rfl⟩)
  · exact hclosed (hname ⟨rfl, rfl, rfl⟩)
  · exact hclosed (hname ⟨rfl, rfl, rfl⟩)
  · exact hmark.trans (keeps_mustacheComment _) rfl
  · exact hmark.trans (keeps_directive _) rfl
  · exact hclosed (hmark.trans (keeps_bracedPath _) rfl)
  · exact hclosed (hmark.trans (keeps_path _) rfl)
  · exact hclosed (hmark.trans (keeps_path _) rfl)
  · refine hclosed ?_
    split
    · exact hmark
    · exact keeps_path r
  · exact hclosed (keeps_path r)

theorem keeps_mustacheTag (r : Run) : Keeps 0 r r.mustacheTag :=
  (keeps_skipBlanks r).trans (keeps_mustacheBody _) rfl

end MustacheTag

/-! ## Start tags and end tags -/

section ElementTag

variable {r last : Run}

theorem keeps_closeAngle (r : Run) : Keeps 0 r r.closeAngle := by
  rw [closeAngle]
  split
  · exact (keeps_skipBlanks r).trans (keeps_advance _ 1) rfl
  · exact (keeps_skipBlanks r).trans (keeps_raise _ (by decide)) rfl

/-- An end tag closes one element if it finds the name of that, and none otherwise. -/
theorem keeps_endTag (r : Run) :
    Keeps (if r.endTag.1 = some .endTagName then 1 else 0) r r.endTag.2 := by
  have hmarks : Keeps 0 r (r.advance 2) := keeps_advance r 2
  rw [endTag]
  split
  · next name hscan =>
    have hname : Keeps 0 (r.advance 2) name := by
      apply keeps_scan_of_ne hscan
      intro kind _ _ hfound
      cases hfound
    exact ((hmarks.trans hname rfl).trans (keeps_raise _ (by decide)) rfl).trans
      (keeps_closeAngle _) rfl
  · next kind name hscan =>
    by_cases hkind : kind = .endTagName
    · subst hkind
      exact (hmarks.trans (keeps_scan_one hscan) rfl).trans (keeps_closeAngle _) rfl
    · -- no other admissible kind closes an element
      have hname : Keeps 0 (r.advance 2) name := by
        apply keeps_scan_of_ne hscan
        rintro other hcloses hvalid hfound
        obtain rfl := Option.some.inj hfound
        cases kind with
        | endTagName => exact hkind rfl
        | selfClosingTagDelimiter | implicitEndTag => cases hvalid
        | _ => cases hcloses
      rw [if_neg (fun hfound => hkind (Option.some.inj hfound))]
      exact (hmarks.trans hname rfl).trans (keeps_closeAngle _) rfl

theorem keeps_quotedValue (r : Run) (quote : Char) : Keeps 0 r (r.quotedValue quote) := by
  rw [quotedValue]
  split
  · exact keeps_advance r _
  · exact (keeps_raise r (by decide)).trans (keeps_toEnd _) rfl

theorem keeps_attributeValue (r : Run) : Keeps 0 r r.attributeValue := by
  rw [attributeValue]
  split
  · exact .refl
  · split
    · exact (keeps_advance r 1).trans (keeps_quotedValue _ _) rfl
    · exact keeps_skipWhile r _

theorem keeps_oneAttribute (r : Run) : Keeps 0 r r.oneAttribute := by
  rw [oneAttribute]
  split
  · have hname : Keeps 0 r (r.skipWhile isAttributeNameChar).skipBlanks :=
      (keeps_skipWhile r _).trans (keeps_skipBlanks _) rfl
    dsimp only
    split
    · have hsign := (hname.trans (keeps_advance _ 1) rfl).trans (keeps_skipBlanks _) rfl
      exact hsign.trans (keeps_attributeValue _) rfl
    · exact hname
  · exact (keeps_raise r (by decide)).trans (keeps_advance _ 1) rfl

/-- A start tag closes an element only where no content follows. -/
theorem keeps_attributeStep (r : Run) :
    (attributeStep r).elim (fun result => Keeps (if result.1 then 0 else 1) r result.2)
      (Keeps 0 r) := by
  have hblanks : Keeps 0 r r.skipBlanks := keeps_skipBlanks r
  rw [attributeStep]
  split
  · exact hblanks.trans ((keeps_raise _ (by decide)).mono (Nat.zero_le 1)) rfl
  · exact hblanks.trans (keeps_advance _ 1) rfl
  · split
    · next hscan => exact hblanks.trans (keeps_scan_one hscan) rfl
    · next slash hscan =>
      -- a scan that finds nothing opens and ends nothing
      have hslash : Keeps 0 r slash := by
        refine hblanks.trans (keeps_scan_of_ne hscan ?_) rfl
        intro kind _ _ hfound
        cases hfound
      exact (hslash.trans (keeps_raise _ (by decide)) rfl).trans (keeps_advance _ 1) rfl
  · split
    · split
      · next hscan =>
        exact (hblanks.trans (keeps_scan hscan ⟨rfl, rfl, rfl⟩) rfl).trans
          (keeps_mustacheTag _) rfl
      · next hscan =>
        exact (hblanks.trans (keeps_scan hscan ⟨rfl, rfl, rfl⟩) rfl).trans
          (keeps_advance _ 1) rfl
    · exact hblanks.trans (keeps_oneAttribute _) rfl

theorem keeps_attributes (r : Run) :
    Keeps (if r.attributes.1 then 0 else 1) r r.attributes.2 := by
  refine iterate_induction (Keeps 0 r)
    (fun result : Bool × Run => Keeps (if result.1 then 0 else 1) r result.2) ?_ ?_ ?_ .refl
  · intro next result hnext hstop
    have hstep := keeps_attributeStep next
    rw [hstop] at hstep
    exact hnext.trans hstep (Nat.zero_add _)
  · intro next later hnext hgo
    have hstep := keeps_attributeStep next
    rw [hgo] at hstep
    exact hnext.trans hstep rfl
  · exact fun next hnext => hnext.mono (Nat.zero_le 1)

end ElementTag

/-! ## Elements -/

/-- How many elements are open, with the comments in the place of names, besides those whose end
tags are noted as missing. -/
def spare (r : Run) : Int :=
  r.openCount + r.commentNames - r.missing

/-- An end tag was noted as missing only if no slash is ahead, and so none of another element. -/
def Settled (r : Run) : Prop :=
  r.missing = 0 ∨ '/' ∉ r.ahead

/-- From one run to another without snapshots, at least `k` elements more are open besides those
whose end tags are noted as missing, and of no element is this noted while an end tag is still
ahead. -/
structure Spares (k : Int) (r last : Run) : Prop where
  checkpoint : last.checkpoint = r.checkpoint
  spare_le : r.checkpoint = false → r.spare + k ≤ last.spare
  settled : r.checkpoint = false → r.Settled → last.Settled

section Spares

variable {j k m : Int} {n : Nat} {r next last : Run}

theorem Spares.trans (hspares : Spares j r next) (hlater : Spares k next last) (hm : j + k = m) :
    Spares m r last where
  checkpoint := by rw [hlater.checkpoint, hspares.checkpoint]
  spare_le hplain := by
    have hfirst := hspares.spare_le hplain
    have hsecond := hlater.spare_le (hspares.checkpoint ▸ hplain)
    omega
  settled hplain hr :=
    hlater.settled (hspares.checkpoint ▸ hplain) (hspares.settled hplain hr)

theorem Settled.of_suffix (hr : r.Settled) (hmissing : last.missing = r.missing)
    (hsuffix : last.ahead <:+ r.ahead) : last.Settled := by
  rcases hr with hnone | hslash
  · exact Or.inl (hmissing.trans hnone)
  · exact Or.inr fun hmem => hslash (hsuffix.subset hmem)

theorem Keeps.spares (hkeeps : Keeps n r last) (hk : k = -n) : Spares k r last where
  checkpoint := hkeeps.checkpoint
  spare_le hplain := by
    have hopen := hkeeps.openCount_le hplain
    have hnames := hkeeps.commentNames_le hplain
    rw [spare, spare, hkeeps.missing_eq]
    omega
  settled _ hr := hr.of_suffix hkeeps.missing_eq hkeeps.ahead_suffix

/-- An end tag may be noted as missing where no slash is ahead any more. -/
theorem spares_missingEndTag (hslash : r.checkpoint = false → '/' ∉ r.ahead) :
    Spares (-1) r (r.raise .missingEndTag) where
  checkpoint := rfl
  spare_le _ := by
    have hmissing : (r.raise .missingEndTag).missing = r.missing + 1 := missing_raise r _
    have hopen : (r.raise .missingEndTag).openCount = r.openCount := rfl
    have hnames : (r.raise .missingEndTag).commentNames = r.commentNames := rfl
    rw [spare, spare, hmissing, hopen, hnames]
    omega
  settled hplain _ := Or.inr (hslash hplain)

end Spares

section ElementTag

variable {r last : Run} {kind : TokenKind}

/-- A scan for the name in a start tag finds nothing, a comment or the name. -/
theorem finding_cases_of_startTagNames {finding : Finding}
    (hadmitted : finding.Admitted startTagNames) :
    finding = .nothing ∨ finding = .comment ∨ ∃ tag, finding = .startTag tag := by
  cases finding with
  | nothing => exact Or.inl rfl
  | comment => exact Or.inr (Or.inl rfl)
  | startTag tag => exact Or.inr (Or.inr ⟨tag, rfl⟩)
  | sectionEnd | erroneousSectionEnd =>
    rcases hadmitted with hvalid | hvalid
    · cases hvalid
    · cases hvalid
  | _ => cases hadmitted

/-- Where it finds something, it opens an element or has taken a comment for a name. -/
theorem opens_or_comment_of_scan (hplain : r.checkpoint = false)
    (hscan : r.scan startTagNames = (some kind, last)) :
    last.openCount = r.openCount + 1 ∨ kind = .comment ∧ last.openCount = r.openCount ∧
      last.commentNames = r.commentNames + 1 := by
  have hkind := r.kind_scan startTagNames
  have hcount := r.openCount_scan startTagNames hplain
  have htrace := r.trace_scan startTagNames
  have hadmitted : (r.scanAhead startTagNames).reading.finding.Admitted startTagNames :=
    r.beforeScan.scanner.scan_admitted startTagNames r.place
  rw [hscan, Scan.kind?] at hkind
  rw [hscan] at hcount
  rw [hscan, beforeScan_eq_self hplain, Scan.events, Scan.kind?] at htrace
  -- of a comment the count of comments tells, and of a name the count of open elements
  rcases finding_cases_of_startTagNames hadmitted with hfound | hfound | ⟨tag, hfound⟩
  · rw [hfound] at hkind
    cases hkind
  · rw [hfound] at hkind hcount htrace
    refine Or.inr ⟨Option.some.inj hkind, hcount, ?_⟩
    rw [commentNames, htrace]
    exact List.countP_cons_of_pos rfl
  · rw [hfound] at hcount
    exact Or.inl hcount

theorem spares_scan_startTagName
    (hscan : r.scan startTagNames = (some kind, last)) : Spares 1 r last := by
  have hkeeps : Keeps 0 r last := keeps_scan hscan ⟨rfl, rfl, rfl⟩
  refine ⟨hkeeps.checkpoint, ?_, (hkeeps.spares rfl).settled⟩
  intro hplain
  have hnames := hkeeps.commentNames_le hplain
  have hgain := opens_or_comment_of_scan hplain hscan
  rw [spare, spare, hkeeps.missing_eq]
  omega

/-- Reading the body of an open element closes it, or notes that its end tag is missing. -/
theorem spares_rawTextBody (hopen : r.checkpoint = false → 0 < r.openCount) :
    Spares (-1) r r.rawTextBody := by
  have hbody : Keeps 0 r (r.scan (.singleton .rawText)).2 := keeps_scan rfl ⟨rfl, rfl, rfl⟩
  rw [rawTextBody]
  split
  · have hend : Keeps 1 (r.scan (.singleton .rawText)).2 _ :=
      (keeps_endTag _).mono (by split <;> omega)
    exact (hbody.trans hend rfl).spares rfl
  · next hmarks =>
    refine (hbody.spares (k := 0) rfl).trans (spares_missingEndTag ?_) rfl
    intro hbehind hslash
    have hplain : r.checkpoint = false := hbody.checkpoint ▸ hbehind
    obtain ⟨-, -, hend⟩ := rawText_of_scan hplain (hopen hplain)
    rw [List.isPrefixOf_iff_prefix] at hmarks
    cases List.mem_singleton.mp ((hend hmarks).subset hslash)

/-- Where content follows a start tag, its element is open or has a comment in the place of its
name, and elsewhere it has been closed or lacks its end tag. -/
theorem spares_startTag {goesOn : Bool} (hstart : r.startTag = (goesOn, last)) :
    Spares (if goesOn then 1 else 0) r last := by
  have hmark : Keeps 0 r (r.advance 1) := keeps_advance r 1
  rw [startTag] at hstart
  split at hstart
  · next hscan =>
    cases hstart
    have hname := hmark.trans (keeps_scan hscan ⟨rfl, rfl, rfl⟩) rfl
    exact (hname.trans (keeps_raise _ (by decide)) rfl).spares rfl
  · next kind name hscan =>
    have hname : Spares 1 r name := (hmark.spares rfl).trans (spares_scan_startTagName hscan)
      (Int.zero_add 1)
    have hattributes := keeps_attributes name
    split at hstart
    · next hend =>
      rw [hend] at hattributes
      cases hstart
      exact hname.trans (hattributes.spares rfl) rfl
    · next body hend =>
      rw [hend] at hattributes
      replace hattributes : Keeps 0 name body := hattributes
      have hbody : Spares 1 r body := hname.trans (hattributes.spares rfl) rfl
      split at hstart
      · next hraw =>
        -- the name is that of a script or style, so its element is open where its body begins
        cases hstart
        refine hbody.trans (spares_rawTextBody ?_) rfl
        intro hplain
        have hbefore : (r.advance 1).checkpoint = false := hbody.checkpoint ▸ hplain
        have hkeeps := hattributes.openCount_le (hattributes.checkpoint ▸ hplain)
        rcases opens_or_comment_of_scan hbefore hscan with hopen | ⟨rfl, -⟩
        · omega
        · cases hraw
      · cases hstart
        exact hbody

end ElementTag

/-! ## Documents -/

section Document

variable {r last : Run} {progress : Progress} {depth : Nat}

theorem keeps_declaration (r : Run) : Keeps 0 r r.declaration := by
  rw [declaration]
  split
  · exact keeps_advance r _
  · exact (keeps_raise r (by decide)).trans (keeps_toEnd _) rfl

/-- What is not told by a token spares as many elements as begin. -/
theorem spares_markup (hmarkup : r.markup = (progress, last)) : Spares progress.gain r last := by
  unfold markup at hmarkup
  split at hmarkup
  · cases hmarkup
    exact Keeps.refl.spares rfl
  · cases hmarkup
    exact Keeps.refl.spares rfl
  · cases hmarkup
    exact ((keeps_raise r (by decide)).trans (keeps_toEnd _) rfl).spares rfl
  · cases hmarkup
    exact (keeps_declaration r).spares rfl
  · split at hmarkup
    all_goals
      next hstart =>
      cases hmarkup
      exact spares_startTag hstart
  · cases hmarkup
    exact ((keeps_raise r (by decide)).trans (keeps_advance _ 1) rfl).spares rfl

theorem spares_content {inElement : Bool} (hcontent : r.content inElement = (progress, last)) :
    Spares progress.gain r last := by
  have hblanks : Keeps 0 r r.skipBlanks := keeps_skipBlanks r
  -- of the kinds that close an element, only the implied end is admissible
  have hother {kind? : Option TokenKind} {next : Run} (himplied : kind? ≠ some .implicitEndTag)
      (hscan : r.skipBlanks.scan (contentTokens inElement) = (kind?, next)) : Keeps 0 r next := by
    refine hblanks.trans (keeps_scan_of_ne hscan ?_) rfl
    intro kind hcloses hvalid
    cases kind with
    | implicitEndTag => exact himplied
    | endTagName | selfClosingTagDelimiter => cases inElement <;> cases hvalid
    | _ => cases hcloses
  rw [content] at hcontent
  split at hcontent
  · next hscan =>
    cases hcontent
    exact (hblanks.trans (keeps_scan_one hscan) rfl).spares rfl
  · next hscan =>
    cases hcontent
    exact ((hother (by decide) hscan).trans (keeps_mustacheTag _) rfl).spares rfl
  · next kind _ himplied _ hscan =>
    cases hcontent
    exact (hother (fun hkind => himplied (Option.some.inj hkind)) hscan).spares rfl
  · next hscan =>
    exact ((hother (by decide) hscan).spares (k := 0) rfl).trans (spares_markup hcontent)
      (Int.zero_add _)

/-- In a state of reading a document without snapshots, the depth tells no more elements than are
open besides those whose end tags are noted as missing. -/
structure Covered (r : Run) (depth : Nat) : Prop where
  plain : r.checkpoint = false
  depth_le : depth ≤ r.spare
  settled : r.Settled

theorem Covered.of_spares {k : Int} {depth' : Nat} (hcovered : Covered r depth)
    (hspares : Spares k r last) (hdepth : (depth' : Int) ≤ depth + k) : Covered last depth' where
  plain := hspares.checkpoint.trans hcovered.plain
  depth_le := by
    have hless := hcovered.depth_le
    have hspare := hspares.spare_le hcovered.plain
    omega
  settled := hspares.settled hcovered.plain hcovered.settled

/-- **The depth tells no more elements than are open**, step by step. -/
theorem Covered.documentStep (hcovered : Covered r depth) :
    (documentStep (r, depth)).elim (Covered · 0) fun next => Covered next.1 next.2 := by
  rcases hx : r.content (0 < depth) with ⟨progress, last⟩
  have hcontent := spares_content hx
  have hleads := @contentLeads_content [] r (0 < depth)
  rw [hx] at hleads
  rw [Run.documentStep, hx]
  cases progress with
  | content => exact hcovered.of_spares hcontent (by simp [Progress.gain])
  | elementBegun => exact hcovered.of_spares hcontent (by simp [Progress.gain])
  | elementEnded =>
    have hdepth : 0 < depth := of_decide_eq_true hleads.2
    exact hcovered.of_spares hcontent (by simp only [Progress.gain]; omega)
  | endTagAhead =>
    have hlast : Covered last depth := hcovered.of_spares hcontent (by simp [Progress.gain])
    have hend := keeps_endTag last
    dsimp only
    split
    · next hname =>
      rw [hname] at hend
      replace hend : Keeps 1 last _ := hend
      rcases Nat.eq_zero_or_pos depth with rfl | hdepth
      · -- the slash of the end tag is ahead, so nothing is noted as missing
        have hnone : last.missing = 0 :=
          hlast.settled.resolve_right (absurd (hleads.2.subset (by simp)))
        refine ⟨hend.checkpoint.trans hlast.plain, ?_, (hend.spares rfl).settled hlast.plain
          hlast.settled⟩
        rw [spare, hend.missing_eq, hnone]
        omega
      · exact hlast.of_spares (hend.spares rfl) (by omega)
    · next kind? next hother hname =>
      rw [hname, if_neg hother] at hend
      exact hlast.of_spares (hend.spares rfl) (by omega)
  | textEnded =>
    have hlast : Covered last depth := hcovered.of_spares hcontent (by simp [Progress.gain])
    dsimp only
    split
    · next hdepth => exact hdepth ▸ hlast
    · have hmissing : Spares (-1) last (last.raise .missingEndTag) := by
        apply spares_missingEndTag
        intro _
        rw [ahead_of_textEnded hx]
        exact List.not_mem_nil
      exact hlast.of_spares hmissing (by omega)

theorem covered_start (config : ScanConfig) (text : String) :
    Covered (start (.new config) false text) 0 where
  plain := rfl
  depth_le := Int.le_refl 0
  settled := Or.inl rfl

theorem covered_document (hcovered : Covered r 0) : Covered r.document 0 := by
  refine iterate_induction (fun s : Run × Nat => Covered s.1 s.2) (Covered · 0) ?_ ?_ ?_ hcovered
  · rintro ⟨r, depth⟩ last hr hstop
    have hstep := hr.documentStep
    rwa [hstop] at hstep
  · rintro ⟨r, depth⟩ next hr hgo
    have hstep := hr.documentStep
    rwa [hgo] at hstep
  · exact fun s hs => hs.of_spares (Keeps.refl.spares rfl) (by omega)

end Document

end Run

/-- **No end tag is missing of what is not open.**  At no time does the depth tell more elements
than are open, and at the end no more end tags are noted as missing than elements are open.  Each
comment that a scan for the name in a start tag has found counts as an open element here. -/
theorem missingEndTags_le (config : ScanConfig) (text : String) :
    (∀ r depth, Relation.ReflTransGen (fun s next => Run.documentStep s = .inr next)
        (Run.start (.new config) false text, 0) (r, depth) →
      depth ≤ r.openCount + r.commentNames) ∧
    missingEndTags (parse config false text).issues ≤
      (parse config false text).openTags.length + (run config false text).commentNames := by
  constructor
  · -- by induction on the steps, along which `Covered` is kept
    intro r depth hreach
    have hcovered : ∀ s, Relation.ReflTransGen (fun s next => Run.documentStep s = .inr next)
        (Run.start (.new config) false text, 0) s → Run.Covered s.1 s.2 := by
      intro s hs
      induction hs with
      | refl => exact Run.covered_start config text
      | tail _ hgo ih =>
        have hstep := ih.documentStep
        rwa [hgo] at hstep
    have hdepth : (depth : Int) ≤ r.spare := (hcovered _ hreach).depth_le
    rw [Run.spare] at hdepth
    omega
  · -- the document ends at depth 0, so nothing is noted as missing but what is open
    have hspare := (Run.covered_document (Run.covered_start config text)).depth_le
    rw [Run.spare, Run.missing] at hspare
    show missingEndTags (Run.start (.new config) false text).document.issues.reverse ≤
      (Run.start (.new config) false text).document.scanner.state.tags.toList.length +
        (Run.start (.new config) false text).document.commentNames
    rw [Nesting.length_toList, missingEndTags, List.countP_reverse]
    rw [Run.openCount, missingEndTags] at hspare
    omega

/-- A comment in the place of a name. -/
def commentForName : String :=
  "<<!---->>"

/-- An end tag is noted as missing of it, though no element was opened. -/
theorem missingEndTags_commentForName :
    missingEndTags (parse {} false commentForName).issues = 1 ∧
      (parse {} false commentForName).openTags = [] := by
  decide +kernel

end Document

end TemplateScan
