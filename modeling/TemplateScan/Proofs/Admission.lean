import TemplateScan.Proofs.Document.Scans

/-!
# Only what is admissible is found

The scanner looks for a token because its kind is admissible, but which kind it is, the text may
tell: the name of a start tag may be that of a script or style element, a name in an end tag or in a
closing section tag may close nothing.  So some kinds come in the place of an admissible one, and a
comment of the markup comes anywhere.  Implied ends, delimiters and the changes that directives make
never do.

* `TokenKind.MayCome`: whether a kind may come where some are admissible; `mayCome_iff_contains`:
  most kinds may only where they are admissible themselves.
* `Finding.Admitted.mayCome`: what is admitted is of such a kind.
* `Finding.opening_apply`, `closing_apply`, `previousClosing_apply`: what sets the delimiters.
* `Scan.KeepsToValid`, `Scanner.scan_keepsToValid`: every scan keeps to what is admissible.
-/

namespace TemplateScan

open Text Mustache

namespace TokenKind

/-- Whether a token of the kind may come where the kinds of the set are admissible: it is one of
them, or comes in the place of one of them, or is a comment of the markup. -/
def MayCome (valid : TokenSet) (kind : TokenKind) : Prop :=
  valid.contains kind = true ∨ kind = .comment ∨
    ((kind = .scriptStartTagName ∨ kind = .styleStartTagName) ∧
      valid.contains .startTagName = true) ∨
    (kind = .erroneousEndTagName ∧ valid.contains .endTagName = true) ∨
    (kind = .mustacheEndSectionName ∧ valid.contains .mustacheErroneousEndSectionName = true) ∨
    (kind = .mustacheErroneousEndSectionName ∧ valid.contains .mustacheEndSectionName = true)

/-- Whether the kind is one of those that never come in the place of another: implied ends and all
delimiters. -/
def comesAsItself : TokenKind → Bool
  | .implicitEndTag | .selfClosingTagDelimiter | .mustacheStartDelimiter | .mustacheEndDelimiter
  | .mustacheSetStartDelimiter | .mustacheSetEndDelimiter | .mustacheOldEndDelimiter => true
  | _ => false

theorem mayCome_iff_contains {valid : TokenSet} {kind : TokenKind}
    (hitself : kind.comesAsItself = true) :
    kind.MayCome valid ↔ valid.contains kind = true := by
  cases kind <;> simp_all [MayCome, comesAsItself]

end TokenKind

namespace Finding

variable {finding : Finding} {valid : TokenSet} {kind : TokenKind}

/-- The kind of what is admitted may come. -/
theorem Admitted.mayCome (hadmitted : finding.Admitted valid)
    (hkind : finding.kind? = some kind) : kind.MayCome valid := by
  cases finding with
  | nothing => cases hkind
  | startTag tag =>
    -- the category of the element tells which kind comes in the place of a start tag name
    rw [kind?] at hkind
    split at hkind
    all_goals
      cases hkind
      simp_all [Admitted, TokenKind.MayCome]
  | sectionEnd | erroneousSectionEnd =>
    cases hkind
    rcases hadmitted with hvalid | hvalid <;> simp [TokenKind.MayCome, hvalid]
  | _ =>
    cases hkind
    simp_all [Admitted, TokenKind.MayCome]

section Apply

variable (finding) (s : ScanState)

/-- Only a directive that sets it changes the opening delimiter. -/
theorem opening_apply (hchanged : (finding.apply s).delimiters.opening ≠ s.delimiters.opening) :
    finding.kind? = some .mustacheSetStartDelimiter := by
  cases finding with
  | newOpening => rfl
  | _ => exact absurd rfl hchanged

/-- Only a directive that sets it changes the closing delimiter. -/
theorem closing_apply (hchanged : (finding.apply s).delimiters.closing ≠ s.delimiters.closing) :
    finding.kind? = some .mustacheSetEndDelimiter := by
  cases finding with
  | newClosing => rfl
  | _ => exact absurd rfl hchanged

/-- The one that was in force before changes with the closing delimiter and at the end of the
directive. -/
theorem previousClosing_apply
    (hchanged : (finding.apply s).delimiters.previousClosing ≠ s.delimiters.previousClosing) :
    finding.kind? = some .mustacheSetEndDelimiter ∨
      finding.kind? = some .mustacheOldEndDelimiter := by
  cases finding with
  | newClosing => exact Or.inl rfl
  | directiveEnd => exact Or.inr rfl
  | _ => exact absurd rfl hchanged

end Apply

end Finding

/-! ## Scans -/

/-- The scan finds only what may come, implied ends and delimiters only where they are admissible
themselves, and changes a delimiter only with a token of an admissible kind that does so. -/
structure Scan.KeepsToValid (scan : Scan) : Prop where
  mayCome : ∀ kind, scan.kind? = some kind → kind.MayCome scan.valid
  contains : ∀ kind, scan.kind? = some kind → kind.comesAsItself = true →
    scan.valid.contains kind = true
  implicitCloses : scan.after.counts.implicitCloses ≠ scan.before.counts.implicitCloses →
    scan.kind? = some .implicitEndTag ∧ scan.valid.contains .implicitEndTag = true
  opening : scan.after.state.delimiters.opening ≠ scan.before.state.delimiters.opening →
    scan.kind? = some .mustacheSetStartDelimiter ∧
      scan.valid.contains .mustacheSetStartDelimiter = true
  closing : scan.after.state.delimiters.closing ≠ scan.before.state.delimiters.closing →
    scan.kind? = some .mustacheSetEndDelimiter ∧
      scan.valid.contains .mustacheSetEndDelimiter = true
  previousClosing :
    scan.after.state.delimiters.previousClosing ≠ scan.before.state.delimiters.previousClosing →
      ∃ kind, (kind = .mustacheSetEndDelimiter ∨ kind = .mustacheOldEndDelimiter) ∧
        scan.kind? = some kind ∧ scan.valid.contains kind = true

/-- **A scan keeps to what is admissible.**  Whatever the scanner, its settings and its state,
whatever is admissible and wherever it is asked for, a scan finds only what may come there.  There
is no implied end, no delimiter and no change of a delimiter without a token of its own kind that is
admissible. -/
theorem Scanner.scan_keepsToValid (s : Scanner) (valid : TokenSet) (entry : Place) :
    (s.scan valid entry).KeepsToValid := by
  have hmay : ∀ kind, (s.scan valid entry).kind? = some kind → kind.MayCome valid :=
    fun kind hkind => (s.scan_admitted valid entry).mayCome hkind
  have hown : ∀ kind, (s.scan valid entry).kind? = some kind → kind.comesAsItself = true →
      valid.contains kind = true :=
    fun kind hkind hitself => (TokenKind.mayCome_iff_contains hitself).mp (hmay kind hkind)
  refine ⟨hmay, hown, ?_, ?_, ?_, ?_⟩
  · intro hcounted
    have hkind : (s.scan valid entry).kind? = some .implicitEndTag := by
      by_contra hother
      exact hcounted (if_neg hother)
    exact ⟨hkind, hown _ hkind rfl⟩
  · intro hchanged
    have hkind := Finding.opening_apply _ _ hchanged
    exact ⟨hkind, hown _ hkind rfl⟩
  · intro hchanged
    have hkind := Finding.closing_apply _ _ hchanged
    exact ⟨hkind, hown _ hkind rfl⟩
  · intro hchanged
    rcases Finding.previousClosing_apply _ _ hchanged with hkind | hkind
    · exact ⟨_, Or.inl rfl, hkind, hown _ hkind rfl⟩
    · exact ⟨_, Or.inr rfl, hkind, hown _ hkind rfl⟩

end TemplateScan
