import TemplateScan.Proofs.Document.Directive
import TemplateScan.Proofs.Document.Reading

/-!
# Directives as a whole

A new closing delimiter is looked for at one place only, in a directive behind the new opening one.
So reading a document consists of moves that set no closing delimiter and of whole directives, and
what both of them keep holds at the end.

* `Part`, `Reads`: such a part of reading a document, and any number of them.
* `reads_document`: a document is read in such parts.
* `OpeningFirst.document`: a run that has found a new closing delimiter has found a new opening one.
-/

namespace TemplateScan

open Text

/-- A new closing delimiter is found only where one is looked for. -/
theorem Finding.Admitted.contains_newClosing {valid : TokenSet} {finding : Finding}
    (hadmitted : finding.Admitted valid) (hkind : finding.kind? = some .mustacheSetEndDelimiter) :
    valid.contains .mustacheSetEndDelimiter = true := by
  cases finding with
  | newClosing => exact hadmitted
  | startTag tag =>
    rw [kind?] at hkind
    split at hkind <;> cases hkind
  | _ => cases hkind

namespace Document.Run

open Relation TokenSet

/-! ## Parts -/

/-- A part of reading a document: a move that sets no closing delimiter, or a directive. -/
inductive Part : Run → Run → Prop where
  | move {r next : Run} (hmove : Move NoNewClosing r next) : Part r next
  | directive (r : Run) : Part r r.directive

/-- A run comes from another by such parts. -/
abbrev Reads : Run → Run → Prop :=
  ReflTransGen Part

section Reads

variable {r last : Run} {f : Run → Run}

theorem Procedure.reads {α : Type} {c : Run → α × Run} (hc : Procedure NoNewClosing c) (r : Run) :
    Reads r (c r).2 :=
  ReflTransGen.mono (fun _ _ => Part.move) _ _ (hc.reaches r)

theorem Acts.reads (hf : Acts NoNewClosing f) (r : Run) : Reads r (f r) :=
  Procedure.reads hf r

theorem reads_of_scan {valid : TokenSet} {kind? : Option TokenKind}
    (hscan : r.scan valid = (kind?, last)) (hvalid : valid.NoNewClosing) :
    Reads r last := by
  have hmove := Part.move (.scan r hvalid)
  rw [hscan] at hmove
  exact .single hmove

/-! ### Mustache tags and start tags -/

theorem reads_mustacheBody (r : Run) : Reads r r.mustacheBody := by
  unfold mustacheBody
  -- of all sorts only a directive may set a closing delimiter, and it is a part by itself
  split
  · exact (acts_sectionTag (.singleton .mustacheSectionName) rfl rfl).reads r
  · exact (acts_sectionTag (.singleton .mustacheSectionName) rfl rfl).reads r
  · exact (acts_sectionTag
      (.ofList [.mustacheEndSectionName, .mustacheErroneousEndSectionName]) rfl rfl).reads r
  · exact (acts_mustacheComment.comp (.advance 1)).reads r
  · exact .tail (.single (.move (.advance r 1))) (.directive (r.advance 1))
  · exact (acts_closingDelimiter.comp (acts_bracedPath.comp (.advance 1))).reads r
  · exact (acts_closingDelimiter.comp (acts_path.comp (.advance 1))).reads r
  · exact (acts_closingDelimiter.comp (acts_path.comp (.advance 1))).reads r
  · exact (acts_closingDelimiter.comp (.ite (.advance 1) acts_path)).reads r
  · exact (acts_closingDelimiter.comp acts_path).reads r

theorem reads_mustacheTag (r : Run) : Reads r r.mustacheTag :=
  (acts_skipBlanks.reads r).trans (reads_mustacheBody r.skipBlanks)

theorem reads_attributeStep (r : Run) : Reads r ((attributeStep r).elim Prod.snd id) := by
  have hblanks : Reads r r.skipBlanks := acts_skipBlanks.reads r
  rw [attributeStep]
  -- at the end, `>`, `/`, or what may be a mustache tag and with it a directive
  split
  · exact hblanks.trans ((Procedure.raise _).reads r.skipBlanks)
  · exact hblanks.trans ((Procedure.advance 1).reads r.skipBlanks)
  · split
    · next hscan => exact hblanks.trans (reads_of_scan hscan rfl)
    · next last hscan =>
      exact (hblanks.trans (reads_of_scan hscan rfl)).trans
        (Acts.reads (.comp (.advance 1) (.raise .unexpectedCharacter)) last)
  · split
    · split
      · next last hscan =>
        exact (hblanks.trans (reads_of_scan hscan rfl)).trans (reads_mustacheTag last)
      · next last hscan =>
        exact (hblanks.trans (reads_of_scan hscan rfl)).trans ((Procedure.advance 1).reads last)
    · exact hblanks.trans (acts_oneAttribute.reads r.skipBlanks)

theorem reads_attributes (r : Run) : Reads r r.attributes.2 :=
  iterate_related (R := Reads) (f := id) (g := Prod.snd) (fun _ => .refl) ReflTransGen.trans
    reads_attributeStep (fun _ => rfl) r

theorem reads_startTag (r : Run) : Reads r r.startTag.2 := by
  have hmark : Reads r (r.advance 1) := (Procedure.advance 1).reads r
  rw [startTag]
  split
  · next last hscan =>
    exact (hmark.trans (reads_of_scan hscan rfl)).trans ((Procedure.raise _).reads last)
  · next kind name hscan =>
    have hattributes := (hmark.trans (reads_of_scan hscan rfl)).trans (reads_attributes name)
    split
    · next hend => rwa [hend] at hattributes
    · next body hend =>
      rw [hend] at hattributes
      split
      · exact hattributes.trans (acts_rawTextBody.reads body)
      · exact hattributes

/-! ### Documents -/

theorem reads_markup (r : Run) : Reads r r.markup.2 := by
  unfold markup
  split
  · exact .refl
  · exact .refl
  · exact Acts.reads (.comp .toEnd (.raise .unterminatedComment)) r
  · exact acts_declaration.reads r
  · have hstart := reads_startTag r
    split
    · next heq => rwa [heq] at hstart
    · next heq => rwa [heq] at hstart
  · exact Acts.reads (.comp (.advance 1) (.raise .unexpectedCharacter)) r

theorem reads_content (r : Run) (inElement : Bool) : Reads r (r.content inElement).2 := by
  have hvalid : (contentTokens inElement).NoNewClosing := by cases inElement <;> rfl
  have hblanks : Reads r r.skipBlanks := acts_skipBlanks.reads r
  rw [content]
  split
  · next hscan => exact hblanks.trans (reads_of_scan hscan hvalid)
  · next tag hscan =>
    exact (hblanks.trans (reads_of_scan hscan hvalid)).trans (reads_mustacheTag tag)
  · next hscan => exact hblanks.trans (reads_of_scan hscan hvalid)
  · next next hscan =>
    exact (hblanks.trans (reads_of_scan hscan hvalid)).trans (reads_markup next)

theorem reads_documentStep (s : Run × Nat) : Reads s.1 ((documentStep s).elim id Prod.fst) := by
  obtain ⟨r, depth⟩ := s
  have hcontent := reads_content r (0 < depth)
  rw [documentStep]
  rcases hx : r.content (0 < depth) with ⟨progress, last⟩
  rw [hx] at hcontent
  cases progress with
  | content | elementBegun | elementEnded => exact hcontent
  | endTagAhead =>
    -- the end tag is read whether it ends an element or not
    have hend : Reads r last.endTag.2 := hcontent.trans (procedure_endTag.reads last)
    dsimp only
    split
    · next heq => rwa [heq] at hend
    · next heq => rwa [heq] at hend
  | textEnded =>
    dsimp only
    split
    · exact hcontent
    · exact hcontent.trans ((Procedure.raise .missingEndTag).reads last)

/-- A document is read in parts, and each directive is one of them. -/
theorem reads_document (r : Run) : Reads r r.document :=
  iterate_related (R := Reads) (f := Prod.fst) (g := id) (fun _ => .refl) ReflTransGen.trans
    reads_documentStep (fun _ => rfl) (r, 0)

end Reads

/-! ## New delimiters -/

/-- No token of the kind has been found. -/
def NeverFound (kind : TokenKind) (r : Run) : Prop :=
  ∀ t ∈ r.tokens, t.kind ≠ kind

section NeverFound

variable {p : TokenSet → Prop} {r next last : Run} {kind : TokenKind} {valid : TokenSet}

theorem neverFound_scan_iff :
    NeverFound kind (r.scan valid).2 ↔ (r.scan valid).1 ≠ some kind ∧ NeverFound kind r := by
  rw [NeverFound, tokens_scan, Scan.token?, kind_scan]
  cases (r.scanAhead valid).kind? with
  | none => simp [NeverFound]
  | some found => simp [NeverFound]

/-- What has been found stays in memory. -/
theorem NeverFound.of_move (hmove : Move p r next) (hnext : NeverFound kind next) :
    NeverFound kind r := by
  cases hmove with
  | advance | toEnd | raise => exact hnext
  | scan => exact (neverFound_scan_iff.mp hnext).2

theorem NeverFound.of_reaches (hreach : Reaches p r last) (hlast : NeverFound kind last) :
    NeverFound kind r :=
  hreach.keeps (P := fun next => NeverFound kind next → NeverFound kind r)
    (fun _ _ hmove hr hnext => hr (hnext.of_move hmove)) id hlast

theorem neverFound_rejectDirective_iff :
    NeverFound kind r.rejectDirective ↔ NeverFound kind r := by
  rw [NeverFound, NeverFound, rejectDirective, skipPastClosing]
  split <;> rfl

/-- Only a new opening delimiter is found in the first half of a directive. -/
theorem openingHalf_kind (hsome : r.openingHalf.1 ≠ none) :
    r.openingHalf.1 = some .mustacheSetStartDelimiter := by
  rw [openingHalf, kind_scan, Scan.kind?] at hsome ⊢
  rcases Lexing.read_newOpening r.beforeScan.scanner.config r.beforeScan.scanner.state
    r.place.ahead with hnothing | ⟨spelling, hopening⟩
  · rw [scanAhead, Scanner.scan, hnothing] at hsome
    exact absurd rfl hsome
  · rw [scanAhead, Scanner.scan, hopening]
    rfl

/-- Behind its first half, a directive is read by moves. -/
theorem reaches_directive (hsome : r.openingHalf.1 ≠ none) :
    Reaches Unrestricted r.openingHalf.2 r.directive := by
  have hclosing : Reaches Unrestricted r.openingHalf.2 r.closingHalf.2 :=
    .single (.scan r.openingHalf.2 trivial)
  rw [directive_eq, if_neg (by rwa [Option.isNone_iff_eq_none])]
  split
  · exact hclosing.trans (acts_rejectDirective.reaches _)
  · exact hclosing.trans (acts_directiveEnd.reaches _)

/-- A closing delimiter is set only where an opening one was set before. -/
def OpeningFirst (r : Run) : Prop :=
  NeverFound .mustacheSetStartDelimiter r → NeverFound .mustacheSetEndDelimiter r

theorem OpeningFirst.move (hmove : Move NoNewClosing r next) (hr : r.OpeningFirst) :
    next.OpeningFirst := by
  intro hnext
  have hnever := hr (hnext.of_move hmove)
  cases hmove with
  | advance | toEnd | raise => exact hnever
  | @scan valid hvalid =>
    refine neverFound_scan_iff.mpr ⟨?_, hnever⟩
    intro hkind
    -- the scan would have been one for a new closing delimiter
    rw [kind_scan, Scan.kind?] at hkind
    have hadmitted := (r.beforeScan.scanner.scan_admitted valid r.place).contains_newClosing hkind
    rw [hvalid] at hadmitted
    cases hadmitted

theorem OpeningFirst.directive (hr : r.OpeningFirst) : r.directive.OpeningFirst := by
  intro hnever
  by_cases hopening : r.openingHalf.1 = none
  · -- the directive is rejected at once, and nothing is found in it
    rw [directive_eq, if_pos (Option.isNone_iff_eq_none.mpr hopening)] at hnever ⊢
    rw [neverFound_rejectDirective_iff] at hnever ⊢
    refine neverFound_scan_iff.mpr ⟨?_, hr (neverFound_scan_iff.mp hnever).2⟩
    rw [← openingHalf, hopening]
    exact (Option.some_ne_none _).symm
  · -- a new opening delimiter is found, and it stays in memory
    have hhalf := hnever.of_reaches (reaches_directive hopening)
    exact absurd (openingHalf_kind hopening) (neverFound_scan_iff.mp hhalf).1

theorem OpeningFirst.reads (hr : r.OpeningFirst) (hread : Reads r last) : last.OpeningFirst := by
  induction hread with
  | refl => exact hr
  | tail _ hpart ih =>
    cases hpart with
    | move hmove => exact ih.move hmove
    | directive => exact ih.directive

/-- **There is no second half of a directive without the first.**  A document in which no new
opening delimiter is found is read without finding a new closing one. -/
theorem OpeningFirst.document (hr : r.OpeningFirst) : r.document.OpeningFirst :=
  hr.reads (reads_document r)

end NeverFound

end Document.Run

end TemplateScan
