import TemplateScan.Proofs.Document.Reading
import TemplateScan.Proofs.Document.Scans

/-!
# How many elements are open

The scanner has the open elements on a stack.  What each part of a document adds to them is counted,
as long as no issue is noted or there is still a name to come: an element that stays open behind its
part is one that the text ends in, and then an issue is noted of it.  An end tag behind raw text
that closes nothing leaves the element of the raw text open without an issue; these are counted
apart.

* `strayEnds`: the end tags behind raw text that close nothing.
* `Opens`: at most so many elements more are open behind a part than before it.
* `Procedure.opens`: what looks for no start tag opens no element.
* `opens_scan_of_closesElement`: the token that closes an element takes one away.
-/

namespace TemplateScan

open Text

/-! ## What findings do to the open elements -/

/-- Whether a token of the kind closes the innermost element. -/
def TokenKind.closesElement : TokenKind → Bool
  | .endTagName | .selfClosingTagDelimiter | .implicitEndTag => true
  | _ => false

namespace Nesting

variable {α : Type} {scopes : Nesting α}

@[simp] theorem size_pop : scopes.pop.size = scopes.size - 1 :=
  List.length_tail

theorem size_pos_of_not_isEmpty (hopen : scopes.isEmpty = false) : 0 < scopes.size :=
  List.length_pos_iff.mpr (List.isEmpty_eq_false_iff.mp hopen)

theorem exists_top? (hopen : 0 < scopes.size) : ∃ scope, scopes.top? = some scope :=
  ⟨_, List.head?_eq_some_head (List.length_pos_iff.mp hopen)⟩

end Nesting

namespace Finding

variable {s : ScanState} {valid : TokenSet} {text : List Char} {kind : TokenKind}

/-- No token opens more than one element. -/
theorem size_apply_le (finding : Finding) (s : ScanState) :
    (finding.apply s).tags.size ≤ s.tags.size + 1 := by
  cases finding with
  | startTag tag => exact Nat.le_refl _
  | endTag | selfClosing | implicitEnd =>
    show s.tags.pop.size ≤ s.tags.size + 1
    rw [Nesting.size_pop]
    omega
  | _ => exact Nat.le_succ _

/-- Only a name in a start tag opens an element. -/
theorem size_apply_le_of_noStartTag {finding : Finding} (hadmitted : finding.Admitted valid)
    (hvalid : valid.NoStartTag) : (finding.apply s).tags.size ≤ s.tags.size := by
  cases finding with
  | startTag tag =>
    have hstart : valid.contains .startTagName = true := hadmitted
    rw [hvalid] at hstart
    cases hstart
  | endTag | selfClosing | implicitEnd =>
    show s.tags.pop.size ≤ s.tags.size
    rw [Nesting.size_pop]
    omega
  | _ => exact Nat.le_refl _

/-- Where a token closes an element, one is open. -/
theorem size_apply_of_closesElement {finding : Finding} (htells : finding.Tells s text)
    (hkind : finding.kind? = some kind) (hcloses : kind.closesElement = true) :
    (finding.apply s).tags.size + 1 = s.tags.size := by
  have hpop : s.tags.isEmpty = false → s.tags.pop.size + 1 = s.tags.size := by
    intro hopen
    have hsize := Nesting.size_pos_of_not_isEmpty hopen
    rw [Nesting.size_pop]
    omega
  cases finding with
  | endTag => exact hpop (Nesting.isEmpty_of_top? (beq_iff_eq.mp htells.2))
  | selfClosing | implicitEnd => exact hpop htells.2
  | startTag tag =>
    -- the category of the element tells the kind, and none of these kinds closes one
    rw [kind?] at hkind
    split at hkind
    all_goals
      cases hkind
      cases hcloses
  | nothing => cases hkind
  | _ =>
    cases hkind
    cases hcloses

end Finding

namespace Document

open TokenSet

/-! ## Counting -/

/-- How many end tags right behind raw text close nothing, by the kinds of tokens, the latest
first. -/
def strayEnds : List TokenKind → Nat
  | [] => 0
  | kind :: earlier =>
    if kind = .erroneousEndTagName ∧ earlier.head? = some .rawText then strayEnds earlier + 1
    else strayEnds earlier

theorem strayEnds_le_cons (kind : TokenKind) (earlier : List TokenKind) :
    strayEnds earlier ≤ strayEnds (kind :: earlier) := by
  rw [strayEnds]
  split
  · exact Nat.le_succ _
  · exact Nat.le_refl _

namespace Run

/-- The kinds of the tokens found, the latest first. -/
def kinds (r : Run) : List TokenKind :=
  r.tokens.map (·.kind)

/-- The number of open elements. -/
def openCount (r : Run) : Nat :=
  r.scanner.state.tags.size

/-- How many elements are open besides those that end tags behind raw text have failed to close. -/
def excess (r : Run) : Int :=
  r.openCount - strayEnds r.kinds

/-- There is a character of a name ahead. -/
def NameAhead (r : Run) : Prop :=
  ∃ c ∈ r.ahead, Lexing.isNameChar c = true

/-- The open elements of the run are counted: no issue is noted, or there is still a name ahead. -/
def Counts (r : Run) : Prop :=
  r.issues = [] ∨ r.NameAhead

/-- From one run to another without snapshots, at most `k` elements more are open, if they are
counted.  Those do not count that an end tag behind raw text fails to close. -/
structure Opens (k : Int) (r last : Run) : Prop where
  checkpoint : last.checkpoint = r.checkpoint
  counts : last.Counts → r.Counts
  strays : strayEnds r.kinds ≤ strayEnds last.kinds
  excess_le : r.checkpoint = false → last.Counts → last.excess ≤ r.excess + k

section Opens

variable {j k m : Int} {r next last : Run}

theorem Opens.refl : Opens 0 r r :=
  ⟨rfl, id, Nat.le_refl _, fun _ _ => by omega⟩

theorem Opens.trans (hopens : Opens j r next) (hlater : Opens k next last)
    (hm : j + k = m) : Opens m r last where
  checkpoint := by rw [hlater.checkpoint, hopens.checkpoint]
  counts := hopens.counts ∘ hlater.counts
  strays := Nat.le_trans hopens.strays hlater.strays
  excess_le hplain hcounts := by
    have hfirst := hopens.excess_le hplain (hlater.counts hcounts)
    have hsecond := hlater.excess_le (hopens.checkpoint ▸ hplain) hcounts
    omega

theorem Opens.mono (hopens : Opens j r last) (hm : j ≤ m) : Opens m r last where
  checkpoint := hopens.checkpoint
  counts := hopens.counts
  strays := hopens.strays
  excess_le hplain hcounts := by
    have hexcess := hopens.excess_le hplain hcounts
    omega

theorem Opens.of_plain (hopens : Opens j r last)
    (hplain : r.checkpoint = false → Opens k r last) : Opens k r last where
  checkpoint := hopens.checkpoint
  counts := hopens.counts
  strays := hopens.strays
  excess_le h hcounts := (hplain h).excess_le h hcounts

/-- Where nothing is open any more, nothing has been opened. -/
theorem Opens.of_openCount_eq_zero (hopens : Opens k r last) (hnone : last.openCount = 0) :
    Opens 0 r last where
  checkpoint := hopens.checkpoint
  counts := hopens.counts
  strays := hopens.strays
  excess_le _ _ := by
    -- what is left of the excess are the stray ends, which have not become fewer
    have hstray := hopens.strays
    rw [Run.excess, Run.excess, hnone]
    omega

/-! ## Single moves -/

theorem NameAhead.of_suffix (hlast : last.NameAhead) (hsuffix : last.ahead <:+ r.ahead) :
    r.NameAhead := by
  obtain ⟨c, hc, hname⟩ := hlast
  exact ⟨c, hsuffix.subset hc, hname⟩

/-- An issue changes nothing of what is open. -/
theorem opens_raise (r : Run) (cause : Cause) : Opens 0 r (r.raise cause) where
  checkpoint := rfl
  counts hcounts := by
    rcases hcounts with hissues | hname
    · cases hissues
    · exact .inr hname
  strays := Nat.le_refl _
  excess_le _ _ := by
    show r.excess ≤ r.excess + 0
    omega

/-- Where an issue is noted and no name is ahead any more, there is nothing to count. -/
theorem opens_raise_of_not_nameAhead (k : Int) {cause : Cause} (hnone : ¬r.NameAhead) :
    Opens k r (r.raise cause) := by
  have hcounts : ¬(r.raise cause).Counts := by
    rintro (hissues | hname)
    · cases hissues
    · exact hnone hname
  exact ⟨rfl, fun h => absurd h hcounts, Nat.le_refl _, fun _ h => absurd h hcounts⟩

/-- Wherever the run goes on to, what is open stays open. -/
theorem opens_moveTo {p : Place} (hsuffix : p.ahead <:+ r.ahead) : Opens 0 r (r.moveTo p) where
  checkpoint := rfl
  counts hcounts := by
    rcases hcounts with hissues | hname
    · exact .inl hissues
    · exact .inr (hname.of_suffix hsuffix)
  strays := Nat.le_refl _
  excess_le _ _ := by
    show r.excess ≤ r.excess + 0
    omega

theorem opens_advance (r : Run) (n : Nat) : Opens 0 r (r.advance n) := by
  refine opens_moveTo ?_
  rw [Place.advance_ahead]
  exact List.drop_suffix n r.ahead

theorem opens_toEnd (r : Run) : Opens 0 r r.toEnd :=
  opens_moveTo (List.nil_suffix)

end Opens

/-! ## Scans -/

section Scan

variable (r : Run) (valid : TokenSet)

@[simp] theorem checkpoint_scan : (r.scan valid).2.checkpoint = r.checkpoint := by
  have hbefore : r.beforeScan.checkpoint = r.checkpoint := by
    rw [beforeScan]
    split <;> rfl
  cases hkind : (r.scanAhead valid).kind? with
  | none => rwa [r.scan_of_none valid hkind]
  | some kind => rwa [r.scan_of_some valid hkind]

theorem kinds_scan : (r.scan valid).2.kinds = (r.scan valid).1.toList ++ r.kinds := by
  rw [kinds, tokens_scan, kind_scan, Scan.token?]
  cases (r.scanAhead valid).kind? with
  | none => rfl
  | some kind => rfl

theorem strayEnds_le_scan : strayEnds r.kinds ≤ strayEnds (r.scan valid).2.kinds := by
  rw [kinds_scan]
  cases (r.scan valid).1 with
  | none => exact Nat.le_refl _
  | some kind => exact strayEnds_le_cons kind r.kinds

theorem openCount_scan (hplain : r.checkpoint = false) :
    (r.scan valid).2.openCount =
      ((r.scanAhead valid).reading.finding.apply r.scanner.state).tags.size := by
  rw [openCount, r.state_scan valid hplain]

variable {r valid} {k : Int} {kind? : Option TokenKind} {kind : TokenKind} {last : Run}

/-- What is ahead of a scan ends with what is ahead behind it. -/
theorem ahead_scan_suffix : (r.scan valid).2.ahead <:+ r.ahead := by
  rw [ahead, ahead]
  cases hkind : (r.scanAhead valid).kind? with
  | none =>
    have hplace := r.place_scan_of_none valid hkind
    exact hplace ▸ List.suffix_rfl
  | some kind =>
    rw [place_scan_of_some _ _ hkind, Scan.cursor_last, Place.advance_ahead]
    exact List.drop_suffix _ _

/-- No scan notes an issue, so all that counts is what is open behind it. -/
theorem opens_of_scan (hexcess : r.checkpoint = false → (r.scan valid).2.excess ≤ r.excess + k) :
    Opens k r (r.scan valid).2 where
  checkpoint := r.checkpoint_scan valid
  counts hcounts := by
    rw [Counts, issues_scan] at hcounts
    exact hcounts.imp_right (·.of_suffix ahead_scan_suffix)
  strays := r.strayEnds_le_scan valid
  excess_le hplain _ := hexcess hplain

/-- A scan opens what its finding opens. -/
theorem opens_of_finding
    (hsize : r.checkpoint = false →
      (((r.scanAhead valid).reading.finding.apply r.scanner.state).tags.size : Int) ≤
        r.openCount + k) : Opens k r (r.scan valid).2 := by
  apply opens_of_scan
  intro hplain
  have hcount := hsize hplain
  have hstray := r.strayEnds_le_scan valid
  rw [← r.openCount_scan valid hplain] at hcount
  rw [Run.excess, Run.excess]
  omega

/-- A scan that finds nothing opens nothing. -/
theorem opens_scan_none (hscan : r.scan valid = (none, last)) : Opens 0 r last := by
  have hkind := r.kind_scan valid
  rw [hscan, Scan.kind?] at hkind
  have hopens : Opens 0 r (r.scan valid).2 := by
    apply opens_of_finding
    intro hplain
    rw [scanAhead, beforeScan_eq_self hplain] at hkind ⊢
    rw [Finding.eq_nothing hkind.symm, openCount]
    show (r.scanner.state.tags.size : Int) ≤ _
    omega
  rwa [hscan] at hopens

theorem opens_scan_one (hscan : r.scan valid = (kind?, last)) : Opens 1 r last := by
  have hopens : Opens 1 r (r.scan valid).2 := by
    apply opens_of_finding
    intro _
    exact_mod_cast Finding.size_apply_le _ _
  rwa [hscan] at hopens

/-- A scan for no start tag opens no element. -/
theorem opens_scan (hscan : r.scan valid = (kind?, last)) (hvalid : valid.NoStartTag) :
    Opens 0 r last := by
  have hopens : Opens 0 r (r.scan valid).2 := by
    apply opens_of_finding
    intro _
    have hadmitted := r.beforeScan.scanner.scan_admitted valid r.place
    exact_mod_cast Finding.size_apply_le_of_noStartTag hadmitted hvalid
  rwa [hscan] at hopens

/-- A token that closes an element takes it away. -/
theorem opens_scan_of_closesElement (hscan : r.scan valid = (some kind, last))
    (hcloses : kind.closesElement = true) : Opens (-1) r last := by
  have hkind := r.kind_scan valid
  rw [hscan] at hkind
  have hopens : Opens (-1) r (r.scan valid).2 := by
    apply opens_of_finding
    intro hplain
    have htells := r.beforeScan.scanner.scan_tells valid r.place
    have hsize := Finding.size_apply_of_closesElement htells hkind.symm hcloses
    rw [beforeScan_eq_self hplain] at hsize
    rw [scanAhead, beforeScan_eq_self hplain, openCount]
    omega
  rwa [hscan] at hopens

/-- An end tag behind raw text that closes nothing is counted apart. -/
theorem opens_scan_stray (hscan : r.scan valid = (some .erroneousEndTagName, last))
    (hvalid : valid.NoStartTag) (hraw : r.kinds.head? = some .rawText) : Opens (-1) r last := by
  have hstray : strayEnds (r.scan valid).2.kinds = strayEnds r.kinds + 1 := by
    rw [kinds_scan, hscan]
    exact if_pos ⟨rfl, hraw⟩
  have hopens : Opens (-1) r (r.scan valid).2 := by
    apply opens_of_scan
    intro hplain
    have hadmitted := r.beforeScan.scanner.scan_admitted valid r.place
    have hsize := Finding.size_apply_le_of_noStartTag (s := r.scanner.state) hadmitted hvalid
    rw [Run.excess, Run.excess, hstray, r.openCount_scan valid hplain, scanAhead, openCount]
    omega
  rwa [hscan] at hopens

end Scan

/-! ## Procedures -/

theorem Move.opens {r next : Run} (hmove : Move NoStartTag r next) : Opens 0 r next := by
  cases hmove with
  | advance n => exact opens_advance r n
  | toEnd => exact opens_toEnd r
  | raise cause => exact opens_raise r cause
  | scan hvalid => exact opens_scan rfl hvalid

/-- What looks for no start tag opens no element. -/
theorem Procedure.opens {α : Type} {c : Run → α × Run} (hc : Procedure NoStartTag c) (r : Run) :
    Opens 0 r (c r).2 := by
  apply (hc.reaches r).keeps (P := Opens 0 r)
  · intro next later hmove hnext
    exact hnext.trans hmove.opens rfl
  · exact .refl

theorem opens_of_eq {α : Type} {c : Run → α × Run} (hc : Procedure NoStartTag c) {r last : Run}
    {a : α} (heq : c r = (a, last)) : Opens 0 r last := by
  have hopens := hc.opens r
  rwa [heq] at hopens

end Run

end Document

end TemplateScan
