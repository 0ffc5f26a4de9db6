import TemplateScan.Proofs.Document.Checkpoint
import TemplateScan.Proofs.Host.Safety

/-!
# Checkpoints of hosts

A host that puts the state through a snapshot before every scan comes to the outcome of one that
does not, as long as there is a buffer for the snapshots and the states in which the plain host
scans fit into one.

* `Host.scannedStates`: the states in which a host has scanned.
* `readOutcome_checkpoint`: both hosts come to the same outcome.
-/

namespace TemplateScan.Document

open Text Snapshot

/-- The states in which a host has scanned, in order. -/
def Host.scannedStates {text : String} (h : Host text) : List ScanState :=
  h.events.filterMap Event.scannedState?

theorem Host.Follows.scannedStates_eq {text : String} {checked : Bool} {h : Host text} {r : Run}
    (hf : Follows checked h r) : h.scannedStates = r.scannedStates := by
  rw [Host.scannedStates, Run.scannedStates, Host.events, Run.events, hf.trace]

/-- **Checkpoints are transparent.**  If the plain host reads the document, in states that all fit
into a snapshot, and there is a buffer of the capacity, then the host that puts its state through a
snapshot before every scan comes to the same outcome.  The plain host reads every document, unless
it is checked that no count goes over and there are more dashes in a row than can be counted. -/
theorem readOutcome_checkpoint (config : ScanConfig) (checked : Bool) (text : String)
    (hroom : config.capacity ≤ maxBufferBytes) :
    (∀ plain, readNew config false checked text = .ok plain →
      (∀ s ∈ plain.scannedStates, Fits config.capacity s) →
        readOutcome config true checked text = .ok plain.outcome) ∧
      ((checked = true → Lexing.DashesFit text.toList) →
        ∃ plain, readNew config false checked text = .ok plain) := by
  have hplainRead := (document_cases (.new config) false checked text).2
  constructor
  · intro plain hplain hfits
    rcases hplainRead with ⟨last, hread, hf⟩ | ⟨fault, hread, -⟩
    · -- the plain host has read what the plain run has read, so the states of that run fit
      obtain rfl : plain = last.finish := Except.ok.inj (hplain.symm.trans hread)
      rw [hf.scannedStates_eq] at hfits
      have hboth : run config true text = (run config false text).checkpointed :=
        run_checkpoint hfits
      -- the other run counts no dashes but those of the plain one
      have hcounts : checked = true → (runWith (.new config) true text).overflowed = false := by
        intro hchecked
        have hspared := hf.spared
        rw [hchecked, Bool.true_and] at hspared
        rw [show runWith (.new config) true text = _ from hboth]
        exact hspared
      obtain ⟨last', hread', hf'⟩ :=
        (comes_document (.new config) true checked text fun _ => hroom).exists_ok hcounts
      rw [readOutcome, readNew, readWith, hread', hf.outcome_eq]
      show Except.ok last'.finish.outcome = _
      rw [hf'.outcome_eq, show runWith (.new config) true text = _ from hboth]
      rfl
    · rw [show readWith (.new config) false checked text = _ from hplain] at hread
      cases hread
  · intro hcounts
    rcases hplainRead with ⟨last, hread, -⟩ | ⟨fault, hread, hdue⟩
    · exact ⟨_, hread⟩
    · cases fault with
      | capacityOverflow => cases hdue.1
      | countOverflow => exact absurd (hcounts hdue.1) hdue.2
      | _ => exact hdue.elim

/-- An element with a section in it. -/
def sectionInElement : String :=
  "<p>\x7b\x7b#s\x7d\x7d\x7b\x7ba\x7d\x7d\x7b\x7b/s\x7d\x7d</p>"

/-- Fourteen bytes are enough for an element with a section in it. -/
theorem readOutcome_checkpoint_sectionInElement :
    ∃ plain, readNew { capacity := 14 } false true sectionInElement = .ok plain ∧
      (∀ s ∈ plain.scannedStates, Fits 14 s) ∧
      readOutcome { capacity := 14 } true true sectionInElement = .ok plain.outcome := by
  have hroom : (14 : Nat) ≤ maxBufferBytes := by decide
  have hboth := readOutcome_checkpoint { capacity := 14 } true sectionInElement hroom
  obtain ⟨plain, hplain⟩ := hboth.2 fun _ => Lexing.dashesFit_of_length (by decide)
  have hstates : ∀ h ∈ (readNew { capacity := 14 } false true sectionInElement).toOption,
      ∀ s ∈ h.scannedStates, Fits 14 s := by
    decide +kernel
  have hfits : ∀ s ∈ plain.scannedStates, Fits 14 s := by
    apply hstates
    rw [hplain]
    rfl
  exact ⟨plain, hplain, hfits, hboth.1 plain hplain hfits⟩

/-- With a capacity of 2⁶³ bytes the plain host reads a text that the other one does not. -/
theorem readOutcome_not_checkpoint :
    ∃ plain, readNew { capacity := maxBufferBytes + 1 } false true "x" = .ok plain ∧
      (∀ s ∈ plain.scannedStates, Fits (maxBufferBytes + 1) s) ∧
      readOutcome { capacity := maxBufferBytes + 1 } true true "x" ≠ .ok plain.outcome := by
  have hstates : ∀ h ∈ (readNew { capacity := maxBufferBytes + 1 } false true "x").toOption,
      ∀ s ∈ h.scannedStates, Fits (maxBufferBytes + 1) s := by
    decide +kernel
  have hsome :
      (readNew { capacity := maxBufferBytes + 1 } false true "x").toOption.isSome = true := by
    decide +kernel
  have hfault : readOutcome { capacity := maxBufferBytes + 1 } true true "x" =
      .error .capacityOverflow := by
    rw [readOutcome, readNew, readWith_of_noRoom _ _ _ (by decide)]
    rfl
  cases hread : readNew { capacity := maxBufferBytes + 1 } false true "x" with
  | error fault =>
    rw [hread] at hsome
    cases hsome
  | ok plain =>
    refine ⟨plain, rfl, hstates plain (by rw [hread]; rfl), ?_⟩
    rw [hfault]
    exact fun heq => nomatch heq

end TemplateScan.Document
