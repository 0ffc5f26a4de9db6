import TemplateScan.Proofs.Document.Reading
import TemplateScan.Proofs.Snapshot.Lossless

/-!
# Checkpoints change nothing

A run may put the state through a snapshot before every scan.  As long as the states that the plain
run scans in fit into a snapshot, this cannot be told from the run.

* `scannedStates`: the states in which a run has scanned.
* `inStep_checkpoint`: a scan keeps the two runs in step, if its state fits.
* `run_checkpoint`: both runs end alike.
-/

namespace TemplateScan

open Snapshot Text

/-- The state in which a scan was made, if the event is the decision of one. -/
def Event.scannedState? : Event → Option ScanState
  | scanned before _ _ => some before
  | _ => none

namespace Document

namespace Run

/-- The states in which a run has scanned, in order. -/
def scannedStates (r : Run) : List ScanState :=
  r.events.filterMap Event.scannedState?

/-! ## The states of the scans -/

section ScannedStates

variable (r : Run)

theorem scannedStates_log (events : List Event) :
    (r.log events).scannedStates = r.scannedStates ++ events.filterMap Event.scannedState? := by
  simp [scannedStates, Run.events, log]

@[simp] theorem scannedStates_raise (cause : Cause) :
    (r.raise cause).scannedStates = r.scannedStates := by
  rw [raise, scannedStates_log]
  exact List.append_nil _

@[simp] theorem scannedStates_finish : r.finish.scannedStates = r.scannedStates := by
  rw [finish, scannedStates_log]
  exact List.append_nil _

theorem scannedStates_roundTrip : r.roundTrip.scannedStates = r.scannedStates := by
  rw [roundTrip]
  dsimp only [Scanner.save, Scanner.restore]
  rw [scannedStates_log]
  split <;> split <;> exact List.append_nil _

theorem scannedStates_beforeScan : r.beforeScan.scannedStates = r.scannedStates := by
  rw [beforeScan]
  split
  · exact r.scannedStates_roundTrip
  · rfl

theorem scannedStates_finding (before : ScanState) (finding : Finding) :
    (finding.events before).filterMap Event.scannedState? = [] := by
  rw [List.filterMap_eq_nil_iff]
  intro event hevent
  cases finding with
  | startTag | sectionStart | newOpening | newClosing =>
    rw [List.mem_singleton.mp hevent]
    rfl
  | endTag | selfClosing | implicitEnd =>
    obtain ⟨tag, -, rfl⟩ := List.mem_map.mp hevent
    rfl
  | _ => cases hevent

/-- Every scan adds the state that it is made in. -/
theorem scannedStates_scan (valid : TokenSet) :
    (r.scan valid).2.scannedStates = r.scannedStates ++ [r.beforeScan.scanner.state] := by
  -- the decision of a scan is noted with its state, and what else is noted tells of none
  have hlog : ∀ r : Run, (r.log (r.scanner.scan valid r.place).events).scannedStates =
      r.scannedStates ++ [r.scanner.state] := by
    intro r
    rw [scannedStates_log, Scan.events, List.filterMap_append, scannedStates_finding]
    rfl
  rw [scan]
  dsimp only
  split
  · rw [← r.scannedStates_beforeScan]
    exact hlog r.beforeScan
  · rw [← r.scannedStates_beforeScan]
    exact hlog r.beforeScan

end ScannedStates

/-- A run keeps the states of its scans in memory. -/
theorem scannedStates_isPrefix {p : TokenSet → Prop} {r next : Run} (hmove : Move p r next) :
    r.scannedStates <+: next.scannedStates := by
  cases hmove with
  | advance n => exact List.prefix_rfl
  | toEnd => exact List.prefix_rfl
  | raise cause => simp
  | scan hvalid =>
    rw [scannedStates_scan]
    exact List.prefix_append _ _

/-! ## Both runs -/

/-- The run with a snapshot before every scan. -/
def checkpointed (r : Run) : Run :=
  { r with checkpoint := true }

/-- A snapshot into which the state fits does nothing to a run. -/
theorem roundTrip_eq_self {r : Run} (hfits : Fits r.scanner.config.capacity r.scanner.state) :
    r.roundTrip = r := by
  rw [roundTrip]
  dsimp only [Scanner.save, Scanner.restore]
  rw [hfits.isLossless, hfits.decode_encode_self]
  rfl

/-- A scan in a state that fits does the same to both runs. -/
theorem scan_checkpointed {r : Run} {valid : TokenSet} (hplain : r.checkpoint = false)
    (hfits : Fits r.scanner.config.capacity r.scanner.state) :
    r.checkpointed.scan valid = ((r.scan valid).1, (r.scan valid).2.checkpointed) := by
  have hsaved : r.checkpointed.beforeScan = r.checkpointed := by
    rw [beforeScan]
    exact roundTrip_eq_self (r := r.checkpointed) hfits
  rw [scan, scan, hsaved, beforeScan_eq_self hplain]
  dsimp only [checkpointed]
  split
  · rfl
  · rfl

theorem config_scan {r : Run} (valid : TokenSet) (hplain : r.checkpoint = false) :
    (r.scan valid).2.scanner.config = r.scanner.config ∧ (r.scan valid).2.checkpoint = false := by
  rw [scan, beforeScan_eq_self hplain]
  dsimp only
  split
  · exact ⟨rfl, hplain⟩
  · exact ⟨rfl, hplain⟩

/-- So does one that notes an issue where nothing is found. -/
theorem expect_checkpointed {r : Run} {valid : TokenSet} (cause : Cause)
    (hplain : r.checkpoint = false) (hfits : Fits r.scanner.config.capacity r.scanner.state) :
    r.checkpointed.expect valid cause = (r.expect valid cause).checkpointed := by
  rw [expect, expect, scan_checkpointed hplain hfits]
  rcases r.scan valid with ⟨_ | kind, next⟩
  · rfl
  · rfl

theorem config_expect {r : Run} (valid : TokenSet) (cause : Cause) (hplain : r.checkpoint = false) :
    (r.expect valid cause).scanner.config = r.scanner.config ∧
      (r.expect valid cause).checkpoint = false := by
  have hscan := config_scan valid hplain
  rw [expect]
  rcases hnext : r.scan valid with ⟨_ | kind, next⟩
  · rw [hnext] at hscan
    exact hscan
  · rw [hnext] at hscan
    exact hscan

/-- The state of a scan is in memory behind it, so it fits if all those in memory do. -/
theorem fits_of_scan {r : Run} {valid : TokenSet} {capacity : Nat} (hplain : r.checkpoint = false)
    (hkept : ∀ s ∈ (r.scan valid).2.scannedStates, Fits capacity s) :
    Fits capacity r.scanner.state := by
  refine hkept _ ?_
  rw [scannedStates_scan, beforeScan_eq_self hplain]
  exact List.mem_append_right _ (List.mem_singleton_self _)

theorem scannedStates_expect (r : Run) (valid : TokenSet) (cause : Cause) :
    (r.expect valid cause).scannedStates = (r.scan valid).2.scannedStates := by
  rw [expect]
  rcases r.scan valid with ⟨_ | kind, next⟩
  · exact scannedStates_raise next cause
  · rfl

/-- The plain run and the one with snapshots stay in step as long as the states of the scans fit. -/
theorem inStep_checkpoint (p : TokenSet → Prop) (capacity : Nat) :
    InStep p (fun r => ∀ s ∈ r.scannedStates, Fits capacity s)
      (fun r r' => r' = r.checkpointed ∧ r.checkpoint = false ∧
        r.scanner.config.capacity = capacity) where
  -- the states of the scans so far stay in memory, so those of an earlier run are among them
  kept_of_move hmove hnext s hs := hnext s ((scannedStates_isPrefix hmove).subset hs)
  size := by
    rintro r _ ⟨rfl, -, -⟩
    rfl
  place := by
    rintro r _ ⟨rfl, -, -⟩
    rfl
  delimiters := by
    rintro r _ ⟨rfl, -, -⟩
    rfl
  advance := by
    rintro r _ n ⟨rfl, hplain, hcapacity⟩
    exact ⟨rfl, hplain, hcapacity⟩
  toEnd := by
    rintro r _ ⟨rfl, hplain, hcapacity⟩
    exact ⟨rfl, hplain, hcapacity⟩
  raise := by
    rintro r _ cause ⟨rfl, hplain, hcapacity⟩
    exact ⟨rfl, hplain, hcapacity⟩
  scan := by
    rintro r _ valid - - ⟨rfl, hplain, hcapacity⟩ hkept
    have hfits := fits_of_scan hplain hkept
    rw [← hcapacity] at hfits
    obtain ⟨hconfig, hlater⟩ := config_scan valid hplain
    rw [scan_checkpointed hplain hfits, hconfig]
    exact ⟨rfl, rfl, hlater, hcapacity⟩
  expect := by
    rintro r _ valid cause - ⟨rfl, hplain, hcapacity⟩ hkept
    rw [scannedStates_expect] at hkept
    have hfits := fits_of_scan hplain hkept
    rw [← hcapacity] at hfits
    obtain ⟨hconfig, hlater⟩ := config_expect valid cause hplain
    rw [expect_checkpointed cause hplain hfits, hconfig]
    exact ⟨rfl, hlater, hcapacity⟩

end Run

/-! ## Documents -/

/-- The run with snapshots ends as the plain one does. -/
theorem run_checkpoint {config : ScanConfig} {text : String}
    (hfits : ∀ s ∈ (run config false text).scannedStates, Fits config.capacity s) :
    run config true text = (run config false text).checkpointed := by
  rw [run, runWith, Run.scannedStates_finish] at hfits
  have hstart : Run.start (.new config) true text =
    (Run.start (.new config) false text).checkpointed := rfl
  -- both runs begin alike, and reading a document is a procedure
  obtain ⟨-, hdocument, -, -⟩ := Run.acts_document.follows
    (Run.inStep_checkpoint _ config.capacity) ⟨hstart, rfl, rfl⟩ hfits
  exact congrArg Run.finish hdocument

end Document

end TemplateScan
