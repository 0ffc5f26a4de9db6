import Mathlib.Order.Bounds.Basic
import TemplateScan.Golden.Difference
import TemplateScan.Proofs.Lexing.Characters

/-!
# What the report on two listings tells

The report on two listings tells that they match, or it names the first position where they differ
and shows those around it.  It compares what it shows: where only one listing has a line, and that
is spelled as a missing one is shown, it sees no difference.

* `Report`, `Report.text`: what a report tells, and how it is written.
* `Report.number?_text`: the position that it names can be read in it.
* `Report.Tells`: a report tells where two listings are apart.
* `DiffersVisiblyAt`, `firstDifference?_eq_some_iff`: the position named is the first one where a
  difference can be seen.
* `difference_tells`: so it is for all listings; `difference_overlooks_line`: some differ unseen.
-/

namespace TemplateScan.Golden

/-! ## Reports -/

/-- A position that a report shows, and what each listing has there. -/
structure ShownPosition where
  position : Nat
  isMarked : Bool
  expected? : Option String
  actual? : Option String

/-- The two lines of a report on a position, which it numbers from 1 on. -/
def ShownPosition.text (shown : ShownPosition) : String :=
  let head := (if shown.isMarked then "> " else "  ") ++ column (shown.position + 1)
  head ++ " - " ++ shown.expected?.getD "<missing>" ++ "\n" ++
    head ++ " + " ++ shown.actual?.getD "<missing>" ++ "\n"

/-- What a report tells. -/
inductive Report where
  /-- The listings match; how many lines they have. -/
  | isMatch (size : Nat)
  /-- The first position where they differ, the positions shown, and how many lines each has. -/
  | mismatch (first : Nat) (shown : List ShownPosition) (expected actual : Nat)

namespace Report

/-- The text of a report. -/
def text : Report → String
  | isMatch size => "token listings match (" ++ toString size ++ " lines)\n"
  | mismatch first shown expected actual =>
    "token " ++ toString (first + 1) ++ " differs:\n" ++
      String.join (shown.map ShownPosition.text) ++
      "expected " ++ toString expected ++ " tokens, got " ++ toString actual ++ "\n"

/-- The position that a report names. -/
def first? : Report → Option Nat
  | isMatch _ => none
  | mismatch first _ _ _ => some first

/-- The number that characters begin with. -/
def leadingNumber? (chars : List Char) : Option Nat :=
  match chars.takeWhile Char.isDigit with
  | [] => none
  | digits => some (Nat.ofDigitChars 10 digits 0)

/-- The number behind the first word of a report. -/
def number? (report : String) : Option Nat :=
  leadingNumber? (report.toList.drop 6)

theorem leadingNumber?_append (n : Nat) {rest : List Char}
    (hrest : rest.head?.all (!Char.isDigit ·) = true) :
    leadingNumber? ((toString n).toList ++ rest) = some n := by
  rw [Nat.toString_eq_repr, Nat.toList_repr, leadingNumber?, Lexing.takeWhile_append_stop
    (fun c hc => Nat.isDigit_of_mem_toDigits (by decide) (by decide) hc) hrest]
  split
  · next hnil => exact absurd hnil Nat.toDigits_ne_nil
  · rw [Nat.ofDigitChars_toDigits (by decide) (by decide)]

theorem number?_token (behind : String) :
    number? ("token " ++ behind) = leadingNumber? behind.toList := by
  have htoken : "token ".toList.length = 6 := by decide
  rw [number?, String.toList_append, ← htoken, List.drop_left]

/-- The position that a report names, or that it names none, can be read in it. -/
theorem number?_text (report : Report) : number? report.text = report.first?.map (· + 1) := by
  cases report with
  | isMatch size =>
    have hwords : "token listings match (" = "token " ++ "listings match (" := by decide
    unfold text
    dsimp only
    rw [hwords, String.append_assoc, String.append_assoc, number?_token]
    simp [leadingNumber?, first?]
  | mismatch first shown expected actual =>
    unfold text
    simp only [String.append_assoc]
    rw [number?_token, String.toList_append, leadingNumber?_append]
    · rfl
    · -- the number ends before the next word
      rw [String.toList_append]
      simp

/-- What a report shows at a position if it names the first one. -/
def shownAt (expected actual : List String) (first i : Nat) : ShownPosition :=
  ⟨i, i == first, expected[i]?, actual[i]?⟩

/-- The report tells where the listings are apart.  If they are nowhere, it tells that they match.
Else it names the first position where they are, and shows it and the two before and behind it, as
far as one of the listings goes, in their order; the one named is marked, and no other. -/
inductive Tells (apart : Nat → Prop) (expected actual : List String) : Report → Prop where
  | isMatch (hsame : ∀ i, ¬ apart i) :
      Tells apart expected actual (.isMatch (max expected.length actual.length))
  | mismatch {first : Nat} {positions : List Nat} (hfirst : IsLeast {i | apart i} first)
      (hsorted : positions.Pairwise (· < ·))
      (hshown : ∀ i, i ∈ positions ↔
        first ≤ i + 2 ∧ i ≤ first + 2 ∧ i < max expected.length actual.length) :
      Tells apart expected actual
        (.mismatch first (positions.map (shownAt expected actual first)) expected.length
          actual.length)

end Report

/-! ## Differences -/

section Difference

variable {expected actual : List String} {first i : Nat}

/-- The listings differ at the position: their lines there are not the same, or only one of them
goes so far. -/
def DiffersAt (expected actual : List String) (i : Nat) : Prop :=
  expected[i]? ≠ actual[i]?

/-- Only one listing has a line at the position, and that is spelled as a missing one is shown. -/
def SpellsMissingAt (expected actual : List String) (i : Nat) : Prop :=
  expected[i]? = some "<missing>" ∧ actual[i]? = none ∨
    expected[i]? = none ∧ actual[i]? = some "<missing>"

/-- The listings differ at the position, and it can be seen. -/
def DiffersVisiblyAt (expected actual : List String) (i : Nat) : Prop :=
  DiffersAt expected actual i ∧ ¬ SpellsMissingAt expected actual i

theorem lineAt_bne_iff :
    (lineAt expected i != lineAt actual i) = true ↔ DiffersVisiblyAt expected actual i := by
  rw [bne_iff_ne, DiffersVisiblyAt, DiffersAt, SpellsMissingAt, lineAt, lineAt]
  cases expected[i]? with
  | none => cases actual[i]? <;> simp [eq_comm]
  | some line => cases actual[i]? <;> simp

theorem DiffersVisiblyAt.lt_size (hdiffers : DiffersVisiblyAt expected actual i) :
    i < max expected.length actual.length := by
  by_contra hle
  rw [Nat.not_lt, Nat.max_le] at hle
  apply hdiffers.1
  rw [List.getElem?_eq_none hle.1, List.getElem?_eq_none hle.2]

theorem firstDifference?_eq_none_iff :
    firstDifference? expected actual = none ↔ ∀ i, ¬ DiffersVisiblyAt expected actual i := by
  simp only [firstDifference?, List.find?_range_eq_none, Bool.not_eq_true', Bool.eq_false_iff,
    ne_eq, lineAt_bne_iff]
  constructor
  · intro hsame i hdiffers
    exact hsame i hdiffers.lt_size hdiffers
  · intro hnone i _
    exact hnone i

/-- The first difference is the first position where one can be seen. -/
theorem firstDifference?_eq_some_iff :
    firstDifference? expected actual = some first ↔
      IsLeast {i | DiffersVisiblyAt expected actual i} first := by
  simp only [firstDifference?, List.find?_range_eq_some, Bool.not_eq_true', Bool.eq_false_iff,
    ne_eq, lineAt_bne_iff]
  constructor
  · rintro ⟨hfirst, -, hbefore⟩
    exact ⟨hfirst, fun i hi => Nat.le_of_not_lt fun hlt => hbefore i hlt hi⟩
  · rintro ⟨hfirst, hleast⟩
    exact ⟨hfirst, List.mem_range.mpr hfirst.lt_size,
      fun i hlt hi => Nat.not_le_of_lt hlt (hleast hi)⟩

theorem pairOfLines_eq (expected actual : List String) (first : Nat) :
    pairOfLines expected actual first =
      ShownPosition.text ∘ Report.shownAt expected actual first := by
  funext i
  simp [pairOfLines, ShownPosition.text, Report.shownAt, lineAt]

/-- The positions shown are those around the first one that one of the listings has. -/
theorem mem_positions_iff {size : Nat} (hfirst : first < size) :
    i ∈ List.range' (first - contextLines)
        (min (first + contextLines + 1) size - (first - contextLines)) ↔
      first ≤ i + 2 ∧ i ≤ first + 2 ∧ i < size := by
  rw [List.mem_range'_1, contextLines]
  omega

theorem exists_report (expected actual : List String) :
    ∃ report : Report, report.Tells (DiffersVisiblyAt expected actual) expected actual ∧
      difference expected actual = report.text := by
  rw [difference]
  cases hfirst : firstDifference? expected actual with
  | none => exact ⟨_, .isMatch (firstDifference?_eq_none_iff.mp hfirst), rfl⟩
  | some first =>
    have hleast := firstDifference?_eq_some_iff.mp hfirst
    refine ⟨_, .mismatch hleast List.pairwise_lt_range'
      (fun i => mem_positions_iff hleast.1.lt_size), ?_⟩
    dsimp only
    rw [pairOfLines_eq, ← List.map_map]
    rfl

/-- **The report tells where listings differ.**  Whatever the listings, the report on them tells
where they can be seen to differ, and the position that it names can be read in it. -/
theorem difference_tells (expected actual : List String) :
    ∃ report : Report, report.Tells (DiffersVisiblyAt expected actual) expected actual ∧
      difference expected actual = report.text ∧
      Report.number? (difference expected actual) = report.first?.map (· + 1) := by
  obtain ⟨report, htells, htext⟩ := exists_report expected actual
  refine ⟨report, htells, htext, ?_⟩
  rw [htext]
  exact report.number?_text

end Difference

/-- A line that is spelled as a missing one is shown is not seen to be too many. -/
theorem difference_overlooks_line :
    difference ["<missing>"] [] = "token listings match (1 lines)\n" ∧
      ¬ ∃ report : Report, report.Tells (DiffersAt ["<missing>"] []) ["<missing>"] [] ∧
        difference ["<missing>"] [] = report.text := by
  have hmatch : difference ["<missing>"] [] = (Report.isMatch 1).text := by
    decide +kernel
  refine ⟨hmatch, ?_⟩
  rintro ⟨report, htells, htext⟩
  rw [hmatch] at htext
  cases htells with
  | isMatch hsame => exact hsame 0 (by simp [DiffersAt])
  | mismatch =>
    have hnumber := congrArg Report.number? htext
    rw [Report.number?_text, Report.number?_text] at hnumber
    cases hnumber

end TemplateScan.Golden
