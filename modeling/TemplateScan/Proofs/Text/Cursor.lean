import TemplateScan.Text.Cursor
import TemplateScan.Proofs.Text.Stretches

/-!
# Cursors under any use

A cursor may be used in any order: marks may be set before anything is passed over, characters
passed over behind those taken, and all of it at the end of the text.  Its positions stay character
boundaries in the order that a token needs, as each operation reads on by at most one character.

* `Cursor.Operation`, `Cursor.performAll`: the operations, and any sequence of them.
* `Cursor.IsPlaced`, `Cursor.IsPlaced.perform`: where the positions are, whatever is done next.
* `Cursor.performAll_isPlaced`: so it is after any sequence of operations.
-/

namespace TemplateScan.Text

namespace Cursor

/-! ## Operations -/

/-- What can be done with a cursor. -/
inductive Operation where
  /-- Takes the character ahead into the token. -/
  | advance
  /-- Passes over the character ahead. -/
  | skip
  /-- Marks the token to end here. -/
  | markEnd
deriving DecidableEq, Repr

/-- The cursor after an operation. -/
def perform (c : Cursor) : Operation → Cursor
  | .advance => c.advance
  | .skip => c.skip
  | .markEnd => c.markEnd

/-- The cursor after some operations, one after the other. -/
def performAll (c : Cursor) (operations : List Operation) : Cursor :=
  operations.foldl perform c

/-- The positions of a cursor that was set to a place of the text: all are places of the text, the
token begins at or behind that place, and neither its beginning nor its mark is behind the reading
position. -/
structure IsPlaced (text : List Char) (entry : Place) (c : Cursor) : Prop where
  here_isIn : c.here.IsIn text
  first_isIn : c.first.IsIn text
  mark_isIn : ∀ mark ∈ c.mark, mark.IsIn text
  entry_le : entry.offset ≤ c.first.offset
  first_le : c.first.offset ≤ c.here.offset
  mark_le : ∀ mark ∈ c.mark, mark.offset ≤ c.here.offset

theorem isPlaced_new {text : List Char} {entry : Place} (hentry : entry.IsIn text) :
    (new entry).IsPlaced text entry where
  here_isIn := hentry
  first_isIn := hentry
  mark_isIn _ hmark := by cases hmark
  entry_le := Nat.le_refl _
  first_le := Nat.le_refl _
  mark_le _ hmark := by cases hmark

/-! ## One operation -/

section Perform

variable {text : List Char} {entry : Place} {c : Cursor}

/-- The reading position never goes back. -/
theorem offset_here_le_perform (c : Cursor) (operation : Operation) :
    c.here.offset ≤ (c.perform operation).here.offset := by
  cases operation with
  | advance | skip => exact c.here.offset_le_advance 1
  | markEnd => exact Nat.le_refl _

/-- Once the beginning of the token is settled it stays so, and where it is. -/
theorem first_perform (hsettled : c.settled = true) (operation : Operation) :
    (c.perform operation).settled = true ∧ (c.perform operation).first = c.first := by
  cases operation with
  | advance => exact ⟨rfl, rfl⟩
  | skip => exact ⟨hsettled, if_pos hsettled⟩
  | markEnd => exact ⟨hsettled, rfl⟩

theorem IsPlaced.perform (hplaced : c.IsPlaced text entry) (operation : Operation) :
    (c.perform operation).IsPlaced text entry := by
  have hstep : c.here.step.IsIn text := hplaced.here_isIn.advance 1
  have hle : c.here.offset ≤ c.here.step.offset := c.here.offset_le_advance 1
  have hmark : ∀ mark ∈ c.mark, mark.offset ≤ c.here.step.offset :=
    fun mark hmem => Nat.le_trans (hplaced.mark_le mark hmem) hle
  cases operation with
  | advance =>
    exact ⟨hstep, hplaced.first_isIn, hplaced.mark_isIn, hplaced.entry_le,
      Nat.le_trans hplaced.first_le hle, hmark⟩
  | skip =>
    cases hsettled : c.settled with
    | true =>
      -- the token goes on, so its beginning stays
      have hfirst : (c.perform .skip).first = c.first := (first_perform hsettled .skip).2
      refine ⟨hstep, ?_, hplaced.mark_isIn, ?_, ?_, hmark⟩
      all_goals rw [hfirst]
      · exact hplaced.first_isIn
      · exact hplaced.entry_le
      · exact Nat.le_trans hplaced.first_le hle
    | false =>
      -- the beginning moves along with the reading position
      have hfirst : (c.perform .skip).first = c.here.step := if_neg (by simp [hsettled])
      refine ⟨hstep, ?_, hplaced.mark_isIn, ?_, ?_, hmark⟩
      all_goals rw [hfirst]
      · exact hstep
      · exact Nat.le_trans hplaced.entry_le (Nat.le_trans hplaced.first_le hle)
      · exact Nat.le_refl _
  | markEnd =>
    refine ⟨hplaced.here_isIn, hplaced.first_isIn, ?_, hplaced.entry_le, hplaced.first_le, ?_⟩
    · rintro mark ⟨⟩
      exact hplaced.here_isIn
    · rintro mark ⟨⟩
      exact Nat.le_refl _

/-- The stretch of the token is one of the text, and what is read goes at least as far. -/
theorem IsPlaced.span (hplaced : c.IsPlaced text entry) :
    c.span.IsIn text ∧ c.span.stop ≤ c.here.offset := by
  have hending : (c.mark.getD c.here).IsIn text ∧ (c.mark.getD c.here).offset ≤ c.here.offset := by
    cases hmark : c.mark with
    | none => exact ⟨hplaced.here_isIn, Nat.le_refl _⟩
    | some mark => exact ⟨hplaced.mark_isIn mark hmark, hplaced.mark_le mark hmark⟩
  have hlast : c.last.IsIn text ∧ c.first.offset ≤ c.last.offset ∧
      c.last.offset ≤ c.here.offset := by
    unfold last
    dsimp only
    split
    · exact ⟨hplaced.first_isIn, Nat.le_refl _, hplaced.first_le⟩
    · next hle => exact ⟨hending.1, Nat.le_of_not_lt hle, hending.2⟩
  exact ⟨⟨hplaced.first_isIn.isBoundary, hlast.1.isBoundary, hlast.2.1⟩, hlast.2.2⟩

end Perform

/-! ## Any sequence of operations -/

section PerformAll

variable {text : List Char} {entry : Place} {c : Cursor}

theorem IsPlaced.performAll (hplaced : c.IsPlaced text entry) (operations : List Operation) :
    (c.performAll operations).IsPlaced text entry := by
  induction operations generalizing c with
  | nil => exact hplaced
  | cons operation later ih => exact ih (hplaced.perform operation)

theorem offset_here_le_performAll (c : Cursor) (operations : List Operation) :
    c.here.offset ≤ (c.performAll operations).here.offset := by
  induction operations generalizing c with
  | nil => exact Nat.le_refl _
  | cons operation later ih =>
    exact Nat.le_trans (c.offset_here_le_perform operation) (ih (c.perform operation))

theorem first_performAll (hsettled : c.settled = true) (operations : List Operation) :
    (c.performAll operations).settled = true ∧ (c.performAll operations).first = c.first := by
  induction operations generalizing c with
  | nil => exact ⟨hsettled, rfl⟩
  | cons operation later ih =>
    obtain ⟨hstill, hfirst⟩ := first_perform hsettled operation
    rw [← hfirst]
    exact ih hstill

theorem performAll_append (c : Cursor) (operations later : List Operation) :
    c.performAll (operations ++ later) = (c.performAll operations).performAll later :=
  List.foldl_append

/-- A cursor that has taken a character has settled where the token begins. -/
theorem settled_performAll (c : Cursor) {operations : List Operation}
    (hadvance : .advance ∈ operations) : (c.performAll operations).settled = true := by
  obtain ⟨before, later, rfl⟩ := List.append_of_mem hadvance
  rw [performAll_append]
  exact (first_performAll (c := (c.performAll before).advance) rfl later).1

/-- **Cursors stay in their text.**  Whatever is done with a cursor from a place of a text on, its
positions are character boundaries of the text in their order, none behind its end, and so is the
stretch of the token.  Whatever is done then, the reading position does not go back, and the token
begins where it did if a character has been taken. -/
theorem performAll_isPlaced (hentry : entry.IsIn text) (operations later : List Operation) :
    ((new entry).performAll operations).IsPlaced text entry ∧
      ((new entry).performAll operations).here.offset ≤ Utf8.byteLength text ∧
      ((new entry).performAll operations).span.IsIn text ∧
      ((new entry).performAll operations).span.stop ≤
        ((new entry).performAll operations).here.offset ∧
      ((new entry).performAll operations).here.offset ≤
        ((new entry).performAll (operations ++ later)).here.offset ∧
      (.advance ∈ operations → ((new entry).performAll (operations ++ later)).first =
        ((new entry).performAll operations).first) := by
  have hplaced := (isPlaced_new hentry).performAll operations
  rw [performAll_append]
  refine ⟨hplaced, hplaced.here_isIn.offset_le, hplaced.span.1, hplaced.span.2, ?_, ?_⟩
  · exact offset_here_le_performAll _ later
  · intro hadvance
    exact (first_performAll (settled_performAll _ hadvance) later).2

/-- A mark that is set before the blanks are passed over lies before the token, which is empty
then. -/
theorem performAll_isPlaced_earlyMark :
    Place.IsIn "aé b".toList ⟨1, "é b".toList⟩ ∧
      ((new ⟨1, "é b".toList⟩).performAll [.markEnd, .skip, .skip, .advance]).IsPlaced
        "aé b".toList ⟨1, "é b".toList⟩ ∧
      ((new ⟨1, "é b".toList⟩).performAll [.markEnd, .skip, .skip, .advance]).span = ⟨4, 4⟩ ∧
      ((new ⟨1, "é b".toList⟩).performAll
        ([.markEnd, .skip, .skip, .advance] ++ [.skip])).first.offset = 4 := by
  have hentry : Place.IsIn "aé b".toList ⟨1, "é b".toList⟩ := ⟨['a'], by decide, by decide⟩
  obtain ⟨hplaced, -, -, -, -, hfirst⟩ :=
    performAll_isPlaced hentry [.markEnd, .skip, .skip, .advance] [.skip]
  refine ⟨hentry, hplaced, by decide +kernel, ?_⟩
  exact (congrArg Place.offset (hfirst (by decide))).trans (by decide +kernel)

end PerformAll

end Cursor

end TemplateScan.Text
