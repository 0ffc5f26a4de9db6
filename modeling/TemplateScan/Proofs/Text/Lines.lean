import Mathlib.Data.List.DropRight
import TemplateScan.CommandLine
import TemplateScan.Text.Pieces

/-!
# Lines put together and read back

Lines that hold no line feed of their own are read back from the text that they make up, whether the
last one is ended by a line feed too or not.  Without the blanks at their ends it makes no
difference whether the lines are ended by a carriage return and a line feed or by a line feed alone.

* `split_eq_splitOnP`: the pieces of a text are those of the library's `List.splitOnP`.
* `ConsistsOf.split_eq`: the pieces between the line feeds of the text that lines make up.
* `ConsistsOf.lines_eq`: the lines of that text.
* `trimEnd_append_blanks`, `trimEnd_eq_self_iff`, `trim_eq_self_iff`: what trimming does.
-/

namespace TemplateScan.Text

/-- The text is made of the lines: each is ended by a line feed, as it is printed, or they only have
line feeds in between. -/
def ConsistsOf (content : String) (lines : List String) : Prop :=
  content = CommandLine.printed lines ∨ content = "\n".intercalate lines

/-! ## Pieces -/

theorem splitOnto_eq (isSeparator : Char → Bool) (done : List (List Char))
    (current cs : List Char) :
    splitOnto isSeparator done current cs =
      done.reverse ++ cs.splitOnPPrepend isSeparator current := by
  induction cs generalizing done current with
  | nil => simp [splitOnto]
  | cons c cs ih =>
    rw [splitOnto, List.splitOnPPrepend_cons_eq_if]
    split
    · rw [ih, List.reverse_cons, List.append_assoc]
      rfl
    · exact ih done (c :: current)

/-- The pieces of a text are those of `List.splitOnP`. -/
theorem split_eq_splitOnP (isSeparator : Char → Bool) (cs : List Char) :
    split isSeparator cs = cs.splitOnP isSeparator := by
  rw [split, splitOnto_eq]
  rfl

/-- Pieces without a line feed are those of the text that has line feeds in between. -/
theorem split_intercalate {pieces : List (List Char)} (hpieces : ∀ piece ∈ pieces, '\n' ∉ piece)
    (hne : pieces ≠ []) : split (· == '\n') (['\n'].intercalate pieces) = pieces := by
  rw [split_eq_splitOnP]
  exact List.splitOn_intercalate '\n' hpieces hne

/-- What is printed has line feeds between the lines and an empty piece behind them. -/
theorem toList_printed (lines : List String) :
    (CommandLine.printed lines).toList = ['\n'].intercalate (lines.map String.toList ++ [[]]) := by
  rw [CommandLine.printed, String.toList_join]
  induction lines with
  | nil => rfl
  | cons line later ih =>
    rw [List.map_cons, List.flatMap_cons, ih, String.toList_append, List.map_cons, List.cons_append,
      List.intercalate_cons_of_ne_nil (by simp)]
    rfl

section ConsistsOf

variable {content : String} {lines : List String}

/-- The pieces between the line feeds are the lines, and perhaps an empty one behind them. -/
theorem ConsistsOf.split_eq (hcontent : ConsistsOf content lines)
    (hlines : ∀ line ∈ lines, '\n' ∉ line.toList) :
    split (· == '\n') content.toList = lines.map String.toList ∧ lines ≠ [] ∨
      split (· == '\n') content.toList = lines.map String.toList ++ [[]] := by
  have hpieces : ∀ piece ∈ lines.map String.toList, '\n' ∉ piece := by
    simpa using hlines
  rcases hcontent with rfl | rfl
  · right
    rw [toList_printed]
    refine split_intercalate ?_ (by simp)
    simpa [or_imp, forall_and] using hpieces
  · rcases lines with - | ⟨line, later⟩
    · right
      rfl
    · left
      rw [String.toList_intercalate]
      exact ⟨split_intercalate hpieces (by simp), by simp⟩

theorem map_withoutReturn {pieces : List (List Char)} (hpieces : ∀ piece ∈ pieces, '\r' ∉ piece) :
    pieces.map withoutReturn = pieces := by
  have hself : ∀ piece ∈ pieces, withoutReturn piece = id piece := by
    intro piece hmem
    rw [withoutReturn, if_neg]
    · rfl
    · intro hlast
      exact hpieces piece hmem (List.mem_of_getLast? hlast)
  rw [List.map_congr_left hself, List.map_id]

/-- Lines that are not empty and hold neither a line feed nor a carriage return are those of the
text that they make up. -/
theorem ConsistsOf.lines_eq (hcontent : ConsistsOf content lines)
    (hlines : ∀ line ∈ lines, line ≠ "" ∧ '\n' ∉ line.toList ∧ '\r' ∉ line.toList) :
    Text.lines content.toList = lines.map String.toList := by
  rw [Text.lines]
  rcases hcontent.split_eq fun line hmem => (hlines line hmem).2.1 with ⟨hsplit, hne⟩ | hsplit
  · -- no line feed ends the last line, which is none if it is empty
    obtain ⟨before, last, rfl⟩ := (List.eq_nil_or_concat' lines).resolve_left hne
    simp only [List.forall_mem_append, List.forall_mem_singleton] at hlines
    obtain ⟨hbefore, hlast, -⟩ := hlines
    rw [hsplit, List.map_append, List.map_singleton, List.dropLast_concat,
      map_withoutReturn (by simpa using fun line hmem => (hbefore line hmem).2.2)]
    simp [hlast]
  · rw [hsplit, List.dropLast_concat,
      map_withoutReturn (by simpa using fun line hmem => (hlines line hmem).2.2)]
    simp

end ConsistsOf

/-! ## Trimming -/

section Trim

variable {chars blanks : List Char}

/-- Blanks at the end make no difference. -/
theorem trimEnd_append_blanks (hblanks : ∀ c ∈ blanks, isBlank c = true) :
    trimEnd (chars ++ blanks) = trimEnd chars := by
  rw [trimEnd, List.reverse_append, List.dropWhile_append_of_pos (by simpa using hblanks)]
  rfl

theorem trimEnd_trimEnd (chars : List Char) : trimEnd (trimEnd chars) = trimEnd chars :=
  List.rdropWhile_idempotent isBlank chars

/-- What is behind a character that is no blank is trimmed by itself. -/
theorem trimEnd_append_cons {c : Char} (hc : isBlank c = false) (before more : List Char) :
    trimEnd (before ++ c :: more) = before ++ c :: trimEnd more := by
  rw [trimEnd, trimEnd, List.reverse_append, List.reverse_cons, List.append_assoc,
    List.dropWhile_append]
  split <;> simp_all

theorem trimEnd_eq_self_iff : trimEnd chars = chars ↔ chars.getLast?.all (!isBlank ·) = true := by
  have hdrop : trimEnd chars = chars.rdropWhile isBlank := rfl
  rw [hdrop]
  rcases List.eq_nil_or_concat' chars with rfl | ⟨before, last, rfl⟩
  · simp
  · simp [List.rdropWhile_eq_self_iff]

/-- A text that begins with no blank is trimmed at its end only. -/
theorem trim_eq_trimEnd (hfirst : chars.head?.all (!isBlank ·) = true) :
    trim chars = trimEnd chars := by
  rw [trim]
  cases chars with
  | nil => rfl
  | cons c more =>
    have hblank : isBlank c = false := by simpa using hfirst
    rw [List.dropWhile_cons_of_neg (by simp [hblank])]

theorem trim_eq_self_iff :
    trim chars = chars ↔
      chars.head?.all (!isBlank ·) = true ∧ chars.getLast?.all (!isBlank ·) = true := by
  rw [← trimEnd_eq_self_iff]
  constructor
  · intro htrim
    -- nothing is dropped at the beginning, as what is left then would be shorter
    have hkept : chars <+: chars.dropWhile isBlank := by
      conv_lhs => rw [← htrim]
      exact List.rdropWhile_prefix isBlank _
    have hdrop : chars.dropWhile isBlank = chars :=
      (List.dropWhile_suffix isBlank).eq_of_length_le hkept.length_le
    refine ⟨?_, ?_⟩
    · have hhead := List.head?_dropWhile_not isBlank chars
      rw [hdrop] at hhead
      cases hfirst : chars.head? <;> simp_all
    · rwa [trim, hdrop] at htrim
  · rintro ⟨hhead, hlast⟩
    rwa [trim_eq_trimEnd hhead]

theorem trim_cons_of_isBlank {c : Char} (hc : isBlank c = true) (more : List Char) :
    trim (c :: more) = trim more := by
  rw [trim, List.dropWhile_cons_of_pos hc, trim]

/-- The carriage return before a line feed is one of the blanks at the end of the line. -/
theorem trimEnd_withoutReturn (line : List Char) : trimEnd (withoutReturn line) = trimEnd line := by
  rw [withoutReturn]
  split
  · next hlast =>
    have hline := List.dropLast_append_getLast? '\r' hlast
    conv_rhs => rw [← hline]
    rw [trimEnd_append_blanks (List.forall_mem_singleton.mpr (by decide))]
  · rfl

end Trim

end TemplateScan.Text
