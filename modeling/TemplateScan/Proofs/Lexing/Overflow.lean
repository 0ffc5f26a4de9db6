import TemplateScan.Proofs.Lexing.Bodies
import TemplateScan.Proofs.Lexing.Findings

/-!
# Counts that go over

Of all that is looked for, only the end of a comment is told by a count that has a greatest number.
So where the dashes can be counted, no count goes over.

* `Chosen.overflowed`: this is so of each token that may be looked for.
* `overflowed_read`: and so of all that the scanner reads.
-/

namespace TemplateScan.Lexing

open Markup Mustache

section Plain

variable {s : ScanState} {valid : TokenSet} {ahead : List Char}

theorem overflowed_stop (run : TextRun) : run.stop.overflowed = false := by
  rw [TextRun.stop]
  split <;> rfl

theorem overflowed_readOn (openingIsAdmissible : Bool) (run : TextRun) (chars : List Char) :
    (run.readOn openingIsAdmissible chars).overflowed = false := by
  induction chars generalizing run with
  | nil =>
    rw [TextRun.readOn]
    split
    · exact overflowed_stop _
    · exact overflowed_stop _
  | cons c rest ih =>
    rw [TextRun.readOn]
    dsimp only
    split
    · rfl
    split
    · rfl
    split
    · exact overflowed_stop _
    · exact ih _

theorem overflowed_impliedEnd (tags : Nesting Tag) (consumed : Nat) (chars : List Char) :
    (impliedEnd tags consumed chars).overflowed = false := by
  have hbefore : ∀ ends consumed chars,
      (impliedEndBefore ends consumed chars).overflowed = false := by
    intro ends consumed chars
    simp only [impliedEndBefore]
    split
    · rfl
    · split <;> rfl
  unfold impliedEnd
  split
  · exact hbefore _ _ _
  · split
    · rfl
    · exact hbefore _ _ _

theorem overflowed_selfClosing (tags : Nesting Tag) (chars : List Char) :
    (selfClosing tags chars).overflowed = false := by
  unfold selfClosing
  split
  · split <;> rfl
  · rfl

theorem overflowed_rawText (tags : Nesting Tag) (chars : List Char) :
    (rawText tags chars).overflowed = false := by
  rw [rawText]
  split <;> rfl

/-- Whatever is looked for, no count goes over where the dashes can be counted. -/
theorem Chosen.overflowed {r : Reading} (hchosen : Chosen s valid ahead r)
    (hfit : DashesFit ahead) : r.overflowed = false := by
  -- what is found or declined at once counts nothing
  have hsimple : ∀ {b : Prop} [Decidable b] {r r' : Reading}, r.overflowed = false →
      r'.overflowed = false → (if b then r else r').overflowed = false := by
    intro b _ r r' hr hr'
    split
    · exact hr
    · exact hr'
  cases hchosen with
  | nothing | angleOpening => rfl
  | comment chars =>
    exact comment_overflowed
      (hfit.of_isInfix ((List.suffix_cons _ _).trans (List.suffix_cons _ _)).isInfix)
  | text => exact overflowed_readOn _ _ _
  | impliedEnd => exact overflowed_impliedEnd _ _ _
  | selfClosing => exact overflowed_selfClosing _ _
  | _ => exact hsimple rfl rfl

end Plain

/-- Where the dashes ahead can be counted, the scanner reads on with no count going over. -/
theorem overflowed_read (config : ScanConfig) (s : ScanState) (valid : TokenSet)
    {ahead : List Char} (hfit : DashesFit ahead) :
    (read config s valid ahead).overflowed = false := by
  rw [read]
  split
  · exact overflowed_rawText _ _
  · exact (chosen_atToken config).overflowed
      (hfit.of_isInfix (List.drop_suffix _ _).isInfix)

end TemplateScan.Lexing
