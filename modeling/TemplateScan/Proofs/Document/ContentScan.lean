import TemplateScan.Document.Parse
import TemplateScan.Proofs.Lexing.Characters
import TemplateScan.Proofs.Lexing.TextRun
import TemplateScan.Proofs.Scanning

/-!
# Scans for content

Where content may begin, no kind of token is admissible that would choose before the next character
does.

* `read_contentTokens`: the next character chooses.
* `exists_read_text`: a character that is no boundary begins a run of text.
-/

namespace TemplateScan

open Text Mustache

namespace Lexing

/-- Without blanks ahead nothing is passed over. -/
theorem read_of_not_blank {config : ScanConfig} {s : ScanState} {valid : TokenSet}
    {ahead : List Char} (hraw : wantsRawText valid = false)
    (hblank : ahead.head?.all (!isBlank ·) = true) :
    read config s valid ahead = { atToken config s valid ahead with skipped := 0 } := by
  rw [read, hraw, takeWhile_eq_nil hblank]
  rfl

end Lexing

namespace Document

namespace Run

open Lexing

section ContentTokens

variable (inElement : Bool)

@[simp] theorem contentTokens_mustacheText :
    (contentTokens inElement).contains .mustacheText = true := by
  cases inElement <;> rfl

@[simp] theorem contentTokens_mustacheStartDelimiter :
    (contentTokens inElement).contains .mustacheStartDelimiter = true := by
  cases inElement <;> rfl

theorem wantsRawText_contentTokens : wantsRawText (contentTokens inElement) = false := by
  cases inElement <;> rfl

theorem mustachePart?_contentTokens (config : ScanConfig) (s : ScanState) (ahead : List Char) :
    mustachePart? config s (contentTokens inElement) ahead = none := by
  cases inElement <;> rfl

/-- Where content may begin, the next character chooses the token. -/
theorem read_contentTokens {ahead : List Char} (config : ScanConfig) (s : ScanState)
    (hblank : ahead.head?.all (!isBlank ·) = true) :
    read config s (contentTokens inElement) ahead =
      { atNext s (contentTokens inElement) ahead with skipped := 0 } := by
  rw [read_of_not_blank (wantsRawText_contentTokens inElement) hblank, atToken,
    mustachePart?_contentTokens]

theorem atNext_contentTokens {c : Char} (s : ScanState) (rest : List Char) (hangle : c ≠ '<') :
    atNext s (contentTokens inElement) (c :: rest) = textRun s.delimiters true (c :: rest) := by
  rw [atNext, atOther, contentTokens_mustacheText, contentTokens_mustacheStartDelimiter, if_pos rfl]
  · intro h
    exact absurd h hangle

/-- An opening delimiter that does not begin with `<` is not found at one. -/
theorem openingAtAngle?_eq_none {d : Delimiters} (hopening : d.openingText.head? ≠ some '<')
    (valid : TokenSet) (behind : List Char) : openingAtAngle? d valid behind = none := by
  rw [openingAtAngle?]
  split
  · split
    · next heq => exact absurd (congrArg List.head? heq) hopening
    · next heq => exact absurd (congrArg List.head? heq) hopening
    · rfl
  · rfl

theorem atNext_angle (s : ScanState) (behind : List Char) :
    atNext s (contentTokens inElement) ('<' :: behind) =
      atAngle s (contentTokens inElement) behind := rfl

/-- A character that is neither blank nor a boundary begins a run of text. -/
theorem exists_read_text {ahead : List Char} (config : ScanConfig) (s : ScanState)
    (hopening : s.delimiters.openingText ≠ []) (hclosing : s.delimiters.closingText ≠ [])
    (hne : ahead ≠ []) (hblank : ahead.head?.all (!isBlank ·) = true)
    (hstart : startsBoundary s.delimiters ahead = false) :
    ∃ n, (read config s (contentTokens inElement) ahead).Finds .text n ∧
      EndsText s.delimiters ahead n := by
  obtain ⟨n, looked, hrun, hends⟩ := exists_textRun_eq true hopening hclosing hne hstart
  refine ⟨n, ?_, hends⟩
  rw [read_contentTokens inElement config s hblank]
  cases ahead with
  | nil => exact absurd rfl hne
  | cons c rest =>
    -- a `<` would be a boundary
    have hangle : c ≠ '<' := by
      rintro rfl
      rw [startsBoundary_iff.mpr (Or.inl rfl)] at hstart
      cases hstart
    rw [atNext_contentTokens inElement s rest hangle, hrun]
    exact Reading.finds_ofLength .text n looked

end ContentTokens

end Run

end Document

end TemplateScan
