import TemplateScan.Lexing.MustacheTag
import TemplateScan.Proofs.Lexing.Characters

/-!
# Names and delimiters inside mustache tags

What the recognizers find where a whole delimiter, or a name before the closing delimiter, is ahead.
-/

namespace TemplateScan.Lexing

open Text Mustache

/-! ## Delimiters -/

theorem openingText_builtin : ({} : Delimiters).openingText = ['\x7B', '\x7B'] := rfl

theorem closingText_builtin : ({} : Delimiters).closingText = ['\x7D', '\x7D'] := rfl

theorem beginsClosing_builtin (c : Char) : beginsClosing {} c = (c == '\x7D') := by
  rw [beginsClosing, closingText_builtin]
  exact BEq.comm

theorem commonLength_append (count : Nat) (literal rest : List Char) :
    commonLength count literal (literal ++ rest) = count + literal.length := by
  induction literal generalizing count with
  | nil => cases rest <;> rfl
  | cons c literal ih =>
    rw [List.cons_append, commonLength, if_pos rfl, ih, List.length_cons]
    omega

/-- A delimiter is found as a whole. -/
theorem delimiter_append (finding : Finding) (literal rest : List Char) :
    delimiter finding literal (literal ++ rest) = .take finding literal.length := by
  rw [delimiter, matchLength, commonLength_append, Nat.zero_add]
  exact if_pos rfl

/-! ## Directives -/

section Directive

variable {text : List Char}

/-- The opening delimiter that a directive sets ends before a blank. -/
theorem newOpening_append (rest : List Char) (hne : text ≠ [])
    (htext : ∀ c ∈ text, (!(isBlank c || c == '=')) = true) :
    newOpening (text ++ ' ' :: rest) = .take (.newOpening (String.ofList text)) text.length := by
  have hrun : (text ++ ' ' :: rest).takeWhile (fun c => !(isBlank c || c == '=')) = text :=
    takeWhile_append_stop htext (by simp [show isBlank ' ' = true by decide])
  rw [newOpening, hrun]
  simp [hne]

/-- The closing delimiter that it sets ends before `=`. -/
theorem newClosing_append (rest : List Char) (hne : text ≠ [])
    (htext : ∀ c ∈ text, (!(isBlank c || c == '=')) = true) :
    newClosing (text ++ '=' :: rest) = .take (.newClosing (String.ofList text)) text.length := by
  have hrun : (text ++ '=' :: rest).takeWhile (fun c => !(isBlank c || c == '=')) = text :=
    takeWhile_append_stop htext (by simp)
  rw [newClosing, hrun]
  simp [hne]

end Directive

/-! ## Names -/

section Name

variable {d : Delimiters} {name rest : List Char}

theorem identifier_append (hne : name ≠ [])
    (hname : ∀ c ∈ name, (!(c == '.' || isBlank c || beginsClosing d c)) = true) (hrest : rest ≠ [])
    (hstop : rest.head?.all (beginsClosing d) = true) :
    identifier d (name ++ rest) = .take .identifier name.length := by
  have hrun : (name ++ rest).takeWhile (fun c => !(c == '.' || isBlank c || beginsClosing d c)) =
      name := by
    -- the closing delimiter ahead stops the name
    apply takeWhile_append_stop hname
    cases rest with
    | nil => rfl
    | cons c later => simp_all
  rw [identifier, hrun]
  simp [hne, hrest]

theorem sectionName_append (hname : ∀ c ∈ name, (!(isBlank c || beginsClosing d c)) = true)
    (hstop : rest.head?.all (beginsClosing d) = true) : sectionName d (name ++ rest) = name := by
  apply takeWhile_append_stop hname
  cases rest with
  | nil => rfl
  | cons c later => simp_all

theorem sectionStart_append (hne : name ≠ [])
    (hname : ∀ c ∈ name, (!(isBlank c || beginsClosing d c)) = true)
    (hstop : rest.head?.all (beginsClosing d) = true) :
    sectionStart d (name ++ rest) = .take (.sectionStart (String.ofList name)) name.length := by
  rw [sectionStart, sectionName_append hname hstop]
  simp [hne]

theorem sectionEnd_append {sections : Nesting String} (hne : name ≠ [])
    (hname : ∀ c ∈ name, (!(isBlank c || beginsClosing d c)) = true)
    (hstop : rest.head?.all (beginsClosing d) = true)
    (hcloses : sections.closes (String.ofList name) = true) :
    sectionEnd d sections (name ++ rest) = .take .sectionEnd name.length := by
  rw [sectionEnd, sectionName_append hname hstop]
  simp [hne, hcloses]

end Name

end TemplateScan.Lexing
