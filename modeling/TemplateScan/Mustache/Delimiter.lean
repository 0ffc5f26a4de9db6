/-!
# Delimiters

Mustache tags stand between an opening and a closing delimiter, `{{` and `}}` at first; a directive
inside the template can set others.  The directive that sets them is still closed by the delimiter
in force before it, so that one is kept until then.
-/

namespace TemplateScan.Mustache

/-- A delimiter in its slot: the built-in one, or one that was set, even if it is spelled like the
built-in one. -/
inductive Delimiter where
  | builtin
  | custom (text : String) (text_ne : text ≠ "")
deriving DecidableEq

namespace Delimiter

instance : Inhabited Delimiter := ⟨builtin⟩

/-- The delimiter set to a text; no text leaves the built-in one. -/
def ofText (text : String) : Delimiter :=
  if h : text = "" then builtin else custom text h

/-- The text that was set, empty for the built-in delimiter. -/
def customText : Delimiter → String
  | builtin => ""
  | custom text _ => text

/-- The text in force, given the one that is built in. -/
def resolve (fallback : String) : Delimiter → String
  | builtin => fallback
  | custom text _ => text

theorem ofText_customText (d : Delimiter) : ofText d.customText = d := by
  cases d with
  | builtin => rfl
  | custom text h => simp [ofText, customText, h]

theorem customText_ofText (text : String) : (ofText text).customText = text := by
  unfold ofText
  split <;> simp_all [customText]

end Delimiter

/-- The delimiters in force, and the closing one that was in force before the last directive. -/
structure Delimiters where
  opening : Delimiter := .builtin
  closing : Delimiter := .builtin
  previousClosing : Delimiter := .builtin
deriving DecidableEq, Inhabited

namespace Delimiters

/-- The built-in opening delimiter. -/
def builtinOpening : String := "\x7B\x7B"

/-- The built-in closing delimiter. -/
def builtinClosing : String := "\x7D\x7D"

/-- The characters of the opening delimiter in force. -/
def openingText (d : Delimiters) : List Char :=
  (d.opening.resolve builtinOpening).toList

/-- The characters of the closing delimiter in force. -/
def closingText (d : Delimiters) : List Char :=
  (d.closing.resolve builtinClosing).toList

/-- The characters of the closing delimiter in force before the last directive. -/
def previousClosingText (d : Delimiters) : List Char :=
  (d.previousClosing.resolve builtinClosing).toList

/-- Sets the opening delimiter. -/
def setOpening (d : Delimiters) (text : String) : Delimiters :=
  { d with opening := .ofText text }

/-- Sets the closing delimiter and keeps the one in force before. -/
def setClosing (d : Delimiters) (text : String) : Delimiters :=
  { d with closing := .ofText text, previousClosing := d.closing }

/-- Forgets the closing delimiter that was kept. -/
def releasePrevious (d : Delimiters) : Delimiters :=
  { d with previousClosing := .builtin }

end Delimiters

end TemplateScan.Mustache
