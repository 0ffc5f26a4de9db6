/-!
# Issues of a document

What is wrong with a document, and where.
-/

namespace TemplateScan.Document

/-- What is wrong at some position. -/
inductive Cause where
  | unexpectedCharacter
  | missingTagName
  | unterminatedStartTag
  | missingEndTag
  | missingCloseAngle
  | unterminatedComment
  | missingSectionName
  | missingIdentifier
  | missingEndDelimiter
  | rejectedDelimiterChange
deriving DecidableEq, Repr, Inhabited

/-- The name of a cause in reports. -/
def Cause.label : Cause → String
  | unexpectedCharacter => "unexpected-character"
  | missingTagName => "missing-tag-name"
  | unterminatedStartTag => "unterminated-start-tag"
  | missingEndTag => "missing-end-tag"
  | missingCloseAngle => "missing-close-angle"
  | unterminatedComment => "unterminated-comment"
  | missingSectionName => "missing-section-name"
  | missingIdentifier => "missing-identifier"
  | missingEndDelimiter => "missing-end-delimiter"
  | rejectedDelimiterChange => "rejected-delimiter-change"

/-- Something wrong at a byte offset of the text. -/
structure Issue where
  cause : Cause
  position : Nat
deriving DecidableEq, Repr, Inhabited

/-- The issue in reports. -/
def Issue.message (issue : Issue) : String :=
  issue.cause.label ++ " at byte " ++ toString issue.position

end TemplateScan.Document
