/-!
# Kinds of tokens

The kinds of tokens that the scanner finds, each with the label it has in listings and log messages.
-/

namespace TemplateScan

/-- A kind of token. -/
inductive TokenKind where
  /-- The name of an element, in its start tag. -/
  | startTagName
  /-- The name of a script element, in its start tag. -/
  | scriptStartTagName
  /-- The name of a style element, in its start tag. -/
  | styleStartTagName
  /-- The name in an end tag that closes the innermost element. -/
  | endTagName
  /-- The name in an end tag that closes nothing. -/
  | erroneousEndTagName
  /-- The `/>` that closes the element whose start tag it ends. -/
  | selfClosingTagDelimiter
  /-- The place where an element ends without an end tag. -/
  | implicitEndTag
  /-- The body of a script or style element. -/
  | rawText
  /-- A comment of the markup. -/
  | comment
  /-- The opening delimiter of a mustache tag. -/
  | mustacheStartDelimiter
  /-- The closing delimiter of a mustache tag. -/
  | mustacheEndDelimiter
  /-- The opening delimiter that a directive sets. -/
  | mustacheSetStartDelimiter
  /-- The closing delimiter that a directive sets. -/
  | mustacheSetEndDelimiter
  /-- The closing delimiter of a directive, as it was in force before. -/
  | mustacheOldEndDelimiter
  /-- The name of a section that opens. -/
  | mustacheSectionName
  /-- The name of the innermost section, which closes. -/
  | mustacheEndSectionName
  /-- A name that closes no section. -/
  | mustacheErroneousEndSectionName
  /-- One part of the path of a variable. -/
  | mustacheIdentifier
  /-- The text of a mustache comment. -/
  | mustacheComment
  /-- Plain text between tags. -/
  | mustacheText
deriving DecidableEq, Repr, Inhabited

namespace TokenKind

/-- All kinds in their order. -/
def all : List TokenKind :=
  [
    .startTagName, .scriptStartTagName, .styleStartTagName, .endTagName, .erroneousEndTagName,
    .selfClosingTagDelimiter, .implicitEndTag, .rawText, .comment, .mustacheStartDelimiter,
    .mustacheEndDelimiter, .mustacheSetStartDelimiter, .mustacheSetEndDelimiter,
    .mustacheOldEndDelimiter, .mustacheSectionName, .mustacheEndSectionName,
    .mustacheErroneousEndSectionName, .mustacheIdentifier, .mustacheComment, .mustacheText]

/-- The label of the kind. -/
def label : TokenKind → String
  | .startTagName => "start_tag_name"
  | .scriptStartTagName => "script_start_tag_name"
  | .styleStartTagName => "style_start_tag_name"
  | .endTagName => "end_tag_name"
  | .erroneousEndTagName => "erroneous_end_tag_name"
  | .selfClosingTagDelimiter => "self_closing_tag_delimiter"
  | .implicitEndTag => "implicit_end_tag"
  | .rawText => "raw_text"
  | .comment => "comment"
  | .mustacheStartDelimiter => "mustache_start_delimiter"
  | .mustacheEndDelimiter => "mustache_end_delimiter"
  | .mustacheSetStartDelimiter => "mustache_set_start_delimiter"
  | .mustacheSetEndDelimiter => "mustache_set_end_delimiter"
  | .mustacheOldEndDelimiter => "mustache_old_end_delimiter"
  | .mustacheSectionName => "mustache_section_name"
  | .mustacheEndSectionName => "mustache_end_section_name"
  | .mustacheErroneousEndSectionName => "mustache_erroneous_end_section_name"
  | .mustacheIdentifier => "mustache_identifier"
  | .mustacheComment => "mustache_comment"
  | .mustacheText => "mustache_text"

/-- The kind with the given label. -/
def ofLabel? (label : String) : Option TokenKind :=
  all.find? (·.label == label)

theorem mem_all (kind : TokenKind) : kind ∈ all := by
  cases kind <;> decide

theorem ofLabel?_label (kind : TokenKind) : ofLabel? kind.label = some kind := by
  cases kind <;> decide +kernel

end TokenKind

end TemplateScan
