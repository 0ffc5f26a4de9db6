import TemplateScan.Lexing.Comment
import TemplateScan.Lexing.ElementName
import TemplateScan.Lexing.MustacheTag
import TemplateScan.Lexing.RawText
import TemplateScan.Lexing.TextRun
import TemplateScan.Token.Admissible

/-!
# The choice of a token

At most one kind of token is tried at a position, and whether it is found decides.  The admissible
kinds choose first: raw text where no tag name is admissible, then the parts of mustache tags.
After these the next character chooses.  Blanks are passed over before any token but raw text.
-/

namespace TemplateScan.Lexing

open Text Mustache

/-- The next part of a mustache tag, if a kind is admissible that occurs only there. -/
def mustachePart? (config : ScanConfig) (s : ScanState) (valid : TokenSet) (ahead : List Char) :
    Option Reading :=
  if valid.contains .mustacheSetStartDelimiter then
    some (if config.delimiterChanges then newOpening ahead else .decline 0)
  else if valid.contains .mustacheSetEndDelimiter then
    some (if config.delimiterChanges then newClosing ahead else .decline 0)
  else if valid.contains .mustacheOldEndDelimiter then
    some (delimiter .directiveEnd s.delimiters.previousClosingText ahead)
  else if valid.contains .mustacheComment then
    some (mustacheComment s.delimiters ahead)
  else if valid.contains .mustacheIdentifier then
    some (identifier s.delimiters ahead)
  else if valid.contains .mustacheSectionName then
    some (sectionStart s.delimiters ahead)
  else if valid.contains .mustacheEndSectionName ||
      valid.contains .mustacheErroneousEndSectionName then
    some (sectionEnd s.delimiters s.sections ahead)
  else if valid.contains .mustacheEndDelimiter && ahead.head?.any (beginsClosing s.delimiters) then
    some (delimiter .closing s.delimiters.closingText ahead)
  else
    none

/-- The implied end of the innermost element, where one is admissible. -/
def impliedEndIfValid (s : ScanState) (valid : TokenSet) (consumed : Nat) (ahead : List Char) :
    Reading :=
  if valid.contains .implicitEndTag then impliedEnd s.tags consumed ahead else .decline consumed

/-- The opening delimiter at a `<`, if it begins with this character and the one behind it does not
yet tell that it is none. -/
def openingAtAngle? (d : Delimiters) (valid : TokenSet) (behind : List Char) : Option Reading :=
  if valid.contains .mustacheStartDelimiter then
    match d.openingText with
    | ['<'] => some (.take .opening 1)
    | '<' :: second :: _ =>
      if behind.head? = some second then some (delimiter .opening d.openingText ('<' :: behind))
      else none
    | _ => none
  else none

/-- The token at a `<`, given the characters behind it. -/
def atAngle (s : ScanState) (valid : TokenSet) (behind : List Char) : Reading :=
  match openingAtAngle? s.delimiters valid behind with
  | some reading => reading
  | none =>
    match behind with
    | '!' :: ahead => comment ahead
    | _ => impliedEndIfValid s valid 1 behind

/-- The token at a character that is not `<`. -/
def atOther (s : ScanState) (valid : TokenSet) (c : Char) (behind : List Char) : Reading :=
  if valid.contains .mustacheText then
    textRun s.delimiters (valid.contains .mustacheStartDelimiter) (c :: behind)
  else if valid.contains .mustacheStartDelimiter && s.delimiters.openingText.head? == some c then
    delimiter .opening s.delimiters.openingText (c :: behind)
  else if c = '/' then
    if valid.contains .selfClosingTagDelimiter then selfClosing s.tags (c :: behind) else .decline 0
  else if valid.contains .rawText then
    .decline 0
  else if valid.contains .startTagName then
    startTagName (c :: behind)
  else if valid.contains .endTagName then
    endTagName s.tags (c :: behind)
  else
    .decline 0

/-- The token that the next character chooses. -/
def atNext (s : ScanState) (valid : TokenSet) : List Char → Reading
  | [] => impliedEndIfValid s valid 0 []
  | '<' :: behind => atAngle s valid behind
  | c :: behind => atOther s valid c behind

/-- The token ahead where no blank is. -/
def atToken (config : ScanConfig) (s : ScanState) (valid : TokenSet) (ahead : List Char) :
    Reading :=
  match mustachePart? config s valid ahead with
  | some reading => reading
  | none => atNext s valid ahead

/-- Whether raw text is admissible, and no tag name is. -/
def wantsRawText (valid : TokenSet) : Bool :=
  valid.contains .rawText && !valid.contains .startTagName && !valid.contains .endTagName

/-- The token ahead. -/
def read (config : ScanConfig) (s : ScanState) (valid : TokenSet) (ahead : List Char) : Reading :=
  if wantsRawText valid then
    rawText s.tags ahead
  else
    let blanks := (ahead.takeWhile isBlank).length
    { atToken config s valid (ahead.drop blanks) with skipped := blanks }

end TemplateScan.Lexing
