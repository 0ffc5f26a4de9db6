import TemplateScan.Lexing.Choice
import TemplateScan.Text.Cursor
import TemplateScan.Token.Listing

/-!
# Well-formed templates

A well-formed template is a sequence of nodes: elements and sections with templates inside them,
elements without content, raw text, values, comments and text.  Printed, it is a sequence of pieces,
of which some are tokens and the others the punctuation in between.

* `Template.pieces`, `Template.print`: a template as it is written.
* `tokensFrom`: the tokens of some pieces.
* `Template.WellFormed`: the nodes are such that each is read as what it is.
* `Template.CommentsFit`: the dashes of its comments can be counted.
-/

namespace TemplateScan.Document

open Text Markup Lexing

/-! ## Templates -/

/-- A sequence of nodes: its first, with the template in it if it has content, and those behind. -/
inductive Template where
  | empty
  /-- `<name>`, the content and `</name>`. -/
  | element (name : List Char) (content next : Template)
  /-- `<name/>`. -/
  | selfClosing (name : List Char) (next : Template)
  /-- `<name>`, the body and `</name>`. -/
  | raw (name body : List Char) (next : Template)
  /-- The section tag of the name, the content and its closing tag. -/
  | sectioned (name : List Char) (content next : Template)
  /-- The tag of a value. -/
  | value (name : List Char) (next : Template)
  /-- `<!--`, the body and `-->`. -/
  | comment (body : List Char) (next : Template)
  | text (chars : List Char) (next : Template)
deriving DecidableEq, Repr, Inhabited

/-! ## Pieces -/

/-- A piece of a text: a token of some kind, or what stands between tokens. -/
structure Piece where
  kind? : Option TokenKind
  chars : List Char
deriving DecidableEq, Repr, Inhabited

namespace Piece

/-- A piece that is a token. -/
def token (kind : TokenKind) (chars : List Char) : Piece :=
  ⟨some kind, chars⟩

/-- A piece that is none. -/
def mark (chars : List Char) : Piece :=
  ⟨none, chars⟩

/-- A mustache tag of one token between the built-in delimiters, behind the character that tells its
sort if there is one. -/
def mustache (sort : List Piece) (kind : TokenKind) (name : List Char) : List Piece :=
  token .mustacheStartDelimiter ['\x7B', '\x7B'] :: sort ++
    [token kind name, token .mustacheEndDelimiter ['\x7D', '\x7D']]

end Piece

/-- The characters of some pieces. -/
def charsOf (pieces : List Piece) : List Char :=
  pieces.flatMap Piece.chars

@[simp] theorem charsOf_append (before after : List Piece) :
    charsOf (before ++ after) = charsOf before ++ charsOf after :=
  List.flatMap_append

@[simp] theorem charsOf_cons (piece : Piece) (later : List Piece) :
    charsOf (piece :: later) = piece.chars ++ charsOf later :=
  List.flatMap_cons

@[simp] theorem charsOf_nil : charsOf [] = [] := rfl

/-- The tokens of some pieces, the first of which is at the byte offset. -/
def tokensFrom (offset : Nat) : List Piece → List Token
  | [] => []
  | piece :: later =>
    let stop := offset + Utf8.byteLength piece.chars
    (piece.kind?.map (⟨·, ⟨offset, stop⟩⟩)).toList ++ tokensFrom stop later

/-- The kind of the name in a start tag. -/
def startTagKind (tag : Tag) : TokenKind :=
  match tag.category with
  | .script => .scriptStartTagName
  | .style => .styleStartTagName
  | _ => .startTagName

namespace Template

open Piece

/-- A start tag. -/
def startTag (name : List Char) : List Piece :=
  [mark ['<'], token (startTagKind (tagOf name)) name]

/-- An end tag. -/
def endTag (name : List Char) : List Piece :=
  [mark ['<', '/'], token .endTagName name, mark ['>']]

/-- The template as it is written. -/
def pieces : Template → List Piece
  | empty => []
  | element name content next =>
    startTag name ++ mark ['>'] :: content.pieces ++ endTag name ++ next.pieces
  | selfClosing name next =>
    startTag name ++ token .selfClosingTagDelimiter ['/', '>'] :: next.pieces
  | raw name body next =>
    startTag name ++ mark ['>'] :: token .rawText body :: endTag name ++ next.pieces
  | sectioned name content next =>
    mustache [mark ['#']] .mustacheSectionName name ++ content.pieces ++
      mustache [mark ['/']] .mustacheEndSectionName name ++ next.pieces
  | value name next =>
    mustache [] .mustacheIdentifier name ++ next.pieces
  | comment body next =>
    token .comment (['<', '!', '-', '-'] ++ body ++ ['-', '-', '>']) :: next.pieces
  | text chars next =>
    token .mustacheText chars :: next.pieces

/-- The text of the template. -/
def print (t : Template) : List Char :=
  charsOf t.pieces

section Print

attribute [local simp] print pieces startTag endTag mustache mark token

variable (name body chars : List Char) (content next : Template)

theorem print_element :
    (element name content next).print =
      '<' :: (name ++ '>' :: (content.print ++ '<' :: '/' :: (name ++ '>' :: next.print))) := by
  simp

theorem print_selfClosing :
    (selfClosing name next).print = '<' :: (name ++ '/' :: '>' :: next.print) := by
  simp

theorem print_raw :
    (raw name body next).print =
      '<' :: (name ++ '>' :: (body ++ '<' :: '/' :: (name ++ '>' :: next.print))) := by
  simp

theorem print_sectioned :
    (sectioned name content next).print =
      '\x7B' :: '\x7B' :: '#' :: (name ++ '\x7D' :: '\x7D' :: (content.print ++
        '\x7B' :: '\x7B' :: '/' :: (name ++ '\x7D' :: '\x7D' :: next.print))) := by
  simp

theorem print_value :
    (value name next).print = '\x7B' :: '\x7B' :: (name ++ '\x7D' :: '\x7D' :: next.print) := by
  simp

theorem print_comment :
    (comment body next).print =
      '<' :: '!' :: '-' :: '-' :: (body ++ '-' :: '-' :: '>' :: next.print) := by
  simp

theorem print_text : (text chars next).print = chars ++ next.print := by
  simp

end Print

end Template

/-! ## Well-formedness -/

/-- A name of a tag: letters, numbers, `-` and `:`. -/
def IsTagName (name : List Char) : Prop :=
  name ≠ [] ∧ ∀ c ∈ name, isNameChar c = true

/-- A name of an element with raw text, in upper or lower case. -/
def IsRawName (name : List Char) : Prop :=
  name.map Char.toUpper = "SCRIPT".toList ∨ name.map Char.toUpper = "STYLE".toList

/-- A body that does not contain the end tag of its element, in upper or lower case. -/
def IsRawBody (name body : List Char) : Prop :=
  ¬('<' :: '/' :: name.map Char.toUpper) <:+: body.map Char.toUpper

/-- A name of a section: no blank and no closing brace. -/
def IsSectionName (name : List Char) : Prop :=
  name ≠ [] ∧ ∀ c ∈ name, isBlank c = false ∧ c ≠ '\x7D'

/-- The characters that tell the sort of a mustache tag. -/
def sortChars : List Char :=
  ['#', '^', '/', '!', '=', '\x7B', '&', '>']

/-- A name of a value: no blank, no dot, no closing brace, and no character first that tells the
sort of a tag. -/
def IsValueName (name : List Char) : Prop :=
  name ≠ [] ∧ (∀ c ∈ name, isBlank c = false ∧ c ≠ '.' ∧ c ≠ '\x7D') ∧
    ∀ c ∈ name.head?, c ∉ sortChars

/-- Text that stands on its own: no blank comes first, and no markup or braces are in it. -/
def IsText (chars : List Char) : Prop :=
  chars ≠ [] ∧ (∀ c ∈ chars.head?, isBlank c = false) ∧ ∀ c ∈ chars, c ∉ ['<', '\x7B', '\x7D']

-- The instances below ask the characters of a text one by one.  Found by search, an instance may
-- ask all characters that there are, as those are finitely many.

instance (name : List Char) : Decidable (IsTagName name) :=
  have := List.decidableBAll (isNameChar · = true) name
  inferInstanceAs (Decidable (_ ∧ _))

instance (name : List Char) : Decidable (IsRawName name) :=
  inferInstanceAs (Decidable (_ ∨ _))

instance (name body : List Char) : Decidable (IsRawBody name body) :=
  inferInstanceAs (Decidable (¬_))

instance (name : List Char) : Decidable (IsSectionName name) :=
  have := List.decidableBAll (fun c => isBlank c = false ∧ c ≠ '\x7D') name
  inferInstanceAs (Decidable (_ ∧ _))

instance (name : List Char) : Decidable (IsValueName name) :=
  have := List.decidableBAll (fun c => isBlank c = false ∧ c ≠ '.' ∧ c ≠ '\x7D') name
  have := @Option.decidableForallMem _ (fun c => c ∉ sortChars) _ name.head?
  inferInstanceAs (Decidable (_ ∧ _ ∧ _))

instance (chars : List Char) : Decidable (IsText chars) :=
  have := @Option.decidableForallMem _ (isBlank · = false) _ chars.head?
  have := List.decidableBAll (fun c => c ∉ ['<', '\x7B', '\x7D']) chars
  inferInstanceAs (Decidable (_ ∧ _ ∧ _))

namespace Template

/-- Whether the first node is text. -/
def startsWithText : Template → Bool
  | text _ _ => true
  | _ => false

/-- The template is well-formed inside the given element, if it is inside of one: names, bodies and
texts are such that they end where they do, elements may stand where they are, and no text follows
another. -/
def WellFormed (parent? : Option Tag) : Template → Prop
  | empty => True
  | element name content next =>
    IsTagName name ∧ (tagOf name).category ∉ [.void, .script, .style] ∧
      (∀ parent ∈ parent?, parent.canContain (tagOf name) = true) ∧
      content.WellFormed (some (tagOf name)) ∧ next.WellFormed parent?
  | selfClosing name next =>
    IsTagName name ∧ (∀ parent ∈ parent?, parent.canContain (tagOf name) = true) ∧
      next.WellFormed parent?
  | raw name body next =>
    IsRawName name ∧ (∀ parent ∈ parent?, parent.canContain (tagOf name) = true) ∧
      IsRawBody name body ∧ next.WellFormed parent?
  | sectioned name content next =>
    IsSectionName name ∧ content.WellFormed parent? ∧ next.WellFormed parent?
  | value name next => IsValueName name ∧ next.WellFormed parent?
  | comment body next => ¬['-', '-', '>'] <:+: body ∧ next.WellFormed parent?
  | text chars next => IsText chars ∧ next.startsWithText = false ∧ next.WellFormed parent?

instance decidableWellFormed :
    (parent? : Option Tag) → (t : Template) → Decidable (t.WellFormed parent?)
  | _, empty => .isTrue trivial
  | parent?, element name content next =>
    have := decidableWellFormed (some (tagOf name)) content
    have := decidableWellFormed parent? next
    inferInstanceAs (Decidable (_ ∧ _ ∧ _ ∧ _ ∧ _))
  | parent?, selfClosing _ next =>
    have := decidableWellFormed parent? next
    inferInstanceAs (Decidable (_ ∧ _ ∧ _))
  | parent?, raw _ _ next =>
    have := decidableWellFormed parent? next
    inferInstanceAs (Decidable (_ ∧ _ ∧ _ ∧ _))
  | parent?, sectioned _ content next =>
    have := decidableWellFormed parent? content
    have := decidableWellFormed parent? next
    inferInstanceAs (Decidable (_ ∧ _ ∧ _))
  | parent?, value _ next =>
    have := decidableWellFormed parent? next
    inferInstanceAs (Decidable (_ ∧ _))
  | parent?, comment _ next =>
    have := decidableWellFormed parent? next
    inferInstanceAs (Decidable (_ ∧ _))
  | parent?, text _ next =>
    have := decidableWellFormed parent? next
    inferInstanceAs (Decidable (_ ∧ _ ∧ _))

/-- The dashes of each comment can be counted, with the two that end it. -/
def CommentsFit : Template → Prop
  | empty => True
  | element _ content next => content.CommentsFit ∧ next.CommentsFit
  | selfClosing _ next => next.CommentsFit
  | raw _ _ next => next.CommentsFit
  | sectioned _ content next => content.CommentsFit ∧ next.CommentsFit
  | value _ next => next.CommentsFit
  | comment body next => DashesFit (body ++ ['-', '-']) ∧ next.CommentsFit
  | text _ next => next.CommentsFit

instance decidableCommentsFit : (t : Template) → Decidable t.CommentsFit
  | empty => .isTrue trivial
  | element _ content next =>
    have := decidableCommentsFit content
    have := decidableCommentsFit next
    inferInstanceAs (Decidable (_ ∧ _))
  | selfClosing _ next => decidableCommentsFit next
  | raw _ _ next => decidableCommentsFit next
  | sectioned _ content next =>
    have := decidableCommentsFit content
    have := decidableCommentsFit next
    inferInstanceAs (Decidable (_ ∧ _))
  | value _ next => decidableCommentsFit next
  | comment _ next =>
    have := decidableCommentsFit next
    inferInstanceAs (Decidable (_ ∧ _))
  | text _ next => decidableCommentsFit next

end Template

end TemplateScan.Document
