import TemplateScan.Markup.Tag

/-!
# Containment

Which elements end where another one begins, although no end tag says so: a list item ends at the
next list item, a paragraph at a block, a cell at the next cell or row.
-/

namespace TemplateScan.Markup

namespace Element

/-- The elements that end a paragraph in which they begin. -/
def endParagraph : List Element :=
  [.address, .article, .aside, .blockquote, .details, .div, .dl, .fieldset, .figcaption, .figure,
    .footer, .form, .h1, .h2, .h3, .h4, .h5, .h6, .header, .hr, .main, .nav, .ol, .p, .pre,
    .«section»]

/-- Whether an element can go on where the given one begins inside it, `none` being any custom
element. -/
def canContain (parent : Element) (child : Option Element) : Bool :=
  match parent with
  | .li => child != some .li
  | .dt | .dd => child != some .dt && child != some .dd
  | .p => !child.any endParagraph.contains
  | .colgroup => child == some .col
  | .rb | .rt | .rp => child != some .rb && child != some .rt && child != some .rp
  | .optgroup => child != some .optgroup
  | .tr => child != some .tr
  | .td | .th => child != some .td && child != some .th && child != some .tr
  | _ => true

end Element

/-- Whether `parent` can go on where `child` begins directly inside it. -/
def Tag.canContain (parent child : Tag) : Bool :=
  parent.element?.all (·.canContain child.element?)

end TemplateScan.Markup
