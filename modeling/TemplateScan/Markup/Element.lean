/-!
# HTML elements

The elements that HTML gives a meaning, the void ones first.  Each has an upper-case name and a
byte, its place in this order, under which snapshots store it.

* `ofName?_name`, `ofByte?_byte`: an element is found again by its name and by its byte.
-/

namespace TemplateScan.Markup

/-- An element that HTML gives a meaning. -/
inductive Element where
  | area | base | basefont | bgsound | br | col | command | embed | frame | hr | image | img | input
  | isindex | keygen | link | menuitem | «meta» | nextid | param | source | track | wbr | a | abbr
  | address | article | aside | audio | b | bdi | bdo | blockquote | body | button | canvas
  | caption | cite | code | colgroup | data | datalist | dd | del | details | dfn | dialog | div
  | dl | dt | em | fieldset | figcaption | figure | footer | form | h1 | h2 | h3 | h4 | h5 | h6
  | head | header | hgroup | html | i | iframe | ins | kbd | label | legend | li | main | map | mark
  | math | menu | meter | nav | noscript | object | ol | optgroup | option | output | p | picture
  | pre | progress | q | rb | rp | rt | rtc | ruby | s | samp | script | «section» | select | slot
  | small | span | strong | style | sub | summary | sup | svg | table | tbody | td | template
  | textarea | tfoot | th | thead | time | title | tr | u | ul | «var» | video
deriving DecidableEq, Repr, Inhabited

namespace Element

/-- The upper-case name. -/
def name : Element → String
  | .area => "AREA"
  | .base => "BASE"
  | .basefont => "BASEFONT"
  | .bgsound => "BGSOUND"
  | .br => "BR"
  | .col => "COL"
  | .command => "COMMAND"
  | .embed => "EMBED"
  | .frame => "FRAME"
  | .hr => "HR"
  | .image => "IMAGE"
  | .img => "IMG"
  | .input => "INPUT"
  | .isindex => "ISINDEX"
  | .keygen => "KEYGEN"
  | .link => "LINK"
  | .menuitem => "MENUITEM"
  | .«meta» => "META"
  | .nextid => "NEXTID"
  | .param => "PARAM"
  | .source => "SOURCE"
  | .track => "TRACK"
  | .wbr => "WBR"
  | .a => "A"
  | .abbr => "ABBR"
  | .address => "ADDRESS"
  | .article => "ARTICLE"
  | .aside => "ASIDE"
  | .audio => "AUDIO"
  | .b => "B"
  | .bdi => "BDI"
  | .bdo => "BDO"
  | .blockquote => "BLOCKQUOTE"
  | .body => "BODY"
  | .button => "BUTTON"
  | .canvas => "CANVAS"
  | .caption => "CAPTION"
  | .cite => "CITE"
  | .code => "CODE"
  | .colgroup => "COLGROUP"
  | .data => "DATA"
  | .datalist => "DATALIST"
  | .dd => "DD"
  | .del => "DEL"
  | .details => "DETAILS"
  | .dfn => "DFN"
  | .dialog => "DIALOG"
  | .div => "DIV"
  | .dl => "DL"
  | .dt => "DT"
  | .em => "EM"
  | .fieldset => "FIELDSET"
  | .figcaption => "FIGCAPTION"
  | .figure => "FIGURE"
  | .footer => "FOOTER"
  | .form => "FORM"
  | .h1 => "H1"
  | .h2 => "H2"
  | .h3 => "H3"
  | .h4 => "H4"
  | .h5 => "H5"
  | .h6 => "H6"
  | .head => "HEAD"
  | .header => "HEADER"
  | .hgroup => "HGROUP"
  | .html => "HTML"
  | .i => "I"
  | .iframe => "IFRAME"
  | .ins => "INS"
  | .kbd => "KBD"
  | .label => "LABEL"
  | .legend => "LEGEND"
  | .li => "LI"
  | .main => "MAIN"
  | .map => "MAP"
  | .mark => "MARK"
  | .math => "MATH"
  | .menu => "MENU"
  | .meter => "METER"
  | .nav => "NAV"
  | .noscript => "NOSCRIPT"
  | .object => "OBJECT"
  | .ol => "OL"
  | .optgroup => "OPTGROUP"
  | .option => "OPTION"
  | .output => "OUTPUT"
  | .p => "P"
  | .picture => "PICTURE"
  | .pre => "PRE"
  | .progress => "PROGRESS"
  | .q => "Q"
  | .rb => "RB"
  | .rp => "RP"
  | .rt => "RT"
  | .rtc => "RTC"
  | .ruby => "RUBY"
  | .s => "S"
  | .samp => "SAMP"
  | .script => "SCRIPT"
  | .«section» => "SECTION"
  | .select => "SELECT"
  | .slot => "SLOT"
  | .small => "SMALL"
  | .span => "SPAN"
  | .strong => "STRONG"
  | .style => "STYLE"
  | .sub => "SUB"
  | .summary => "SUMMARY"
  | .sup => "SUP"
  | .svg => "SVG"
  | .table => "TABLE"
  | .tbody => "TBODY"
  | .td => "TD"
  | .template => "TEMPLATE"
  | .textarea => "TEXTAREA"
  | .tfoot => "TFOOT"
  | .th => "TH"
  | .thead => "THEAD"
  | .time => "TIME"
  | .title => "TITLE"
  | .tr => "TR"
  | .u => "U"
  | .ul => "UL"
  | .«var» => "VAR"
  | .video => "VIDEO"

/-- All elements in their order. -/
def all : List Element :=
  [
    .area, .base, .basefont, .bgsound, .br, .col, .command, .embed, .frame, .hr, .image, .img,
    .input, .isindex, .keygen, .link, .menuitem, .«meta», .nextid, .param, .source, .track, .wbr,
    .a, .abbr, .address, .article, .aside, .audio, .b, .bdi, .bdo, .blockquote, .body, .button,
    .canvas, .caption, .cite, .code, .colgroup, .data, .datalist, .dd, .del, .details, .dfn,
    .dialog, .div, .dl, .dt, .em, .fieldset, .figcaption, .figure, .footer, .form, .h1, .h2, .h3,
    .h4, .h5, .h6, .head, .header, .hgroup, .html, .i, .iframe, .ins, .kbd, .label, .legend, .li,
    .main, .map, .mark, .math, .menu, .meter, .nav, .noscript, .object, .ol, .optgroup, .option,
    .output, .p, .picture, .pre, .progress, .q, .rb, .rp, .rt, .rtc, .ruby, .s, .samp, .script,
    .«section», .select, .slot, .small, .span, .strong, .style, .sub, .summary, .sup, .svg, .table,
    .tbody, .td, .template, .textarea, .tfoot, .th, .thead, .time, .title, .tr, .u, .ul, .«var»,
    .video]

/-- The place of the element in the order, as a byte. -/
def byte (e : Element) : UInt8 :=
  .ofNat e.ctorIdx

/-- The element with the given upper-case name. -/
def ofName? (name : String) : Option Element :=
  all.find? (·.name == name)

/-- The element with the given byte. -/
def ofByte? (byte : UInt8) : Option Element :=
  all[byte.toNat]?

/-- Whether the element never has content or an end tag. -/
def isVoid (e : Element) : Bool :=
  e.byte ≤ wbr.byte

theorem ofByte?_byte (e : Element) : ofByte? e.byte = some e := by
  cases e <;> rfl

theorem mem_all (e : Element) : e ∈ all :=
  List.mem_of_getElem? (ofByte?_byte e)

theorem ofName?_name (e : Element) : ofName? e.name = some e :=
  (by decide +kernel : ∀ e ∈ all, ofName? e.name = some e) e e.mem_all

end Element

end TemplateScan.Markup
