import TemplateScan.Markup.Element

/-!
# Tags

A tag names an element of HTML or a custom one.  Names are upper-case already when tags are made of
them, so a name in another case makes a custom tag.

* `ofName_name_known`, `name_ofName`: an element is found by its name, and every name is kept.
-/

namespace TemplateScan.Markup

/-- An element of a document, as its tags name it. -/
inductive Tag where
  /-- An element of HTML. -/
  | known (element : Element)
  /-- Any other element, by its upper-case name. -/
  | custom (name : String)
deriving DecidableEq, Repr

/-- What the scanner's rules distinguish between elements. -/
inductive Category where
  | void | script | style | html | head | body | otherStandard | custom
deriving DecidableEq, Repr, Inhabited

namespace Tag

/-- Stands for an element that is known to be open but no longer known by name: a custom tag without
a name. -/
def placeholder : Tag :=
  .custom ""

instance : Inhabited Tag := ⟨placeholder⟩

/-- The tag that an upper-case name denotes. -/
def ofName (name : String) : Tag :=
  match Element.ofName? name with
  | some e => .known e
  | none => .custom name

/-- The upper-case name. -/
def name : Tag → String
  | known e => e.name
  | custom name => name

/-- The element of HTML that the tag names, if any. -/
def element? : Tag → Option Element
  | known e => some e
  | custom _ => none

/-- The name of a custom tag. -/
def customName? : Tag → Option String
  | known _ => none
  | custom name => some name

/-- The byte under which all custom tags are stored, next to those of the elements. -/
def customByte : UInt8 :=
  .ofNat Element.all.length

/-- The byte under which the tag is stored. -/
def byte : Tag → UInt8
  | known e => e.byte
  | custom _ => customByte

/-- Whether two tags name the same element of HTML or are both custom. -/
def sameKind (a b : Tag) : Bool :=
  a.element? == b.element?

/-- Whether the element never has content or an end tag. -/
def isVoid : Tag → Bool
  | known e => e.isVoid
  | custom _ => false

/-- The category of the element. -/
def category : Tag → Category
  | custom _ => .custom
  | known .script => .script
  | known .style => .style
  | known .html => .html
  | known .head => .head
  | known .body => .body
  | known e => if e.isVoid then .void else .otherStandard

theorem ofName_name_known (e : Element) : ofName (known e).name = known e := by
  simp [ofName, name, Element.ofName?_name]

theorem name_ofName (text : String) : (ofName text).name = text := by
  unfold ofName
  split
  · next e found => simpa [Element.ofName?, name] using List.find?_some found
  · rfl

end Tag

end TemplateScan.Markup
