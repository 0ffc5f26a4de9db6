import TemplateScan.Token.Kind

/-!
# Sets of admissible kinds

At every position the grammar admits some kinds of tokens only; the scanner looks for no others.
-/

namespace TemplateScan

/-- A set of kinds of tokens. -/
structure TokenSet where
  /-- Whether a kind is in the set. -/
  contains : TokenKind → Bool

namespace TokenSet

/-- The set without any kind. -/
def empty : TokenSet :=
  ⟨fun _ => false⟩

/-- The set of all kinds. -/
def full : TokenSet :=
  ⟨fun _ => true⟩

/-- The set of the listed kinds. -/
def ofList (kinds : List TokenKind) : TokenSet :=
  ⟨kinds.contains⟩

/-- The set of one kind. -/
def singleton (kind : TokenKind) : TokenSet :=
  ⟨(· == kind)⟩

/-- The set with a further kind. -/
def insert (s : TokenSet) (kind : TokenKind) : TokenSet :=
  ⟨fun k => k == kind || s.contains k⟩

/-- The set without a kind. -/
def erase (s : TokenSet) (kind : TokenKind) : TokenSet :=
  ⟨fun k => k != kind && s.contains k⟩

/-- The kinds in the set, in their order. -/
def toList (s : TokenSet) : List TokenKind :=
  TokenKind.all.filter s.contains

/-- Whether the set holds no kind. -/
def isEmpty (s : TokenSet) : Bool :=
  s.toList.isEmpty

/-- The set as log messages have it: the labels in quotes, between braces. -/
def render (s : TokenSet) : String :=
  "\x7B" ++ ", ".intercalate (s.toList.map fun kind => "\"" ++ kind.label ++ "\"") ++ "\x7D"

theorem mem_toList (s : TokenSet) (kind : TokenKind) :
    kind ∈ s.toList ↔ s.contains kind = true := by
  simp [toList, TokenKind.mem_all]

end TokenSet

end TemplateScan
