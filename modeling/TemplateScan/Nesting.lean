/-!
# Nesting

Elements and sections are opened and closed in nested order.  A nesting holds the scopes that are
open, the innermost one on top.
-/

namespace TemplateScan

/-- What is open, the innermost scope first. -/
structure Nesting (α : Type) where
  innermostFirst : List α := []
deriving DecidableEq, Repr, Inhabited

namespace Nesting

variable {α : Type}

/-- Nothing is open. -/
def empty : Nesting α :=
  ⟨[]⟩

/-- The nesting of the given scopes, the outermost first. -/
def ofList (scopes : List α) : Nesting α :=
  ⟨scopes.reverse⟩

/-- The open scopes, the outermost first. -/
def toList (s : Nesting α) : List α :=
  s.innermostFirst.reverse

/-- Opens a scope inside the others. -/
def push (s : Nesting α) (scope : α) : Nesting α :=
  ⟨scope :: s.innermostFirst⟩

/-- The innermost scope. -/
def top? (s : Nesting α) : Option α :=
  s.innermostFirst.head?

/-- Closes the innermost scope, if there is one. -/
def pop (s : Nesting α) : Nesting α :=
  ⟨s.innermostFirst.tail⟩

/-- The number of open scopes. -/
def size (s : Nesting α) : Nat :=
  s.innermostFirst.length

/-- Whether nothing is open. -/
def isEmpty (s : Nesting α) : Bool :=
  s.innermostFirst.isEmpty

/-- Whether the innermost scope is the given one, so that it may be closed under this name. -/
def closes [BEq α] (s : Nesting α) (scope : α) : Bool :=
  s.top? == some scope

/-- How many scopes lie inside the innermost one that satisfies `p`, if any does. -/
def depthOf? (s : Nesting α) (p : α → Bool) : Option Nat :=
  s.innermostFirst.findIdx? p

/-- Whether a scope that satisfies `p` is open. -/
def any (s : Nesting α) (p : α → Bool) : Bool :=
  s.innermostFirst.any p

@[simp] theorem toList_ofList (scopes : List α) : (ofList scopes).toList = scopes := by
  simp [ofList, toList]

@[simp] theorem ofList_toList (s : Nesting α) : ofList s.toList = s := by
  simp [ofList, toList]

@[simp] theorem toList_push (s : Nesting α) (scope : α) :
    (s.push scope).toList = s.toList ++ [scope] := by
  simp [push, toList]

@[simp] theorem pop_push (s : Nesting α) (scope : α) : (s.push scope).pop = s := rfl

@[simp] theorem closes_push [BEq α] [ReflBEq α] (s : Nesting α) (scope : α) :
    (s.push scope).closes scope = true := by
  simp [closes, push, top?]

@[simp] theorem length_toList (s : Nesting α) : s.toList.length = s.size := by
  simp [toList, size]

end Nesting

end TemplateScan
