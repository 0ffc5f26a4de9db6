import TemplateScan.Text.Utf8

/-!
# Places in a text

A place is a character boundary of a text: its distance from the beginning in bytes and the
characters that are still ahead.  All positions that the library reports are offsets of places, so
none falls inside a character.

* `Place.IsIn text p`: `p` is a place of `text`, that is, `text` is some characters of `p.offset`
  bytes followed by those ahead of `p`.
* `Place.IsIn.advance`: going on from a place leads to places of the same text.
* `Place.at?_eq_some_iff`: the places of a text are found by their offsets, and nothing else is.
-/

namespace TemplateScan.Text

/-- A character boundary of a text. -/
structure Place where
  /-- The bytes before the place. -/
  offset : Nat
  /-- The characters from the place on. -/
  ahead : List Char
deriving DecidableEq, Repr, Inhabited

namespace Place

/-- Where a text begins. -/
def start (text : List Char) : Place :=
  ⟨0, text⟩

/-- `p` is a character boundary of the text. -/
def IsIn (text : List Char) (p : Place) : Prop :=
  ∃ before, text = before ++ p.ahead ∧ p.offset = Utf8.byteLength before

/-- The character ahead, if the text goes on. -/
def next? (p : Place) : Option Char :=
  p.ahead.head?

/-- Whether the text ends here. -/
def atEnd (p : Place) : Bool :=
  p.ahead.isEmpty

/-- The place behind the character ahead; the end of the text stays where it is. -/
def step (p : Place) : Place :=
  match p.ahead with
  | [] => p
  | c :: rest => ⟨p.offset + c.utf8Size, rest⟩

/-- The place `n` characters on, or the end of the text if that comes first. -/
def advance (p : Place) : Nat → Place
  | 0 => p
  | n + 1 => p.step.advance n

/-- The place behind the longest run of characters of a class. -/
def skipWhile (p : Place) (inClass : Char → Bool) : Place :=
  p.advance (p.ahead.takeWhile inClass).length

/-- Walks on to the place that has the given offset; `none` if the offset lies behind, inside a
character or beyond the end. -/
def walk? (offset : Nat) : List Char → Nat → Option Place
  | ahead, target =>
    if offset = target then some ⟨offset, ahead⟩
    else if target < offset then none
    else match ahead with
      | [] => none
      | c :: rest => walk? (offset + c.utf8Size) rest target

/-- The place at a byte offset of the text, if that is a character boundary. -/
def at? (text : List Char) (offset : Nat) : Option Place :=
  walk? 0 text offset

/-! ## Going on -/

open Utf8

theorem step_ahead (p : Place) : p.step.ahead = p.ahead.drop 1 := by
  unfold step
  split <;> simp_all

theorem step_offset (p : Place) : p.step.offset = p.offset + byteLength (p.ahead.take 1) := by
  unfold step
  split <;> simp_all

/-- Going on takes characters away from those ahead. -/
theorem advance_ahead (p : Place) (n : Nat) : (p.advance n).ahead = p.ahead.drop n := by
  induction n generalizing p with
  | zero => rfl
  | succ n ih => rw [advance, ih, step_ahead, List.drop_drop, Nat.add_comm]

/-- Going on adds the bytes of the characters passed. -/
theorem advance_offset (p : Place) (n : Nat) :
    (p.advance n).offset = p.offset + byteLength (p.ahead.take n) := by
  induction n generalizing p with
  | zero => simp [advance]
  | succ n ih =>
    rw [advance, ih, step_offset, step_ahead, Nat.add_assoc, ← byteLength_append]
    congr 2
    cases p.ahead <;> simp

theorem advance_add (p : Place) (m n : Nat) : p.advance (m + n) = (p.advance m).advance n := by
  induction m generalizing p with
  | zero => rw [Nat.zero_add]; rfl
  | succ m ih => rw [Nat.succ_add]; exact ih p.step

theorem isIn_start (text : List Char) : (start text).IsIn text :=
  ⟨[], rfl, rfl⟩

/-- Going on from a place of a text leads to places of it. -/
theorem IsIn.advance {text : List Char} {p : Place} (h : p.IsIn text) (n : Nat) :
    (p.advance n).IsIn text := by
  obtain ⟨before, split, size⟩ := h
  refine ⟨before ++ p.ahead.take n, ?_, ?_⟩
  · rw [advance_ahead, List.append_assoc, List.take_append_drop, split]
  · rw [advance_offset, byteLength_append, size]

/-! ## Looking up -/

/-- A walk ends at the place behind some of the characters ahead that has the offset asked for. -/
theorem walk?_eq_some_iff {offset target : Nat} {ahead : List Char} {p : Place} :
    walk? offset ahead target = some p ↔
      ∃ passed, ahead = passed ++ p.ahead ∧ p.offset = offset + byteLength passed ∧
        p.offset = target := by
  induction ahead generalizing offset with
  | nil =>
    unfold walk?
    constructor
    · intro h
      split at h
      · obtain rfl := Option.some.inj h
        exact ⟨[], rfl, rfl, ‹_›⟩
      · split at h <;> simp at h
    · rintro ⟨passed, split, moved, rfl⟩
      obtain ⟨rfl, none_ahead⟩ := List.append_eq_nil_iff.1 split.symm
      have here : offset = p.offset := by simpa using moved.symm
      rw [if_pos here, here, ← none_ahead]
  | cons c rest ih =>
    -- a character has bytes, so a target before the end of this one is not reached later
    have positive := c.utf8Size_pos
    unfold walk?
    constructor
    · intro h
      split at h
      · obtain rfl := Option.some.inj h
        exact ⟨[], rfl, rfl, ‹_›⟩
      split at h
      · simp at h
      · obtain ⟨passed, rfl, moved, reached⟩ := ih.1 h
        exact ⟨c :: passed, rfl, by rw [moved, byteLength_cons, Nat.add_assoc], reached⟩
    · rintro ⟨passed, split, moved, rfl⟩
      cases passed with
      | nil =>
        have here : offset = p.offset := by simpa using moved.symm
        rw [if_pos here, here, split]
        rfl
      | cons d passed =>
        obtain ⟨rfl, rfl⟩ := List.cons.inj split
        rw [byteLength_cons] at moved
        rw [if_neg (by omega), if_neg (by omega)]
        exact ih.2 ⟨passed, rfl, by omega, rfl⟩

/-- A walk from a place of a text ends at one. -/
theorem IsIn.walk? {text : List Char} {p q : Place} {target : Nat} (h : p.IsIn text)
    (found : Place.walk? p.offset p.ahead target = some q) : q.IsIn text := by
  obtain ⟨before, split, size⟩ := h
  obtain ⟨passed, ahead, moved, -⟩ := walk?_eq_some_iff.1 found
  exact ⟨before ++ passed, by rw [split, ahead, List.append_assoc],
    by rw [moved, size, byteLength_append]⟩

/-- The places of a text are found by their offsets, and nothing else is. -/
theorem at?_eq_some_iff {text : List Char} {offset : Nat} {p : Place} :
    at? text offset = some p ↔ p.IsIn text ∧ p.offset = offset := by
  unfold at? IsIn
  rw [walk?_eq_some_iff]
  constructor
  · rintro ⟨passed, split, moved, reached⟩
    exact ⟨⟨passed, split, by simpa using moved⟩, reached⟩
  · rintro ⟨⟨passed, split, moved⟩, reached⟩
    exact ⟨passed, split, by simpa using moved, reached⟩

/-- A place of a text is known by its offset. -/
theorem IsIn.eq_of_offset {text : List Char} {p q : Place} (hp : p.IsIn text) (hq : q.IsIn text)
    (same : p.offset = q.offset) : p = q :=
  Option.some.inj ((at?_eq_some_iff.2 ⟨hp, same⟩).symm.trans (at?_eq_some_iff.2 ⟨hq, rfl⟩))

end Place

end TemplateScan.Text
