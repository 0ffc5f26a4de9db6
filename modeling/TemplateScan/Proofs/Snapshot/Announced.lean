import TemplateScan.Proofs.Snapshot.Stability
import TemplateScan.Proofs.Snapshot.Truncation

/-!
# Reading bytes that are no snapshot

Any bytes are read as a state.  Whatever they are, it is a state as scanning makes them: the numbers
of a header are below 65536, so no nesting is deeper; the byte of the custom tags stands for no
element of HTML; and no text makes the built-in delimiter.  The header alone decides how deep a
nesting is, and a snapshot of the state announces the same depth again.

* `size_takeNesting`: the depth of a nesting is the greater number of its header, whatever follows.
* `IsUsable`: what every state that is read has in common.
* `decode_isUsable`: any bytes are read as such a state, and a further snapshot keeps its depths.
-/

namespace TemplateScan.Snapshot

open Text Markup Mustache

/-! ## Headers -/

/-- The number of two bytes at a position. -/
def numberAt (bytes : List UInt8) (position : Nat) : Nat :=
  (bytes.getD position 0).toNat + 256 * (bytes.getD (position + 1) 0).toNat

theorem takeNumber?_le {bytes rest : List UInt8} {n : Nat}
    (hnumber : takeNumber? bytes = some (n, rest)) : n ≤ maxScopes := by
  rw [maxScopes]
  obtain _ | ⟨low, _ | ⟨high, later⟩⟩ := bytes
  · cases hnumber
  · cases hnumber
  · have hlow := low.toNat_lt
    have hhigh := high.toNat_lt
    simp only [takeNumber?, Option.some.injEq, Prod.mk.injEq] at hnumber
    omega

/-! ## Nestings -/

section Nesting

variable {α : Type} {placeholder : α} {takeOne? : List UInt8 → Option (α × List UInt8)}

theorem size_padded (size : Nat) (scopes : List α) :
    (padded placeholder size scopes).size = max size scopes.length := by
  simp only [padded, Nesting.size, List.length_append, List.length_replicate]
  omega

/-- No more entries are read than were asked for, though reading may end before. -/
theorem length_takeEntries_le (takeOne? : List UInt8 → Option (α × List UInt8)) (n : Nat)
    (before : List α) (bytes : List UInt8) :
    (takeEntries takeOne? n before bytes).1.length ≤ before.length + n := by
  induction n generalizing before bytes with
  | zero => exact Nat.le_refl _
  | succ n ih =>
    rw [takeEntries]
    split
    · exact Nat.le_add_right _ _
    · next entry rest _ =>
      have hle := ih (entry :: before) rest
      rw [List.length_cons] at hle
      omega

/-- The greater of the two numbers of a header tells how deep the nesting is. -/
theorem size_takeNesting {bytes rest rest' : List UInt8} {emitted size : Nat}
    (hemitted : takeNumber? bytes = some (emitted, rest))
    (hsize : takeNumber? rest = some (size, rest')) :
    (takeNesting placeholder takeOne? (some bytes)).1.size = max emitted size := by
  have hle := length_takeEntries_le takeOne? emitted [] rest'
  rw [List.length_nil, Nat.zero_add] at hle
  simp only [takeNesting, hemitted, hsize, size_padded]
  omega

theorem size_takeNesting_le (bytes? : Option (List UInt8)) :
    (takeNesting placeholder takeOne? bytes?).1.size ≤ maxScopes := by
  cases bytes? with
  | none => exact Nat.zero_le _
  | some bytes =>
    cases hemitted : takeNumber? bytes with
    | none =>
      simp only [takeNesting, hemitted]
      exact Nat.zero_le _
    | some first =>
      obtain ⟨emitted, rest⟩ := first
      have hfew := takeNumber?_le hemitted
      cases hsize : takeNumber? rest with
      | none =>
        -- the first number stands for both
        simp only [takeNesting, hemitted, hsize, size_padded, List.length_nil]
        omega
      | some second =>
        rw [size_takeNesting hemitted hsize]
        exact Nat.max_le.mpr ⟨hfew, takeNumber?_le hsize⟩

end Nesting

/-! ## States -/

/-- A state as scanning makes them: no nesting is deeper than a snapshot can tell of, no element of
HTML is stored as a custom tag, and no delimiter is set to no text. -/
structure IsUsable (s : ScanState) : Prop where
  tagCount : s.tags.size ≤ maxScopes
  sectionCount : s.sections.size ≤ maxScopes
  known_byte_ne : ∀ e, .known e ∈ s.tags.toList → (Tag.known e).byte ≠ Tag.customByte
  customText_ne : ∀ d ∈ [s.delimiters.opening, s.delimiters.closing, s.delimiters.previousClosing],
    d ≠ .builtin → d.customText ≠ ""

theorem customText_ne {d : Delimiter} (hset : d ≠ .builtin) : d.customText ≠ "" := by
  cases d with
  | builtin => exact absurd rfl hset
  | custom text htext => exact htext

section Decode

variable (capacity : Nat) (bytes : List UInt8)

theorem tags_decode : (decode capacity bytes).state.tags =
    (takeNesting .placeholder takeTag? (some (bytes.take capacity))).1 := by
  rw [state_decode]

theorem isUsable_decode : IsUsable (decode capacity bytes).state where
  tagCount := by
    rw [tags_decode]
    exact size_takeNesting_le _
  sectionCount := by
    rw [state_decode]
    exact size_takeNesting_le _
  known_byte_ne e _ := byte_ne_customByte e
  customText_ne _ _ := customText_ne

/-- With the header of the tags, the nesting has the announced depth. -/
theorem size_tags_decode (hheader : headerBytes ≤ min bytes.length capacity) :
    (decode capacity bytes).state.tags.size = max (numberAt bytes 0) (numberAt bytes 2) := by
  obtain ⟨hbytes, hcapacity⟩ := Nat.le_min.mp hheader
  obtain ⟨more, rfl⟩ := Nat.exists_eq_add_of_le' hcapacity
  match bytes, hbytes with
  | low :: high :: low' :: high' :: rest, _ =>
    rw [tags_decode]
    exact size_takeNesting rfl rfl

end Decode

/-- A further snapshot tells of all scopes of a state that is not too deep. -/
theorem size_roundTrip {capacity : Nat} {s : ScanState} (hcapacity : fixedBytes ≤ capacity)
    (husable : IsUsable s) :
    (roundTrip capacity s).tags.size = s.tags.size ∧
      (roundTrip capacity s).sections.size = s.sections.size := by
  rw [roundTrip_of_le s hcapacity, size_restored_tags, size_restored_sections]
  exact ⟨Nat.min_eq_left husable.tagCount, Nat.min_eq_left husable.sectionCount⟩

/-- **Any bytes are read as a usable state of the announced depth.**  Whatever the bytes and the
capacity, no nesting of the state read is deeper than 65535 scopes, no element is mistaken for a
custom one and no delimiter is set to no text; with four bytes to read, as many elements are open as
the greater number of the first header says; and from a snapshot of any capacity with room for the
headers, both nestings come back as deep as they are. -/
theorem decode_isUsable (capacity : Nat) (bytes : List UInt8) :
    IsUsable (decode capacity bytes).state ∧
    (headerBytes ≤ min bytes.length capacity →
      (decode capacity bytes).state.tags.size = max (numberAt bytes 0) (numberAt bytes 2)) ∧
    ∀ again, fixedBytes ≤ again →
      (roundTrip again (decode capacity bytes).state).tags.size =
          (decode capacity bytes).state.tags.size ∧
        (roundTrip again (decode capacity bytes).state).sections.size =
          (decode capacity bytes).state.sections.size := by
  have husable := isUsable_decode capacity bytes
  refine ⟨husable, size_tags_decode capacity bytes, ?_⟩
  intro again hroom
  exact size_roundTrip hroom husable

/-- Bytes that announce 513 entries and 3 elements, and end in a byte that no tag is stored
under. -/
def brokenBytes : List UInt8 :=
  [1, 2, 3, 0, 47, 125, 1, 0xFF, 200]

/-- `brokenBytes` make 513 elements, of which two are read, and eleven bytes tell of as many. -/
theorem decode_isUsable_brokenBytes :
    (decode 1024 brokenBytes).state.tags.size = 513 ∧
      (decode 1024 brokenBytes).state.tags.toList.take 3 =
        [.known .div, .custom "\uFFFD", .placeholder] ∧
      (roundTrip 11 (decode 1024 brokenBytes).state).tags.size = 513 := by
  obtain ⟨-, hsize, hagain⟩ := decode_isUsable 1024 brokenBytes
  have hannounced : (decode 1024 brokenBytes).state.tags.size = 513 := hsize (by decide)
  refine ⟨hannounced, by decide +kernel, ?_⟩
  rw [(hagain 11 (by decide)).1, hannounced]

end TemplateScan.Snapshot
