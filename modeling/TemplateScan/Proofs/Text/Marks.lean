import TemplateScan.Lexing.Literal
import TemplateScan.Proofs.Text.Stretches

/-!
# Marks and literals among bytes

A reader that goes on by bytes tells their number from what is ahead: one for a mark of the markup,
or as many as there are up to behind a mark that is looked for among the bytes, or behind a literal.

* `Utf8.idxOf?_encode`: an ASCII character is found among the bytes of a text where it is found
  among its characters.
* `byteLength_take_mark`, `byteLength_take_literal`: how many bytes there are up to behind it.
-/

namespace TemplateScan.Text

/-! ## Marks among bytes -/

/-- A character that is written as one byte. -/
def IsMark (c : Char) : Prop :=
  c.toNat < 0x80

instance (c : Char) : Decidable (IsMark c) :=
  inferInstanceAs (Decidable (c.toNat < 0x80))

namespace Utf8

/-- The byte of a mark. -/
def markByte (c : Char) : UInt8 :=
  .ofNat c.toNat

theorem encodeChar_mark {c : Char} (hc : IsMark c) : encodeChar c = [markByte c] := by
  rw [encodeChar]
  exact if_pos hc

theorem utf8Size_mark {c : Char} (hc : IsMark c) : c.utf8Size = 1 := by
  rw [← length_encodeChar, encodeChar_mark hc, List.length_singleton]

theorem byteLength_marks {marks : List Char} (hmarks : ∀ c ∈ marks, IsMark c) :
    byteLength marks = marks.length := by
  induction marks with
  | nil => rfl
  | cons c marks ih =>
    obtain ⟨hc, hlater⟩ := List.forall_mem_cons.mp hmarks
    rw [byteLength_cons, utf8Size_mark hc, ih hlater, List.length_cons, Nat.add_comm]

/-- A byte below 0x80 stands only for the character that has its number. -/
theorem toNat_of_mem_encodeChar {byte : UInt8} {c : Char} (hmem : byte ∈ encodeChar c)
    (hbyte : byte.toNat < 0x80) : byte.toNat = c.toNat := by
  have hscalar := isScalar c
  -- in the encodings of more than one byte, all the bytes are 0x80 at least
  have hhigh : ∀ {n : Nat}, byte = .ofNat n → 0x80 ≤ n → n < 0x100 → byte.toNat = c.toNat := by
    intro n heq hle hlt
    rw [heq, toNat_ofNat hlt] at hbyte
    omega
  rw [encodeChar] at hmem
  split at hmem
  · rw [List.mem_singleton.mp hmem]
    exact toNat_ofNat (by omega)
  split at hmem
  · simp only [List.mem_cons, List.not_mem_nil, or_false] at hmem
    rcases hmem with heq | heq
    all_goals exact hhigh heq (by omega) (by omega)
  split at hmem
  · simp only [List.mem_cons, List.not_mem_nil, or_false] at hmem
    rcases hmem with heq | heq | heq
    all_goals exact hhigh heq (by omega) (by omega)
  · simp only [List.mem_cons, List.not_mem_nil, or_false] at hmem
    rcases hmem with heq | heq | heq | heq
    all_goals exact hhigh heq (by omega) (by omega)

/-- The byte of a mark is in the encoding of this mark only. -/
theorem eq_of_markByte_mem {c d : Char} (hc : IsMark c) (hmem : markByte c ∈ encodeChar d) :
    d = c := by
  have hvalue : (markByte c).toNat = c.toNat :=
    toNat_ofNat (Nat.lt_trans hc (by decide))
  have hnumber := toNat_of_mem_encodeChar hmem (hvalue ▸ hc)
  rw [hvalue] at hnumber
  rw [← Char.ofNat_toNat c, hnumber, Char.ofNat_toNat]

/-- A mark is found among the bytes of a text where it is found among its characters. -/
theorem idxOf?_encode {c : Char} (hc : IsMark c) (chars : List Char) :
    (encode chars).idxOf? (markByte c) =
      (chars.idxOf? c).map fun n => byteLength (chars.take n) := by
  induction chars with
  | nil => rfl
  | cons d chars ih =>
    show (encodeChar d ++ encode chars).idxOf? (markByte c) = _
    rw [List.idxOf?_cons]
    by_cases heq : d = c
    · subst heq
      simp [encodeChar_mark hc, List.idxOf?_cons]
    · have hnone : (encodeChar d).idxOf? (markByte c) = none := by
        rw [List.idxOf?_eq_none_iff]
        exact fun hmem => heq (eq_of_markByte_mem hc hmem)
      rw [List.idxOf?] at hnone ih ⊢
      rw [List.findIdx?_append, hnone, ih, length_encodeChar, if_neg (by simpa using heq)]
      simp [Function.comp_def, Nat.add_comm]

end Utf8

/-! ## Literals -/

open Utf8

theorem isPrefix_of_occurrenceFrom? {count n : Nat} {literal ahead : List Char}
    (hfound : Lexing.occurrenceFrom? count literal ahead = some n) :
    ∃ m, n = count + m ∧ literal <+: ahead.drop m := by
  induction ahead generalizing count with
  | nil =>
    rw [Lexing.occurrenceFrom?] at hfound
    split at hfound
    · next hempty =>
      refine ⟨0, (Option.some.inj hfound).symm, ?_⟩
      rw [List.isEmpty_iff.mp hempty]
      exact List.nil_prefix
    · cases hfound
  | cons c ahead ih =>
    rw [Lexing.occurrenceFrom?] at hfound
    split at hfound
    · next hbegins =>
      exact ⟨0, (Option.some.inj hfound).symm, List.isPrefixOf_iff_prefix.mp hbegins⟩
    · obtain ⟨m, rfl, hbegins⟩ := ih hfound
      exact ⟨m + 1, by rw [Nat.add_assoc, Nat.add_comm 1], hbegins⟩

/-- A literal is where it is found. -/
theorem isPrefix_of_occurrence? {n : Nat} {literal ahead : List Char}
    (hfound : Lexing.occurrence? literal ahead = some n) : literal <+: ahead.drop n := by
  obtain ⟨m, rfl, hbegins⟩ := isPrefix_of_occurrenceFrom? hfound
  rwa [Nat.zero_add]

section Found

variable {ahead : List Char} {n : Nat}

/-- The bytes up to behind a mark. -/
theorem byteLength_take_mark {c : Char} (hc : IsMark c) (hfound : ahead.idxOf? c = some n) :
    byteLength (ahead.take (n + 1)) = byteLength (ahead.take n) + 1 := by
  obtain ⟨hn, hget, -⟩ := List.findIdx?_eq_some_iff_getElem.mp hfound
  rw [List.take_succ_eq_append_getElem hn, byteLength_append, beq_iff_eq.mp hget, byteLength_cons,
    utf8Size_mark hc]
  rfl

/-- The bytes up to behind a literal. -/
theorem byteLength_take_literal {literal : List Char}
    (hfound : Lexing.occurrence? literal ahead = some n) :
    byteLength (ahead.take (n + literal.length)) =
      byteLength (ahead.take n) + byteLength literal := by
  obtain ⟨rest, hrest⟩ := isPrefix_of_occurrence? hfound
  rw [List.take_add, ← hrest, List.take_left, byteLength_append]

end Found

end TemplateScan.Text
