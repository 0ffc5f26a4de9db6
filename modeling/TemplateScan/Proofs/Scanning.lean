import TemplateScan.Scanner

/-!
# What a scan finds

The token of a scan and the place behind it, by the reading alone.
-/

namespace TemplateScan

open Text

/-- Going on from where characters are ahead gets further. -/
theorem Text.Place.offset_lt_advance {p : Place} {n : Nat} (hpos : 0 < n) (hne : p.ahead ≠ []) :
    p.offset < (p.advance n).offset := by
  rw [Place.advance_offset]
  cases hahead : p.ahead with
  | nil => exact absurd hahead hne
  | cons c rest =>
    obtain ⟨m, rfl⟩ := Nat.exists_eq_succ_of_ne_zero (Nat.ne_of_gt hpos)
    have hsize := c.utf8Size_pos
    simp only [List.take_succ_cons, Utf8.byteLength_cons]
    omega

/-- Going on over some of the characters ahead leads behind them. -/
theorem Text.Place.advance_append (offset : Nat) (chars rest : List Char) :
    Place.advance ⟨offset, chars ++ rest⟩ chars.length =
      ⟨offset + Utf8.byteLength chars, rest⟩ := by
  induction chars generalizing offset with
  | nil => rfl
  | cons c chars ih =>
    show Place.advance ⟨offset + c.utf8Size, chars ++ rest⟩ chars.length = _
    rw [ih, Utf8.byteLength_cons, Nat.add_assoc]

/-- The reading finds the next `n` characters as a token, and no count went over on the way. -/
structure Reading.Finds (reading : Reading) (finding : Finding) (n : Nat) : Prop where
  finding : reading.finding = finding
  skipped : reading.skipped = 0
  length : reading.length = n
  overflowed : reading.overflowed = false

/-- The reading finds nothing, and no count went over on the way. -/
structure Reading.FindsNothing (reading : Reading) : Prop where
  finding : reading.finding = .nothing
  overflowed : reading.overflowed = false

theorem Reading.finds_take (finding : Finding) (n : Nat) :
    (Reading.take finding n).Finds finding n :=
  ⟨rfl, rfl, rfl, rfl⟩

theorem Reading.finds_ofLength (finding : Finding) (n read : Nat) :
    (Reading.ofLength finding n read).Finds finding n :=
  ⟨rfl, rfl, rfl, rfl⟩

namespace Scan

variable (scan : Scan)

theorem cursor_first : scan.cursor.first = scan.entry.advance scan.reading.skipped :=
  Reading.follow_first scan.reading scan.entry

theorem cursor_last :
    scan.cursor.last = scan.entry.advance (scan.reading.skipped + scan.reading.length) :=
  Reading.follow_last scan.reading scan.entry

theorem cursor_span :
    scan.cursor.span = ⟨(scan.entry.advance scan.reading.skipped).offset,
      (scan.entry.advance (scan.reading.skipped + scan.reading.length)).offset⟩ := by
  rw [Cursor.span, cursor_first, cursor_last]

section Finds

variable {scan} {finding : Finding} {n : Nat}

theorem kind?_of_finds (hfinds : scan.reading.Finds finding n) : scan.kind? = finding.kind? := by
  rw [kind?, hfinds.finding]

theorem last_of_finds (hfinds : scan.reading.Finds finding n) :
    scan.cursor.last = scan.entry.advance n := by
  rw [cursor_last, hfinds.skipped, hfinds.length, Nat.zero_add]

theorem span_of_finds (hfinds : scan.reading.Finds finding n) :
    scan.cursor.span = ⟨scan.entry.offset, (scan.entry.advance n).offset⟩ := by
  rw [cursor_span, hfinds.skipped, hfinds.length, Nat.zero_add]
  rfl

theorem token?_of_finds {kind : TokenKind} (hfinds : scan.reading.Finds finding n)
    (hkind : finding.kind? = some kind) :
    scan.token? = some ⟨kind, ⟨scan.entry.offset, (scan.entry.advance n).offset⟩⟩ := by
  rw [token?, kind?_of_finds hfinds, hkind, Option.map_some, span_of_finds hfinds]

theorem state_of_finds (hfinds : scan.reading.Finds finding n) :
    scan.after.state = finding.apply scan.before.state := by
  rw [after, hfinds.finding]

end Finds

end Scan

end TemplateScan
