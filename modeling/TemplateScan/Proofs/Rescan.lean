import TemplateScan.Proofs.Lexing.Lookahead
import TemplateScan.Proofs.Replay

/-!
# A scan depends on what it has read

What a scan comes to is told by the characters up to its reading position and by the one there.  So
a scan need not be made again where a text is changed behind it, or moved: it comes to the same, as
far on in the text as the place that it is made at.

* `Lexing.sameNext_of_ahead`: a place with the characters that going on passes, and the same
  character behind them, goes on alike.
* `Scan.Repeats`: a scan comes to the same as another one, at its own place.
* `Scanner.scan_repeats`: so does each one that finds the same characters ahead.
-/

namespace TemplateScan

open Text

/-- The characters that going on passes, and the same character behind them, are alike ahead. -/
theorem Lexing.sameNext_of_ahead {p q : Place} {n : Nat} {rest : List Char}
    (hahead : q.ahead = p.ahead.take n ++ rest) (hnext : rest.head? = (p.advance n).next?) :
    SameNext (n + 1) p.ahead q.ahead := by
  rw [Place.next?, Place.advance_ahead] at hnext
  rw [SameNext, hahead, List.take_append, List.take_take, List.length_take]
  rcases Nat.lt_or_ge p.ahead.length n with hshort | hlong
  · -- the text ends before, and so does the other one
    rw [List.drop_eq_nil_of_le (Nat.le_of_lt hshort)] at hnext
    rw [List.head?_eq_none_iff.mp hnext, List.take_nil, List.append_nil]
    rw [List.take_of_length_le (by omega), List.take_of_length_le (by omega)]
  · rw [Nat.min_eq_left hlong, Nat.min_eq_right (Nat.le_succ n), Nat.add_sub_cancel_left,
      List.take_one, hnext, List.head?_drop, ← List.take_add_one]

namespace Scan

/-- A scan comes to the same as another one: it finds a token of the same kind, leaves the same
scanner, and its token and its reading position are as far on from its place as the other's. -/
structure Repeats (scan scan' : Scan) : Prop where
  kind? : scan'.kind? = scan.kind?
  after : scan'.after = scan.after
  start : scan'.cursor.span.start + scan.entry.offset =
    scan.cursor.span.start + scan'.entry.offset
  stop : scan'.cursor.span.stop + scan.entry.offset =
    scan.cursor.span.stop + scan'.entry.offset
  here : scan'.cursor.here.offset + scan.entry.offset =
    scan.cursor.here.offset + scan'.entry.offset

end Scan

section Rescan

variable {s : Scanner} {valid : TokenSet} {p q : Place} {n : Nat}

/-- Places with the same characters ahead are passed alike. -/
theorem Lexing.SameNext.offset_advance (hsame : Lexing.SameNext (n + 1) p.ahead q.ahead) {m : Nat}
    (hm : m ≤ n) : (q.advance m).offset + p.offset = (p.advance m).offset + q.offset := by
  have htake : q.ahead.take m = p.ahead.take m := by
    have hboth := congrArg (List.take m) hsame
    rwa [List.take_take, List.take_take, Nat.min_eq_left (by omega)] at hboth
  rw [Place.advance_offset, Place.advance_offset, htake]
  omega

/-- A scan at a place that goes on alike comes to the same. -/
theorem Scanner.repeats_of_sameNext
    (hread : (s.scan valid p).reading.skipped + (s.scan valid p).reading.reach ≤ n)
    (hsame : Lexing.SameNext (n + 1) p.ahead q.ahead) :
    (s.scan valid p).Repeats (s.scan valid q) := by
  have hreading : (s.scan valid q).reading = (s.scan valid p).reading :=
    Lexing.read_eq_of_sameNext hread hsame
  rw [Reading.reach] at hread
  have hkind : (s.scan valid q).kind? = (s.scan valid p).kind? := by
    rw [Scan.kind?, hreading, Scan.kind?]
  refine ⟨hkind, ?_, ?_, ?_, ?_⟩
  · rw [Scan.after, hreading, hkind]
    rfl
  · rw [Scan.cursor_span, Scan.cursor_span, hreading]
    exact hsame.offset_advance (by omega)
  · rw [Scan.cursor_span, Scan.cursor_span, hreading]
    exact hsame.offset_advance (by omega)
  · rw [Scan.cursor, Scan.cursor, Reading.follow_here, Reading.follow_here, hreading]
    exact hsame.offset_advance (by omega)

/-- **A scan depends only on the characters that it has read.**  Where a scan is asked for as
before, and the text goes on with the characters that the one before read, and behind them with the
same character or to its end, it comes to the same: the kind, the scanner after it and, from its own
place on, the token and the reading position. -/
theorem Scanner.scan_repeats (s : Scanner) {request request' : ScanRequest}
    {chars rest : List Char} (hvalid : request'.valid = request.valid)
    (hread : Span.textIn? request.text ⟨request.entry.offset,
      (s.scan request.valid request.entry).cursor.here.offset⟩ = some chars)
    (hahead : request'.entry.ahead = chars ++ rest)
    (hnext : rest.head? = (s.scan request.valid request.entry).cursor.here.next?) :
    (s.scan request.valid request.entry).Repeats (s.scan request'.valid request'.entry) := by
  rw [Scan.cursor, Reading.follow_here] at hread hnext
  have htext := Span.textIn?_advance request.entry_isIn 0
    ((s.scan request.valid request.entry).reading.skipped +
      (s.scan request.valid request.entry).reading.length +
      (s.scan request.valid request.entry).reading.beyond)
  rw [Nat.zero_add] at htext
  obtain rfl := Option.some.inj (htext.symm.trans hread)
  rw [hvalid]
  exact Scanner.repeats_of_sameNext (Nat.le_of_eq (Nat.add_assoc ..).symm)
    (Lexing.sameNext_of_ahead hahead hnext)

end Rescan

/-- The name of a list item is asked for, before a blank. -/
def ScanRequest.listItem : ScanRequest where
  text := "<li >".toList
  valid := .singleton .startTagName
  entry := ⟨1, "li >".toList⟩
  entry_isIn := ⟨['<'], rfl, rfl⟩

/-- It is asked for again behind a character of two bytes. -/
def ScanRequest.movedListItem : ScanRequest where
  text := "é<li x".toList
  valid := .singleton .startTagName
  entry := ⟨3, "li x".toList⟩
  entry_isIn := ⟨['é', '<'], rfl, rfl⟩

theorem Scanner.scan_repeats_movedListItem :
    Span.textIn? ScanRequest.listItem.text ⟨ScanRequest.listItem.entry.offset,
        (Scanner.scan {} ScanRequest.listItem.valid
          ScanRequest.listItem.entry).cursor.here.offset⟩ = some ['l', 'i'] ∧
      (Scanner.scan {} ScanRequest.listItem.valid ScanRequest.listItem.entry).Repeats
        (Scanner.scan {} ScanRequest.movedListItem.valid ScanRequest.movedListItem.entry) := by
  have hread : Span.textIn? ScanRequest.listItem.text ⟨ScanRequest.listItem.entry.offset,
      (Scanner.scan {} ScanRequest.listItem.valid
        ScanRequest.listItem.entry).cursor.here.offset⟩ = some ['l', 'i'] := by
    decide +kernel
  have hnext : [' ', 'x'].head? = (Scanner.scan {} ScanRequest.listItem.valid
      ScanRequest.listItem.entry).cursor.here.next? := by
    decide +kernel
  exact ⟨hread, Scanner.scan_repeats {} rfl hread rfl hnext⟩

end TemplateScan
