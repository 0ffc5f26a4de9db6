import Mathlib.Data.List.Basic
import Mathlib.Data.List.Forall2
import Mathlib.Data.List.TakeWhile
import TemplateScan.Token.Listing

/-!
# Places and stretches of a text

Two places of a text are so many characters apart, and the stretch between them holds those
characters.  Places are told by their byte offsets alone, so what is said in offsets can be looked
up in the text again.

* `Place.IsIn.exists_advance`: the later one of two places is reached from the other.
* `Span.textIn?_advance`: the text of a stretch.
* `Place.next?_of_textIn?`: the character directly before a place.
* `Token.lines_eq_ok_iff`, `exists_lines`: a listing has the line of each token, and tokens that are
  stretches of a text have one.
-/

namespace TemplateScan

open Text

namespace Text

namespace Utf8

theorem byteLength_pos {chars : List Char} (hne : chars ≠ []) : 0 < byteLength chars := by
  obtain ⟨c, more, rfl⟩ := List.exists_cons_of_ne_nil hne
  rw [byteLength_cons]
  exact Nat.add_pos_left c.utf8Size_pos _

theorem length_le_byteLength (chars : List Char) : chars.length ≤ byteLength chars := by
  induction chars with
  | nil => exact Nat.le_refl 0
  | cons c chars ih =>
    rw [List.length_cons, byteLength_cons, Nat.add_comm]
    exact Nat.add_le_add c.utf8Size_pos ih

theorem utf8ByteSize_ofList (chars : List Char) :
    (String.ofList chars).utf8ByteSize = byteLength chars := by
  induction chars with
  | nil => rfl
  | cons c chars ih =>
    rw [String.ofList_cons, String.utf8ByteSize_append, String.utf8ByteSize_singleton, ih,
      byteLength_cons]

theorem byteLength_toList (text : String) : byteLength text.toList = text.utf8ByteSize := by
  rw [← utf8ByteSize_ofList, String.ofList_toList]

end Utf8

/-- The offset is one of a character boundary of the text. -/
def IsBoundary (text : List Char) (offset : Nat) : Prop :=
  ∃ p : Place, p.IsIn text ∧ p.offset = offset

/-- A stretch of the text: it begins and ends at character boundaries, and does not end before it
begins. -/
structure Span.IsIn (text : List Char) (s : Span) : Prop where
  start : IsBoundary text s.start
  stop : IsBoundary text s.stop
  le : s.start ≤ s.stop

namespace Place

section IsIn

variable {text : List Char} {p q : Place}

theorem IsIn.offset_add (hp : p.IsIn text) :
    p.offset + Utf8.byteLength p.ahead = Utf8.byteLength text := by
  obtain ⟨before, hsplit, hoffset⟩ := hp
  rw [hsplit, Utf8.byteLength_append, hoffset]

/-- No place of a text is behind its end. -/
theorem IsIn.offset_le (hp : p.IsIn text) : p.offset ≤ Utf8.byteLength text := by
  rw [← hp.offset_add]
  exact Nat.le_add_right _ _

/-- The end of a text is a place of it. -/
theorem isIn_end (text : List Char) : Place.IsIn text ⟨Utf8.byteLength text, []⟩ :=
  ⟨text, (List.append_nil text).symm, rfl⟩

theorem IsIn.isBoundary (hp : p.IsIn text) : IsBoundary text p.offset :=
  ⟨p, hp, rfl⟩

/-- Going on never leads back. -/
theorem offset_le_advance (p : Place) (n : Nat) : p.offset ≤ (p.advance n).offset := by
  rw [advance_offset]
  exact Nat.le_add_right _ _

/-- The later one of two places of a text is reached from the other. -/
theorem IsIn.exists_advance (hp : p.IsIn text) (hq : q.IsIn text) (hle : p.offset ≤ q.offset) :
    ∃ n, q = p.advance n := by
  obtain ⟨before, hsplit, hoffset⟩ := id hp
  obtain ⟨before', hsplit', hoffset'⟩ := id hq
  -- what is before `p` begins what is before `q`, as it has no more bytes
  have hstarts : before <+: before' := by
    rcases List.prefix_or_prefix_of_prefix ⟨p.ahead, hsplit.symm⟩ ⟨q.ahead, hsplit'.symm⟩
      with hbegins | ⟨more, hmore⟩
    · exact hbegins
    · cases more with
      | nil => exact ⟨[], by rw [← hmore]; simp⟩
      | cons c more =>
        have hpos := Utf8.byteLength_pos (List.cons_ne_nil c more)
        rw [hoffset, hoffset', ← hmore, Utf8.byteLength_append] at hle
        omega
  obtain ⟨passed, rfl⟩ := hstarts
  refine ⟨passed.length, hq.eq_of_offset (hp.advance _) ?_⟩
  have hahead : p.ahead = passed ++ q.ahead := by
    rw [hsplit, List.append_assoc] at hsplit'
    exact List.append_cancel_left hsplit'
  rw [advance_offset, hahead, List.take_left, hoffset, hoffset', Utf8.byteLength_append]

/-- From where a place is looked for makes no difference. -/
theorem IsIn.seek?_eq_at? (hp : p.IsIn text) (offset : Nat) :
    p.seek? text offset = at? text offset := by
  rw [Place.seek?]
  split
  · next hle =>
    ext q
    rw [walk?_eq_some_iff, at?_eq_some_iff]
    constructor
    · rintro ⟨passed, hahead, hoffset, rfl⟩
      obtain ⟨before, hsplit, hbefore⟩ := hp
      refine ⟨⟨before ++ passed, ?_, ?_⟩, rfl⟩
      · rw [hsplit, hahead, List.append_assoc]
      · rw [hoffset, hbefore, Utf8.byteLength_append]
    · rintro ⟨hq, rfl⟩
      obtain ⟨n, rfl⟩ := hp.exists_advance hq hle
      refine ⟨p.ahead.take n, ?_, p.advance_offset n, rfl⟩
      rw [advance_ahead, List.take_append_drop]
  · rfl

end IsIn

theorem takeOnto?_eq_some (before ahead : List Char) (offset n : Nat) :
    takeOnto? before offset ahead (offset + Utf8.byteLength (ahead.take n)) =
      some (before.reverse ++ ahead.take n) := by
  induction ahead generalizing before offset n with
  | nil => simp [takeOnto?]
  | cons c ahead ih =>
    cases n with
    | zero => simp [takeOnto?]
    | succ n =>
      have hsize := c.utf8Size_pos
      rw [takeOnto?, List.take_succ_cons, Utf8.byteLength_cons, if_neg (by omega),
        if_neg (by omega), ← Nat.add_assoc]
      simp [ih]

/-- The characters up to a later place are those that going on to it passes. -/
theorem upTo?_advance (p : Place) (n : Nat) :
    p.upTo? (p.advance n).offset = some (p.ahead.take n) := by
  rw [upTo?, advance_offset]
  exact takeOnto?_eq_some [] p.ahead p.offset n

end Place

/-- The text of a stretch is made of the characters that going on passes. -/
theorem Span.textIn?_advance {text : List Char} {p : Place} (hp : p.IsIn text) (m n : Nat) :
    Span.textIn? text ⟨(p.advance m).offset, (p.advance (m + n)).offset⟩ =
      some ((p.ahead.drop m).take n) := by
  have hstart := Place.at?_eq_some_iff.mpr ⟨hp.advance m, rfl⟩
  rw [textIn?, hstart, Option.bind_some, Place.advance_add, Place.upTo?_advance,
    Place.advance_ahead]

/-- A stretch of the text has a text. -/
theorem Span.IsIn.exists_textIn? {text : List Char} {s : Span} (hs : s.IsIn text) :
    ∃ chars, s.textIn? text = some chars := by
  obtain ⟨⟨p, hp, hstart⟩, ⟨q, hq, hstop⟩, hle⟩ := hs
  rw [← hstart, ← hstop] at hle
  obtain ⟨n, rfl⟩ := hp.exists_advance hq hle
  refine ⟨p.ahead.take n, ?_⟩
  rw [textIn?, Place.at?_eq_some_iff.mpr ⟨hp, hstart⟩, Option.bind_some, ← hstop,
    Place.upTo?_advance]

/-- The text directly before a place is the character that leads to it. -/
theorem Place.next?_of_textIn? {text : List Char} {p : Place} {c : Char} (hp : p.IsIn text)
    (hne : p.ahead ≠ [])
    (hbefore : Span.textIn? text ⟨(p.advance 1).offset - 1, (p.advance 1).offset⟩ = some [c]) :
    p.next? = some c := by
  obtain ⟨q, hq, hread⟩ := Option.bind_eq_some_iff.mp hbefore
  obtain ⟨hq, hoffset⟩ := Place.at?_eq_some_iff.mp hq
  obtain ⟨n, hn⟩ := hq.exists_advance (hp.advance 1) (hoffset ▸ Nat.sub_le _ _)
  rw [hn, Place.upTo?_advance, Option.some_inj] at hread
  -- both characters stand before the same rest of the text
  obtain ⟨d, rest, hahead⟩ := List.exists_cons_of_ne_nil hne
  have hrest : q.ahead = c :: rest := by
    rw [← List.take_append_drop n q.ahead, hread, ← Place.advance_ahead, ← hn, Place.advance_ahead,
      hahead]
    rfl
  obtain ⟨before, hsplit, -⟩ := hp
  obtain ⟨before', hsplit', -⟩ := hq
  have hsame : (before ++ [d]) ++ rest = (before' ++ [c]) ++ rest := by
    rw [List.append_assoc, List.append_assoc, List.singleton_append, List.singleton_append,
      ← hahead, ← hrest, ← hsplit, ← hsplit']
  have hlast := List.append_inj_right' (List.append_cancel_right hsame) rfl
  rw [Place.next?, hahead, List.head?_cons, List.singleton_inj.mp hlast]

/-- Directly before the place behind a run of characters is a character of the run, if there is
one. -/
theorem Place.takeWhile_eq_nil_of_textIn? {text : List Char} {p : Place} {inClass : Char → Bool}
    {c : Char} (hp : p.IsIn text) (hc : inClass c = false)
    (hbefore : Span.textIn? text
      ⟨(p.skipWhile inClass).offset - 1, (p.skipWhile inClass).offset⟩ = some [c]) :
    p.ahead.takeWhile inClass = [] := by
  rcases List.eq_nil_or_concat' (p.ahead.takeWhile inClass) with hnone | ⟨run, last, hrun⟩
  · exact hnone
  · have hlast : inClass last = true := by
      apply List.mem_takeWhile_imp (l := p.ahead)
      simp [hrun]
    obtain ⟨more, hmore⟩ := List.takeWhile_prefix (l := p.ahead) inClass
    have hahead : (p.advance run.length).ahead = last :: more := by
      rw [Place.advance_ahead, ← hmore, hrun, List.append_assoc, List.drop_left]
      rfl
    rw [Place.skipWhile, hrun, List.length_append, List.length_singleton,
      Place.advance_add] at hbefore
    have hsame := next?_of_textIn? (hp.advance run.length) (by simp [hahead]) hbefore
    rw [Place.next?, hahead, List.head?_cons, Option.some_inj] at hsame
    rw [← hsame, hlast] at hc
    cases hc

end Text

/-! ## Listings -/

namespace Token

/-- The line is that of the token. -/
def IsLine (text : List Char) (t : Token) (line : String) : Prop :=
  ∃ chars, t.span.textIn? text = some chars ∧ line = Token.line t.kind chars

variable {text : List Char} {tokens : List Token} {listing : List String}

theorem linesOnto_eq_ok_iff {done : List String} {bookmark : Place}
    (hbookmark : bookmark.IsIn text) :
    linesOnto text done bookmark tokens = .ok listing ↔
      ∃ later, listing = done.reverse ++ later ∧ List.Forall₂ (IsLine text) tokens later := by
  -- the lines go onto those written before, and the next token is looked for from the last one on
  induction tokens generalizing done bookmark with
  | nil => simp [linesOnto, eq_comm]
  | cons t rest ih =>
    rw [linesOnto, hbookmark.seek?_eq_at?]
    simp only [List.forall₂_cons_left_iff, IsLine, Span.textIn?]
    cases hstart : Place.at? text t.span.start with
    | none => simp
    | some p =>
      cases hread : p.upTo? t.span.stop with
      | none => simp [hread]
      | some chars => simp [hread, ih (Place.at?_eq_some_iff.mp hstart).1]

/-- A listing has a line for each token, and the line is that of the token. -/
theorem lines_eq_ok_iff :
    Token.lines text tokens = .ok listing ↔ List.Forall₂ (IsLine text) tokens listing := by
  rw [Token.lines, linesOnto_eq_ok_iff (Place.isIn_start text)]
  simp

/-- Tokens that are stretches of the text have a listing. -/
theorem exists_lines (htokens : ∀ t ∈ tokens, t.span.IsIn text) :
    ∃ lines, Token.lines text tokens = .ok lines ∧ lines.length = tokens.length := by
  have hlines : ∃ lines, List.Forall₂ (IsLine text) tokens lines := by
    induction tokens with
    | nil => exact ⟨[], .nil⟩
    | cons t rest ih =>
      obtain ⟨lines, hlines⟩ := ih fun t ht => htokens t (List.mem_cons_of_mem _ ht)
      obtain ⟨chars, hread⟩ := (htokens t (List.mem_cons_self ..)).exists_textIn?
      exact ⟨Token.line t.kind chars :: lines, .cons ⟨chars, hread, rfl⟩ hlines⟩
  obtain ⟨lines, hlines⟩ := hlines
  exact ⟨lines, lines_eq_ok_iff.mpr hlines, hlines.length_eq.symm⟩

end Token

end TemplateScan
