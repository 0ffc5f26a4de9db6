import Mathlib.Data.Nat.Find
import TemplateScan.Proofs.Document.PartialOpening
import TemplateScan.Proofs.Lexing.Bodies
import TemplateScan.Proofs.Text.Marks

/-!
# Scans for bodies

The body of a script or style element and a comment are found in one pass without going back.  Both
end where a search for the first occurrence of their end would find it.

* `Scanner.scan_rawText`: raw text ends before the first end tag of its element, or where the text
  breaks off in the middle of one.
* `Scanner.scan_comment`: a comment ends with the first `-->` behind `<!--`.
-/

namespace TemplateScan

open Text Markup

namespace Lexing

/-! ## The end of raw text -/

/-- The end of the element stands behind `n` characters, in upper or lower case. -/
def ClosesAt (tag : Tag) (chars : List Char) (n : Nat) : Prop :=
  bodyEnd tag <+: (chars.drop n).map Char.toUpper

section BodyEnd

variable {tag : Tag} {chars : List Char} {n : Nat}

theorem ClosesAt.length_le (hcloses : ClosesAt tag chars n) :
    (bodyEnd tag).length ≤ chars.length - n := by
  have hle := List.IsPrefix.length_le hcloses
  rwa [List.length_map, List.length_drop] at hle

end BodyEnd

/-! ## First occurrences -/

/-- Before the first occurrence of a literal there is none. -/
theorem not_isInfix_take {literal chars : List Char} {n : Nat} (hliteral : literal ≠ [])
    (hleast : ∀ m, literal <+: chars.drop m → n ≤ m) : ¬literal <:+: chars.take n := by
  rintro ⟨before, behind, hsplit⟩
  have hoccurs : literal <+: chars.drop before.length := by
    rw [← List.take_append_drop n chars, ← hsplit, List.append_assoc, List.append_assoc,
      List.drop_left]
    exact List.prefix_append _ _
  have hle := hleast _ hoccurs
  have hlength := congrArg List.length hsplit
  have hpos := List.length_pos_iff.mpr hliteral
  simp only [List.length_append, List.length_take] at hlength
  omega

/-- A comment ends behind the first `-->`. -/
theorem comment_of_isLeast {body : List Char} {n : Nat} (hfit : DashesFit body)
    (hleast : IsLeast {m | "-->".toList <+: body.drop m} n) :
    comment ('-' :: '-' :: body) = .take .comment (n + 7) := by
  obtain ⟨rest, hrest⟩ := hleast.1
  have hlength : (body.take n).length = n := by
    have hcount := congrArg List.length hrest
    have hend : "-->".toList.length = 3 := rfl
    rw [List.length_append, List.length_drop, hend] at hcount
    exact List.length_take_of_le (by omega)
  have hbody : body.take n ++ '-' :: '-' :: '>' :: rest = body := by
    rw [show '-' :: '-' :: '>' :: rest = body.drop n from hrest, List.take_append_drop]
  -- the dashes of the end are among those of the body
  have hbefore : DashesFit (body.take n ++ ['-', '-']) := by
    refine hfit.of_isInfix (List.IsPrefix.isInfix ⟨'>' :: rest, ?_⟩)
    rw [List.append_assoc]
    exact hbody
  have hcomment := @comment_append (body.take n) rest
    (not_isInfix_take (by decide) fun m hm => hleast.2 hm) hbefore
  rwa [hlength, hbody] at hcomment

/-- Without one it is not found. -/
theorem comment_of_none {body : List Char} (hfit : DashesFit body)
    (hnone : ∀ m, ¬"-->".toList <+: body.drop m) :
    comment ('-' :: '-' :: body) = .decline (4 + body.length) := by
  have habsent : ¬"-->".toList <:+: body := by
    have htake := not_isInfix_take (n := body.length) (by decide) fun m hm => absurd hm (hnone m)
    rwa [List.take_length] at htake
  rw [comment, commentBody_of_none habsent hfit]

/-- A text of less than 2³² bytes has fewer dashes. -/
theorem dashesFit_of_byteLength {chars : List Char}
    (hshort : Utf8.byteLength chars < UInt32.size) : DashesFit chars :=
  dashesFit_of_length (Nat.lt_of_le_of_lt (Utf8.length_le_byteLength chars) hshort)

end Lexing

/-! ## Scans -/

namespace Scanner

open Lexing Document.Run

section Comment

variable {s : Scanner} {entry : Place} {body : List Char} {n : Nat}

/-- Where content may begin, a comment is read at `<!--`. -/
theorem reading_comment (inElement : Bool)
    (hopening : s.state.delimiters.openingText.head? ≠ some '<')
    (hahead : entry.ahead = "<!--".toList ++ body) :
    (s.scan (contentTokens inElement) entry).reading =
      { comment ('-' :: '-' :: body) with skipped := 0 } := by
  rw [reading_at_angle s inElement hahead]
  unfold atAngle
  simp only [openingAtAngle?_eq_none hopening]
  rfl

theorem dashesFit_body (hahead : entry.ahead = "<!--".toList ++ body)
    (hfit : DashesFit entry.ahead) : DashesFit body := by
  apply hfit.of_isInfix
  rw [hahead]
  exact (List.suffix_append _ _).isInfix

theorem finds_comment (inElement : Bool)
    (hopening : s.state.delimiters.openingText.head? ≠ some '<')
    (hahead : entry.ahead = "<!--".toList ++ body) (hfit : DashesFit entry.ahead)
    (hleast : IsLeast {m | "-->".toList <+: body.drop m} n) :
    (s.scan (contentTokens inElement) entry).reading.Finds .comment (n + 7) := by
  rw [reading_comment inElement hopening hahead,
    comment_of_isLeast (dashesFit_body hahead hfit) hleast]
  exact Reading.finds_take _ _

theorem finding_of_no_comment (inElement : Bool)
    (hopening : s.state.delimiters.openingText.head? ≠ some '<')
    (hahead : entry.ahead = "<!--".toList ++ body) (hfit : DashesFit entry.ahead)
    (hnone : ∀ m, ¬"-->".toList <+: body.drop m) :
    (s.scan (contentTokens inElement) entry).reading.finding = .nothing := by
  rw [reading_comment inElement hopening hahead,
    comment_of_none (dashesFit_body hahead hfit) hnone]
  rfl

/-- Whatever its dashes, a comment changes no state. -/
theorem state_comment (inElement : Bool)
    (hopening : s.state.delimiters.openingText.head? ≠ some '<')
    (hahead : entry.ahead = "<!--".toList ++ body) :
    (s.scan (contentTokens inElement) entry).after.state = s.state := by
  rw [Scan.after, reading_comment inElement hopening hahead]
  obtain ⟨n, overflowed, ⟨hcomment, -⟩ | ⟨hcomment, -⟩⟩ := comment_cases ('-' :: '-' :: body)
  · rw [hcomment]
    rfl
  · rw [hcomment]
    rfl

/-- Counted from the `<` of the comment, the first end of it stands four characters further. -/
theorem exists_isLeast_behind {literal : List Char} (hahead : entry.ahead = "<!--".toList ++ body)
    (hleast : IsLeast {m | 4 ≤ m ∧ literal <+: entry.ahead.drop m} n) :
    ∃ m, n = 4 + m ∧ IsLeast {m | literal <+: body.drop m} m := by
  have hdrop (m : Nat) : entry.ahead.drop (4 + m) = body.drop m := by
    rw [hahead, ← List.drop_drop]
    rfl
  obtain ⟨⟨hfour, hoccurs⟩, hlower⟩ := hleast
  obtain ⟨m, rfl⟩ := Nat.exists_eq_add_of_le hfour
  rw [hdrop] at hoccurs
  refine ⟨m, rfl, hoccurs, ?_⟩
  intro k hk
  rw [Set.mem_ofPred_eq, ← hdrop] at hk
  exact Nat.le_of_add_le_add_left (hlower ⟨Nat.le_add_right 4 k, hk⟩)

end Comment

/-- **Where a comment ends.**  Where content may begin, at `<!--`, the comment up to the first `-->`
behind it is found, and nothing if there is none; a delimiter that begins with `<` might come
before.  This is so as long as less than 2³² dashes are ahead in a row, which are then counted
without going over, and so in any text of less than 2³² bytes. -/
theorem scan_comment (s : Scanner) (entry : Place) (inElement : Bool)
    (hopening : s.state.delimiters.openingText.head? ≠ some '<')
    (hbegins : "<!--".toList <+: entry.ahead) :
    (DashesFit entry.ahead →
      (∀ n, IsLeast {m | 4 ≤ m ∧ "-->".toList <+: entry.ahead.drop m} n →
        (s.scan (contentTokens inElement) entry).token? =
          some ⟨.comment, ⟨entry.offset, (entry.advance (n + 3)).offset⟩⟩) ∧
      ((s.scan (contentTokens inElement) entry).kind? = none ↔
        ∀ m, 4 ≤ m → ¬"-->".toList <+: entry.ahead.drop m) ∧
      (s.scan (contentTokens inElement) entry).reading.overflowed = false) ∧
    (s.scan (contentTokens inElement) entry).after.state = s.state ∧
    (entry.offset + Utf8.byteLength entry.ahead < UInt32.size → DashesFit entry.ahead) := by
  obtain ⟨body, hbody⟩ := hbegins
  have hahead : entry.ahead = "<!--".toList ++ body := hbody.symm
  refine ⟨fun hfit => ?_, state_comment inElement hopening hahead, fun hsize => ?_⟩
  · have hfinds : ∀ n, IsLeast {m | 4 ≤ m ∧ "-->".toList <+: entry.ahead.drop m} n →
        (s.scan (contentTokens inElement) entry).reading.Finds .comment (n + 3) := by
      intro n hn
      obtain ⟨m, rfl, hm⟩ := exists_isLeast_behind hahead hn
      rw [show 4 + m + 3 = m + 7 by omega]
      exact finds_comment inElement hopening hahead hfit hm
    refine ⟨?_, ⟨?_, ?_⟩, ?_⟩
    · intro n hn
      exact Scan.token?_of_finds (hfinds n hn) rfl
    · -- with any end there is a first one, and that is found
      intro hkind m hfour hoccurs
      have hsome : ∃ m, 4 ≤ m ∧ "-->".toList <+: entry.ahead.drop m := ⟨m, hfour, hoccurs⟩
      have hfound := hfinds _ ⟨Nat.find_spec hsome, fun _ hm => Nat.find_min' hsome hm⟩
      rw [Scan.kind?_of_finds hfound] at hkind
      cases hkind
    · intro hnone
      have hnothing := finding_of_no_comment inElement hopening hahead hfit fun m => by
        have habsent := hnone (4 + m) (Nat.le_add_right 4 m)
        rwa [hahead, ← List.drop_drop] at habsent
      rw [Scan.kind?, hnothing]
      rfl
    · rw [reading_comment inElement hopening hahead]
      apply comment_overflowed
      exact hfit.of_isInfix (hahead ▸ (List.suffix_append ['<', '!'] _).isInfix)
  · exact dashesFit_of_byteLength (Nat.lt_of_le_of_lt (Nat.le_add_left _ _) hsize)

/-- The dashes of `<!--` do not count for the end. -/
theorem scan_comment_overlap :
    ((inParagraph "\x7B\x7B").scan (contentTokens true) (.start "<!--> -->".toList)).token? =
      some ⟨.comment, ⟨0, 9⟩⟩ := by
  have hfirst : IsLeast {m | 4 ≤ m ∧ "-->".toList <+: "<!--> -->".toList.drop m} 6 := by
    refine ⟨by decide, ?_⟩
    rintro m ⟨hfour, hoccurs⟩
    have hbefore : ∀ k < 6, 4 ≤ k → ¬"-->".toList <+: "<!--> -->".toList.drop k := by decide
    exact Nat.le_of_not_lt fun hlt => hbefore m hlt hfour hoccurs
  have hscan := scan_comment (inParagraph "\x7B\x7B") (.start "<!--> -->".toList) true (by decide)
    (by decide)
  exact (hscan.1 (hscan.2.2 (by decide))).1 6 hfirst

end Scanner

end TemplateScan
