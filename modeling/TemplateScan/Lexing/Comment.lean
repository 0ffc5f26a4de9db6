import TemplateScan.Lexing.Reading

/-!
# Comments

A comment of the markup begins with `<!--` and ends behind the first `-->` after it.  The end is
found in one pass that counts the dashes directly before the character at hand.  The count has 32
bits and begins anew behind its greatest number, so it tells the first `-->` as long as it does not
get that far.

* `DashesFit`: the dashes of a text can be counted in 32 bits.
* `comment_cases`: whatever the characters, a comment is found or nothing.
-/

namespace TemplateScan.Lexing

/-- The dashes can be counted in 32 bits: there are less than 2³² of them in a row. -/
def DashesFit (chars : List Char) : Prop :=
  ¬List.replicate UInt32.size '-' <:+: chars

/-- A text with fewer characters than that has its dashes counted. -/
theorem dashesFit_of_length {chars : List Char} (hshort : chars.length < UInt32.size) :
    DashesFit chars := by
  intro hoccurs
  have hle := hoccurs.length_le
  rw [List.length_replicate] at hle
  omega

-- Found by search, an instance would build all of these dashes to look for them.
instance (chars : List Char) : Decidable (DashesFit chars) :=
  if hshort : chars.length < UInt32.size then .isTrue (dashesFit_of_length hshort)
  else inferInstanceAs (Decidable (¬_))

/-- Reads up to and with the first `>` behind two dashes, after `dashes` dashes and `read`
characters; `overflowed` tells whether the count of the dashes has begun anew. -/
def commentBody (dashes : UInt32) (overflowed : Bool) (read : Nat) : List Char → Reading
  | [] => { Reading.decline read with overflowed }
  | c :: rest =>
    if c = '-' then commentBody (dashes + 1) (overflowed || dashes + 1 == 0) (read + 1) rest
    else if c = '>' && 2 ≤ dashes then { Reading.take .comment (read + 1) with overflowed }
    else commentBody 0 overflowed (read + 1) rest

/-- A comment, read from behind `<!` on. -/
def comment : List Char → Reading
  | '-' :: '-' :: body => commentBody 0 false 4 body
  | '-' :: _ => .decline 3
  | _ => .decline 2

/-- Whatever the dashes, the pass finds a comment or nothing, behind what it has read. -/
theorem commentBody_cases (dashes : UInt32) (overflowed : Bool) (read : Nat) (chars : List Char) :
    ∃ n overflowed', commentBody dashes overflowed read chars =
        { Reading.take .comment n with overflowed := overflowed' } ∧ read < n ∨
      commentBody dashes overflowed read chars =
        { Reading.decline n with overflowed := overflowed' } ∧ read ≤ n := by
  induction chars generalizing dashes overflowed read with
  | nil => exact ⟨read, overflowed, Or.inr ⟨rfl, Nat.le_refl _⟩⟩
  | cons c rest ih =>
    -- the rest is read from the next character on
    have hrest : ∀ dashes' overflowed', ∃ n overflowed'',
        commentBody dashes' overflowed' (read + 1) rest =
            { Reading.take .comment n with overflowed := overflowed'' } ∧ read < n ∨
          commentBody dashes' overflowed' (read + 1) rest =
            { Reading.decline n with overflowed := overflowed'' } ∧ read ≤ n := by
      intro dashes' overflowed'
      obtain ⟨n, overflowed'', ⟨hbody, hn⟩ | ⟨hbody, hn⟩⟩ := ih dashes' overflowed' (read + 1)
      · exact ⟨n, overflowed'', Or.inl ⟨hbody, Nat.lt_of_succ_lt hn⟩⟩
      · exact ⟨n, overflowed'', Or.inr ⟨hbody, Nat.le_of_succ_le hn⟩⟩
    rw [commentBody]
    split
    · exact hrest _ _
    · split
      · exact ⟨read + 1, overflowed, Or.inl ⟨rfl, Nat.lt_succ_self read⟩⟩
      · exact hrest _ _

theorem comment_cases (chars : List Char) :
    ∃ n overflowed, comment chars = { Reading.take .comment n with overflowed } ∧ 4 < n ∨
      comment chars = { Reading.decline n with overflowed } ∧ 2 ≤ n := by
  unfold comment
  split
  · next body =>
    obtain ⟨n, overflowed, ⟨hbody, hn⟩ | ⟨hbody, hn⟩⟩ := commentBody_cases 0 false 4 body
    · exact ⟨n, overflowed, Or.inl ⟨hbody, hn⟩⟩
    · exact ⟨n, overflowed, Or.inr ⟨hbody, by omega⟩⟩
  · exact ⟨3, false, Or.inr ⟨rfl, by omega⟩⟩
  · exact ⟨2, false, Or.inr ⟨rfl, by omega⟩⟩

end TemplateScan.Lexing
