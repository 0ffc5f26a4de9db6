import Mathlib.Data.List.Infix
import Mathlib.Order.Bounds.Basic
import TemplateScan.Lexing.Comment
import TemplateScan.Lexing.RawText
import TemplateScan.Proofs.Lexing.Characters

/-!
# Where raw text and comments end

The body of a script or style element ends right before the first end tag of it, and a comment right
behind the first `-->`.  Both are found in one pass; here, the passes are followed through a body in
which the end does not occur.  Whatever the body, an end tag right behind it has the beginning of a
name.

* `isLeast_bodyEnd`: raw text ends where its end first begins; `exists_rawText_append`,
  `exists_rawText_behind`: what stands behind it.
* `commentBody_append`, `commentBody_of_none`, `comment_append`: a comment ends with the first
  `-->`, as if its dashes were counted without a bound, as long as 32 bits are enough for them.
* `comment_overflowed`: until then the count does not begin anew; `comment_overflowed_of_many`: with
  more dashes than can be counted it does.
-/

namespace TemplateScan.Lexing

open Markup

/-! ## Raw text -/

section BodyLength

variable {literal : List Char}

/-- The characters begin with the literal, in upper or lower case, or the text ends in the middle of
it. -/
def BeginsEnd (literal chars : List Char) : Prop :=
  literal <+: chars.map Char.toUpper ∨ chars.map Char.toUpper <+: literal

theorem beginsEnd_cons_iff {first c : Char} {chars : List Char} :
    BeginsEnd (first :: literal) (c :: chars) ↔ first = c.toUpper ∧ BeginsEnd literal chars := by
  rw [BeginsEnd, BeginsEnd, List.map_cons, List.cons_prefix_cons, List.cons_prefix_cons,
    eq_comm (a := c.toUpper), ← and_or_left]

/-- From where the literal has begun, the pass goes straight to its end, or to that of the text. -/
theorem bodyLength_of_begun {chars : List Char} {matched length read : Nat}
    (hmatched : matched < literal.length) (hbegins : BeginsEnd (literal.drop matched) chars) :
    (bodyLength literal matched length read chars).1 = length := by
  induction chars generalizing matched read with
  | nil => rfl
  | cons c chars ih =>
    rw [List.drop_eq_getElem_cons hmatched, beginsEnd_cons_iff] at hbegins
    obtain ⟨hc, hmore⟩ := hbegins
    rw [bodyLength, if_pos (by rw [List.getElem?_eq_getElem hmatched, hc])]
    split
    · rfl
    · exact ih (by omega) hmore

/-- The body is no longer than up to where its end begins. -/
theorem bodyLength_le {chars : List Char} {matched length read n : Nat}
    (hfirst : literal.head? = some '<') (honly : '<' ∉ literal.tail) (hlong : 1 < literal.length)
    (hread : length + matched = read) (hbegins : BeginsEnd literal (chars.drop n)) :
    (bodyLength literal matched length read chars).1 ≤ read + n := by
  induction chars generalizing matched length read n with
  | nil =>
    show length ≤ read + n
    omega
  | cons c chars ih =>
    rw [bodyLength]
    cases n with
    | zero =>
      obtain ⟨tail, rfl⟩ := List.head?_eq_some_iff.mp hfirst
      obtain ⟨hc, hmore⟩ := beginsEnd_cons_iff.mp hbegins
      obtain rfl := eq_angle_of_toUpper hc.symm
      -- the literal has a single `<`, its first character: whatever has matched, the match begins
      -- here
      cases matched with
      | zero =>
        have hmatch : ('<' :: tail)[0]? = some (Char.toUpper '<') := rfl
        rw [if_pos hmatch, if_neg (Nat.ne_of_lt hlong), bodyLength_of_begun hlong hmore]
        omega
      | succ matched =>
        have hmismatch : ('<' :: tail)[matched + 1]? ≠ some (Char.toUpper '<') := by
          intro hmatch
          exact honly (List.mem_of_getElem? hmatch)
        rw [if_neg hmismatch, if_pos rfl, bodyLength_of_begun hlong hmore]
        exact Nat.le_refl _
    | succ n =>
      have hcount : read + (n + 1) = read + 1 + n := by omega
      rw [hcount]
      split
      · split
        · show length ≤ read + 1 + n
          omega
        · exact ih (by omega) hbegins
      · split
        · exact ih rfl hbegins
        · exact ih rfl hbegins

/-- Whatever the body, its end begins behind it. -/
theorem beginsEnd_bodyLength {chars passed begun : List Char} {matched length read : Nat}
    (hfirst : literal.head? = some '<') (hlong : 1 < literal.length)
    (hmatched : matched < literal.length) (hpassed : passed.length = length)
    (hbegun : begun.map Char.toUpper = literal.take matched) (hread : length + matched = read) :
    BeginsEnd literal ((passed ++ (begun ++ chars)).drop
      (bodyLength literal matched length read chars).1) := by
  -- what has been read is the body so far and, behind it, what has begun the literal
  induction chars generalizing passed begun matched length read with
  | nil =>
    right
    rw [bodyLength, ← hpassed, List.drop_left, List.append_nil, hbegun]
    exact List.take_prefix _ _
  | cons c chars ih =>
    have hcount : begun.length = matched := by
      have hlength := congrArg List.length hbegun
      rw [List.length_map, List.length_take] at hlength
      omega
    rw [bodyLength]
    split
    · next hmatch =>
      have hmore : (begun ++ [c]).map Char.toUpper = literal.take (matched + 1) := by
        rw [List.map_append, hbegun, List.take_add_one, hmatch]
        rfl
      rw [List.append_cons begun c chars]
      split
      · -- the literal is complete
        next hcomplete =>
        left
        rw [hcomplete, List.take_length] at hmore
        rw [← hpassed, List.drop_left, List.map_append, hmore]
        exact List.prefix_append _ _
      · exact ih (by omega) hpassed hmore (by omega)
    · split
      · -- the literal begins anew
        next hangle =>
        subst hangle
        have hanew : ['<'].map Char.toUpper = literal.take 1 := by
          rw [List.take_one, hfirst]
          rfl
        rw [← List.append_assoc]
        refine ih hlong ?_ hanew rfl
        rw [List.length_append, hpassed, hcount, hread]
      · -- all that has been read is the body
        have hbody : passed ++ (begun ++ c :: chars) =
            (passed ++ begun ++ [c]) ++ ([] ++ chars) := by
          simp
        rw [hbody]
        refine ih (Nat.lt_trans Nat.zero_lt_one hlong) ?_ rfl rfl
        simp only [List.length_append, List.length_singleton]
        omega

/-- The body ends where its end first begins. -/
theorem isLeast_bodyLength (hfirst : literal.head? = some '<') (honly : '<' ∉ literal.tail)
    (hlong : 1 < literal.length) (chars : List Char) :
    IsLeast {n | BeginsEnd literal (chars.drop n)} (bodyLength literal 0 0 0 chars).1 := by
  constructor
  · exact @beginsEnd_bodyLength literal chars [] [] 0 0 0 hfirst hlong
      (Nat.lt_trans Nat.zero_lt_one hlong) rfl rfl rfl
  · intro n hbegins
    exact Nat.le_trans (bodyLength_le hfirst honly hlong rfl hbegins)
      (Nat.le_of_eq (Nat.zero_add n))

end BodyLength

/-- The first character of what a body ends before is `<`, and no other one is. -/
theorem bodyEnd_angle (tag : Tag) :
    (bodyEnd tag).head? = some '<' ∧ '<' ∉ (bodyEnd tag).tail ∧ 1 < (bodyEnd tag).length := by
  rw [bodyEnd]
  split
  · decide
  · decide

theorem exists_bodyEnd (tag : Tag) : ∃ later, bodyEnd tag = '<' :: '/' :: 'S' :: later := by
  rw [bodyEnd]
  split
  · exact ⟨_, rfl⟩
  · exact ⟨_, rfl⟩

theorem isLeast_bodyEnd (tag : Tag) (chars : List Char) :
    IsLeast {n | BeginsEnd (bodyEnd tag) (chars.drop n)}
      (bodyLength (bodyEnd tag) 0 0 0 chars).1 := by
  obtain ⟨hfirst, honly, hlong⟩ := bodyEnd_angle tag
  exact isLeast_bodyLength hfirst honly hlong chars

theorem isNameChar_of_toUpper_eq {c : Char} (hc : c.toUpper = 'S') : isNameChar c = true :=
  (isNameChar_of_isUpper_toUpper (hc ▸ rfl)).1

/-- As far as the characters go, each of them is that of the literal, in upper or lower case. -/
theorem BeginsEnd.toUpper_eq {literal chars : List Char} (hbegins : BeginsEnd literal chars)
    {i : Nat} {c d : Char} (hc : chars[i]? = some c) (hd : literal[i]? = some d) :
    c.toUpper = d := by
  have hupper : (chars.map Char.toUpper)[i]? = some c.toUpper := by rw [List.getElem?_map, hc]; rfl
  rcases hbegins with ⟨more, hwhole⟩ | ⟨more, hbegun⟩
  · rw [← hwhole, List.getElem?_append_left (List.getElem?_eq_some_iff.mp hd).1, hd] at hupper
    exact (Option.some.inj hupper).symm
  · rw [← hbegun, List.getElem?_append_left (List.getElem?_eq_some_iff.mp hupper).1, hupper] at hd
    exact Option.some.inj hd

/-- An end that begins before another one is complete before it. -/
theorem BeginsEnd.isPrefix_of_append {literal before closing rest : List Char}
    (hbegins : BeginsEnd literal (before ++ (closing ++ rest))) (hfirst : literal.head? = some '<')
    (honly : '<' ∉ literal.tail) (hne : before ≠ [])
    (hclosing : closing.map Char.toUpper = literal) :
    literal <+: before.map Char.toUpper := by
  have hlength : closing.length = literal.length := by rw [← hclosing, List.length_map]
  by_cases hshort : before.length < literal.length
  · -- the second end would begin inside the first one, which has no further `<`
    exfalso
    obtain ⟨tail, rfl⟩ := List.head?_eq_some_iff.mp hfirst
    obtain ⟨first, earlier, rfl⟩ := List.exists_cons_of_ne_nil hne
    cases closing with
    | nil => cases hclosing
    | cons c closing =>
      have hc : (first :: earlier ++ (c :: closing ++ rest))[earlier.length + 1]? = some c := by
        simp
      have hangle := hbegins.toUpper_eq hc
        (List.getElem?_eq_getElem (l := tail) (Nat.lt_of_succ_lt_succ hshort))
      rw [(List.cons.inj hclosing).1] at hangle
      apply honly
      rw [hangle]
      exact List.getElem_mem _
  · rcases hbegins with hwhole | hbegun
    · apply List.prefix_of_prefix_length_le hwhole
      · rw [List.map_append]
        exact List.prefix_append _ _
      · rw [List.length_map]
        omega
    · have hle := hbegun.length_le
      have hpos := List.length_pos_iff.mpr hne
      simp only [List.length_map, List.length_append] at hle
      omega

/-- The body of the innermost element is found.  Where an end tag stands behind it, a character of a
name follows, unless the text ends, and where none does, no more than a `<` is left. -/
theorem exists_rawText_behind {tags : Nesting Tag} {tag : Tag} (ahead : List Char)
    (htop : tags.top? = some tag) :
    ∃ length read, rawText tags ahead = .ofLength .rawText length read ∧
      (∀ more, ahead.drop length = '<' :: '/' :: more → more.head?.all isNameChar = true) ∧
      (¬['<', '/'] <+: ahead.drop length → ahead.drop length <+: ['<']) := by
  refine ⟨_, (bodyLength (bodyEnd tag) 0 0 0 ahead).2, by rw [rawText, htop], ?_⟩
  obtain ⟨later, hend⟩ := exists_bodyEnd tag
  have hbehind : BeginsEnd (bodyEnd tag) (ahead.drop _) := (isLeast_bodyEnd tag ahead).1
  generalize ahead.drop (bodyLength (bodyEnd tag) 0 0 0 ahead).1 = rest at hbehind ⊢
  rw [hend] at hbehind
  constructor
  · rintro more rfl
    cases more with
    | nil => rfl
    | cons c more => exact isNameChar_of_toUpper_eq (hbehind.toUpper_eq (i := 2) rfl rfl)
  · intro hnone
    -- the text ends before the slash of the end tag
    match rest with
    | [] => exact List.nil_prefix
    | [c] => rw [eq_angle_of_toUpper (hbehind.toUpper_eq (i := 0) rfl rfl)]
    | c :: c₂ :: more =>
      rw [eq_angle_of_toUpper (hbehind.toUpper_eq (i := 0) rfl rfl),
        eq_slash_of_toUpper (hbehind.toUpper_eq (i := 1) rfl rfl)] at hnone
      exact absurd (List.prefix_append ['<', '/'] more) hnone

/-- The body of the innermost element is found up to its end tag. -/
theorem exists_rawText_append (tags : Nesting Tag) {tag : Tag} {body closing : List Char}
    (rest : List Char) (htop : tags.top? = some tag)
    (hclosing : closing.map Char.toUpper = bodyEnd tag)
    (hnone : ¬bodyEnd tag <:+: body.map Char.toUpper) :
    ∃ read, rawText tags (body ++ (closing ++ rest)) = .ofLength .rawText body.length read := by
  refine ⟨(bodyLength (bodyEnd tag) 0 0 0 (body ++ (closing ++ rest))).2, ?_⟩
  rw [rawText, htop]
  show Reading.ofLength _ _ _ = _
  congr 1
  obtain ⟨hbegins, hleast⟩ := isLeast_bodyEnd tag (body ++ (closing ++ rest))
  generalize (bodyLength (bodyEnd tag) 0 0 0 (body ++ (closing ++ rest))).1 = n at hbegins hleast
  have hle : n ≤ body.length := by
    apply hleast
    left
    rw [List.drop_left, List.map_append, hclosing]
    exact List.prefix_append _ _
  rcases Nat.lt_or_eq_of_le hle with hlt | rfl
  · obtain ⟨hfirst, honly, -⟩ := bodyEnd_angle tag
    rw [Set.mem_ofPred_eq, List.drop_append_of_le_length hle] at hbegins
    have hoccurs := hbegins.isPrefix_of_append hfirst honly (by simpa using hlt) hclosing
    rw [List.map_drop] at hoccurs
    exact absurd (hoccurs.isInfix.trans (List.drop_suffix n _).isInfix) hnone
  · rfl

/-! ## Comments -/

theorem DashesFit.of_isInfix {chars more : List Char} (hfit : DashesFit more)
    (hinside : chars <:+: more) : DashesFit chars :=
  fun hoccurs => hfit (hoccurs.trans hinside)

theorem DashesFit.lt_of_replicate {n : Nat} {more : List Char} (hfit : DashesFit more)
    (hinside : List.replicate n '-' <:+: more) : n < UInt32.size := by
  apply Nat.lt_of_not_le
  intro hle
  apply hfit
  obtain ⟨m, rfl⟩ := Nat.exists_eq_add_of_le hle
  rw [List.replicate_add] at hinside
  exact (List.prefix_append _ _).isInfix.trans hinside

section CommentBody

variable {body rest : List Char} {dashes : UInt32} {read : Nat}

/-- The dashes counted stand directly before what is ahead. -/
def counted (dashes : UInt32) : List Char :=
  List.replicate dashes.toNat '-'

/-- One more dash is counted as long as there are not too many. -/
theorem toNat_succ (hfit : DashesFit (counted dashes ++ '-' :: rest)) :
    (dashes + 1).toNat = dashes.toNat + 1 := by
  have hinside : List.replicate (dashes.toNat + 1) '-' <:+: counted dashes ++ '-' :: rest := by
    rw [List.replicate_succ', List.append_cons (counted dashes) '-' rest]
    exact (List.prefix_append _ _).isInfix
  have hlt := hfit.lt_of_replicate hinside
  rw [UInt32.toNat_add, UInt32.toNat_one]
  exact Nat.mod_eq_of_lt hlt

theorem counted_succ (hfit : DashesFit (counted dashes ++ '-' :: rest)) :
    counted (dashes + 1) = counted dashes ++ ['-'] := by
  rw [counted, toNat_succ hfit, List.replicate_succ']
  rfl

theorem succ_ne_zero (hfit : DashesFit (counted dashes ++ '-' :: rest)) :
    (dashes + 1 == 0) = false := by
  rw [beq_eq_false_iff_ne]
  intro hzero
  have hnone := toNat_succ hfit
  rw [hzero] at hnone
  exact absurd hnone (Nat.succ_ne_zero _).symm

/-- With the dashes before it, the character at which the pass ends is the end of a `-->`. -/
theorem endsIn_counted {c : Char} (hend : (decide (c = '>') && decide (2 ≤ dashes)) = true) :
    ['-', '-', '>'] <:+: counted dashes ++ c :: body := by
  simp only [Bool.and_eq_true, decide_eq_true_eq] at hend
  obtain ⟨rfl, hdashes⟩ := hend
  refine ⟨List.replicate (dashes.toNat - 2) '-', body, ?_⟩
  obtain ⟨more, hmore⟩ := Nat.exists_eq_add_of_le' (UInt32.le_iff_toNat_le.mp hdashes)
  rw [counted, hmore]
  simp [List.replicate_add]

/-- The pass through a comment reads on where no `-->` is.  The dashes that it counts are the last
characters behind it. -/
theorem exists_commentBody_append (rest : List Char) (dashes : UInt32) (read : Nat)
    (hnone : ¬['-', '-', '>'] <:+: counted dashes ++ body)
    (hfit : DashesFit (counted dashes ++ body)) :
    ∃ dashes', counted dashes' <:+ counted dashes ++ body ∧
      commentBody dashes false read (body ++ rest) =
        commentBody dashes' false (read + body.length) rest := by
  induction body generalizing dashes read with
  | nil => exact ⟨dashes, by rw [List.append_nil], rfl⟩
  | cons c body ih =>
    have hcount : read + (c :: body).length = read + 1 + body.length := by
      rw [List.length_cons]
      omega
    rw [hcount, List.cons_append, commentBody]
    split
    · next hdash =>
      subst hdash
      have hmore := counted_succ hfit
      rw [succ_ne_zero hfit, Bool.or_false]
      rw [List.append_cons, ← hmore] at hnone hfit ⊢
      exact ih (dashes + 1) (read + 1) hnone hfit
    · -- another character takes the count back, so only what is behind it matters
      have htail : counted 0 ++ body <:+ counted dashes ++ c :: body := by
        rw [List.append_cons]
        exact List.suffix_append _ _
      split
      · next hend => exact absurd (endsIn_counted hend) hnone
      · obtain ⟨dashes', hsuffix, hbody⟩ := ih 0 (read + 1)
          (fun hoccurs => hnone (hoccurs.trans htail.isInfix)) (hfit.of_isInfix htail.isInfix)
        exact ⟨dashes', hsuffix.trans htail, hbody⟩

/-- It comes to the end of the comment behind the first `-->`. -/
theorem commentBody_append (hnone : ¬['-', '-', '>'] <:+: body)
    (hfit : DashesFit (body ++ ['-', '-'])) :
    commentBody 0 false read (body ++ '-' :: '-' :: '>' :: rest) =
      .take .comment (read + body.length + 3) := by
  have hbodyFit : DashesFit body := hfit.of_isInfix (List.prefix_append _ _).isInfix
  obtain ⟨dashes, hsuffix, hbody⟩ :=
    exists_commentBody_append ('-' :: '-' :: '>' :: rest) 0 read hnone hbodyFit
  -- the two dashes of the end are counted with those right before them
  have hend : DashesFit (counted dashes ++ ['-', '-']) := by
    obtain ⟨before, hbefore⟩ := hsuffix
    refine hfit.of_isInfix (List.IsSuffix.isInfix ⟨before, ?_⟩)
    rw [← List.append_assoc, hbefore]
    rfl
  have hmore := counted_succ hend
  have hend' : DashesFit (counted (dashes + 1) ++ ['-']) := by
    rw [hmore, List.append_assoc]
    exact hend
  have htwo : (2 : UInt32) ≤ dashes + 1 + 1 := by
    rw [UInt32.le_iff_toNat_le, toNat_succ hend', toNat_succ hend]
    exact Nat.le_add_left 2 _
  rw [hbody]
  simp [commentBody, succ_ne_zero hend, succ_ne_zero hend', htwo, Reading.take]

/-- Without one it comes to the end of the text. -/
theorem commentBody_of_none (hnone : ¬['-', '-', '>'] <:+: body) (hfit : DashesFit body) :
    commentBody 0 false read body = .decline (read + body.length) := by
  obtain ⟨dashes, -, hbody⟩ := exists_commentBody_append [] 0 read hnone hfit
  rw [List.append_nil] at hbody
  rw [hbody]
  rfl

end CommentBody

/-- A comment is found as a whole. -/
theorem comment_append {body rest : List Char} (hnone : ¬['-', '-', '>'] <:+: body)
    (hfit : DashesFit (body ++ ['-', '-'])) :
    comment ('-' :: '-' :: (body ++ '-' :: '-' :: '>' :: rest)) =
      .take .comment (body.length + 7) := by
  rw [comment, commentBody_append hnone hfit]
  congr 1
  omega

/-! ## Counts that go over -/

section Overflow

variable {body chars rest : List Char} {dashes : UInt32} {read : Nat}

/-- The count of the dashes goes over only where there are too many. -/
theorem overflowed_of_dashesFit (hfit : DashesFit (counted dashes ++ chars)) :
    (commentBody dashes false read chars).overflowed = false := by
  induction chars generalizing dashes read with
  | nil => rfl
  | cons c rest ih =>
    rw [commentBody]
    split
    · next hdash =>
      subst hdash
      rw [succ_ne_zero hfit]
      apply ih
      rw [counted_succ hfit, List.append_assoc]
      exact hfit
    · split
      · rfl
      · apply ih
        refine hfit.of_isInfix (List.IsSuffix.isInfix ?_)
        rw [List.append_cons]
        exact List.suffix_append _ _

theorem comment_overflowed (hfit : DashesFit chars) : (comment chars).overflowed = false := by
  unfold comment
  split
  · next body =>
    apply overflowed_of_dashesFit
    exact hfit.of_isInfix ((List.suffix_cons _ _).trans (List.suffix_cons _ _)).isInfix
  · rfl
  · rfl

/-- A count that has gone over is not forgotten. -/
theorem overflowed_commentBody_true : (commentBody dashes true read chars).overflowed = true := by
  induction chars generalizing dashes read with
  | nil => rfl
  | cons c rest ih =>
    rw [commentBody]
    split
    · exact ih
    · split
      · rfl
      · exact ih

/-- As many dashes as a count can hold fit. -/
theorem dashesFit_counted (dashes : UInt32) : DashesFit (counted dashes) := by
  apply dashesFit_of_length
  rw [counted, List.length_replicate]
  exact dashes.toNat_lt_size

/-- Dashes can be counted one more time if the count does not begin anew. -/
theorem counted_succ_of_ne_zero (hzero : (dashes + 1 == 0) = false) :
    counted (dashes + 1) = counted dashes ++ ['-'] := by
  refine @counted_succ [] dashes ?_
  intro hoccurs
  have hle := hoccurs.length_le
  rw [List.length_append, List.length_replicate, counted, List.length_replicate] at hle
  -- that many dashes are one more than the greatest count
  have hlast : dashes.toNat + 1 = UInt32.size :=
    Nat.le_antisymm dashes.toNat_lt_size hle
  rw [beq_eq_false_iff_ne] at hzero
  apply hzero
  rw [← UInt32.toNat_inj, UInt32.toNat_add, UInt32.toNat_one, hlast]
  rfl

/-- Dashes that do not fit are all on one side of another character. -/
theorem DashesFit.append_cons {c : Char} (hdash : c ≠ '-') (hfit : DashesFit chars) :
    DashesFit (counted dashes ++ c :: chars) := by
  have hall : ∀ n < UInt32.size, DashesFit (List.replicate n '-' ++ c :: chars) := by
    intro n hn
    induction n with
    | zero =>
      intro hoccurs
      rcases List.infix_cons_iff.mp hoccurs with hbegins | hinside
      · rw [show UInt32.size = UInt32.size - 1 + 1 from rfl, List.replicate_succ,
          List.cons_prefix_cons] at hbegins
        exact hdash hbegins.1.symm
      · exact hfit hinside
    | succ n ih =>
      intro hoccurs
      rw [List.replicate_succ (n := n), List.cons_append] at hoccurs
      rcases List.infix_cons_iff.mp hoccurs with hbegins | hinside
      · -- the dashes would go on to the other character
        rw [← List.cons_append, ← List.replicate_succ (n := n)] at hbegins
        obtain ⟨more, hmore⟩ := hbegins
        have hget := congrArg (·[n + 1]?) hmore
        simp [List.getElem?_append, hn] at hget
        exact hdash hget.symm
      · exact ih (Nat.lt_of_succ_lt hn) hinside
  exact hall dashes.toNat dashes.toNat_lt_size

/-- The count goes over wherever there are too many and no `-->` before. -/
theorem overflowed_of_not_dashesFit (hnone : ¬['-', '-', '>'] <:+: counted dashes ++ body)
    (hmany : ¬DashesFit (counted dashes ++ body)) :
    (commentBody dashes false read (body ++ rest)).overflowed = true := by
  -- the induction is on the body, with the dashes already counted put back in front of it
  induction body generalizing dashes read with
  | nil =>
    rw [List.append_nil] at hmany
    exact absurd (dashesFit_counted dashes) hmany
  | cons c body ih =>
    rw [List.cons_append, commentBody]
    split
    · next hdash =>
      subst hdash
      cases hzero : dashes + 1 == 0 with
      | true => exact overflowed_commentBody_true
      | false =>
        apply ih
        · rw [counted_succ_of_ne_zero hzero, List.append_assoc]
          exact hnone
        · rw [counted_succ_of_ne_zero hzero, List.append_assoc]
          exact hmany
    · next hdash =>
      split
      · next hend => exact absurd (endsIn_counted hend) hnone
      · have htail : counted 0 ++ body <:+ counted dashes ++ c :: body := by
          rw [List.append_cons]
          exact List.suffix_append _ _
        apply ih
        · exact fun hoccurs => hnone (hoccurs.trans htail.isInfix)
        · exact fun hfit => hmany (DashesFit.append_cons hdash hfit)

/-- A comment with more dashes than can be counted, in its body or at its end. -/
theorem comment_overflowed_of_many (hnone : ¬['-', '-', '>'] <:+: body)
    (hmany : ¬DashesFit (body ++ ['-', '-'])) :
    (comment ('-' :: '-' :: (body ++ '-' :: '-' :: '>' :: rest))).overflowed = true := by
  have hdash : ∀ chars : List Char,
      ¬['-', '-', '>'] <:+: chars → ¬['-', '-', '>'] <:+: chars ++ ['-'] := by
    intro chars hnone hoccurs
    rcases List.infix_concat_iff.mp hoccurs with ⟨before, hsuffix⟩ | hinside
    · have hlast := congrArg List.getLast? hsuffix
      simp at hlast
    · exact hnone hinside
  have hend : ¬['-', '-', '>'] <:+: body ++ ['-', '-'] := by
    rw [List.append_cons]
    exact hdash _ (hdash _ hnone)
  have hbody : (commentBody 0 false 4 (body ++ ['-', '-'] ++ '>' :: rest)).overflowed = true :=
    overflowed_of_not_dashesFit hend hmany
  rw [List.append_assoc] at hbody
  exact hbody

end Overflow

end TemplateScan.Lexing
