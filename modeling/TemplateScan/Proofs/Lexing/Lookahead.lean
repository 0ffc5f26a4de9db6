import TemplateScan.Lexing.Choice

/-!
# How far a recognizer looks

A recognizer looks at the characters that its reading counts, and at one more: the one that stops
it.  So it does not matter what comes later.  Two texts that go on alike for so long have the same
reading, which each loop shows by counting the characters that it takes.

* `SameNext n`: two texts have the same next `n` characters.
* `LooksNoFurther`: a recognizer looks at one character behind those that its reading counts.
* `looksNoFurther_run`: the recognizers of names look at a run of characters and at what stops it.
* `read_eq_of_sameNext`: the token ahead is the same wherever all that it was told by is ahead.
-/

namespace TemplateScan

/-- The number of characters looked at, but for those passed over before the token. -/
def Reading.reach (r : Reading) : Nat :=
  r.length + r.beyond

@[simp]
theorem Reading.reach_decline (n : Nat) : (Reading.decline n).reach = n :=
  Nat.zero_add n

@[simp]
theorem Reading.reach_take (finding : Finding) (n : Nat) : (Reading.take finding n).reach = n :=
  rfl

@[simp]
theorem Reading.reach_here (finding : Finding) (n : Nat) : (Reading.here finding n).reach = n :=
  Nat.zero_add n

theorem Reading.le_reach_ofLength (finding : Finding) (length read : Nat) :
    read ≤ (Reading.ofLength finding length read).reach := by
  simp only [ofLength, reach]
  omega

namespace Lexing

open Text Mustache Markup

/-! ## Texts that go on alike -/

/-- Two texts have the same next `n` characters, or end alike before. -/
def SameNext (n : Nat) (ahead ahead' : List Char) : Prop :=
  ahead'.take n = ahead.take n

namespace SameNext

variable {n : Nat} {ahead ahead' : List Char}

/-- Two texts that go on alike begin with the same character, unless both have ended. -/
theorem cases (hsame : SameNext (n + 1) ahead ahead') :
    ahead = [] ∧ ahead' = [] ∨
      ∃ c rest rest', ahead = c :: rest ∧ ahead' = c :: rest' ∧ SameNext n rest rest' := by
  cases ahead with
  | nil =>
    cases ahead' with
    | nil => exact .inl ⟨rfl, rfl⟩
    | cons c rest' => cases hsame
  | cons c rest =>
    cases ahead' with
    | nil => cases hsame
    | cons c' rest' =>
      obtain ⟨rfl, hrest⟩ := List.cons.inj hsame
      exact .inr ⟨c', rest, rest', rfl, rfl, hrest⟩

theorem eq_nil (hsame : SameNext (n + 1) [] ahead') : ahead' = [] := by
  obtain ⟨-, hnil⟩ | ⟨c, rest, rest', hcons, -, -⟩ := hsame.cases
  · exact hnil
  · cases hcons

theorem exists_cons {c : Char} (hsame : SameNext (n + 1) (c :: ahead) ahead') :
    ∃ rest', ahead' = c :: rest' ∧ SameNext n ahead rest' := by
  obtain ⟨hnil, -⟩ | ⟨c', rest, rest', hcons, rfl, hrest⟩ := hsame.cases
  · cases hnil
  · obtain ⟨rfl, rfl⟩ := List.cons.inj hcons
    exact ⟨rest', rfl, hrest⟩

theorem cons (c : Char) (hsame : SameNext n ahead ahead') :
    SameNext (n + 1) (c :: ahead) (c :: ahead') :=
  congrArg (c :: ·) hsame

theorem head? (hsame : SameNext (n + 1) ahead ahead') : ahead'.head? = ahead.head? := by
  obtain ⟨rfl, rfl⟩ | ⟨c, rest, rest', rfl, rfl, -⟩ := hsame.cases <;> rfl

theorem tail (hsame : SameNext (n + 1) ahead ahead') : SameNext n ahead.tail ahead'.tail := by
  obtain ⟨rfl, rfl⟩ | ⟨c, rest, rest', rfl, rfl, hrest⟩ := hsame.cases
  · rfl
  · exact hrest

theorem drop (m : Nat) (hsame : SameNext (m + n) ahead ahead') :
    SameNext n (ahead.drop m) (ahead'.drop m) := by
  have hdrop := congrArg (List.drop m) hsame
  rwa [List.drop_take, List.drop_take, Nat.add_sub_cancel_left] at hdrop

/-- A run of characters that ends within what is alike is the same in both. -/
theorem takeWhile {inClass : Char → Bool} (hrun : (ahead.takeWhile inClass).length ≤ n)
    (hsame : SameNext (n + 1) ahead ahead') :
    ahead'.takeWhile inClass = ahead.takeWhile inClass := by
  induction ahead generalizing ahead' n with
  | nil => rw [hsame.eq_nil]
  | cons c rest ih =>
    obtain ⟨rest', rfl, hrest⟩ := hsame.exists_cons
    rw [List.takeWhile_cons, List.takeWhile_cons]
    split
    · next hc =>
      -- the character is one of the run, so the rest of the run is shorter than what is alike
      rw [List.takeWhile_cons_of_pos hc, List.length_cons] at hrun
      obtain ⟨m, rfl⟩ : ∃ m, n = m + 1 := ⟨n - 1, by omega⟩
      rw [ih (by omega) hrest]
    · -- both runs stop at this character
      rfl

end SameNext

theorem isEmpty_of_head? {rest rest' : List Char} (hhead : rest'.head? = rest.head?) :
    rest'.isEmpty = rest.isEmpty := by
  cases rest <;> cases rest' <;> simp_all

/-! ## Recognizers -/

/-- A recognizer that has `before` characters behind it looks at one character behind those that its
reading counts: where these are the same, the reading is. -/
def LooksNoFurther (before : Nat) (recognize : List Char → Reading) : Prop :=
  ∀ ⦃ahead ahead' : List Char⦄ ⦃n : Nat⦄, (recognize ahead).reach ≤ before + n →
    SameNext (n + 1) ahead ahead' → recognize ahead' = recognize ahead

theorem looksNoFurther_const (before : Nat) (reading : Reading) :
    LooksNoFurther before fun _ => reading :=
  fun _ _ _ _ _ => rfl

/-- A choice of recognizer that need not be made, likewise. -/
def LooksNoFurther? (before : Nat) (recognize? : List Char → Option Reading) : Prop :=
  ∀ ⦃ahead ahead' : List Char⦄ ⦃n : Nat⦄, (∀ r ∈ recognize? ahead, r.reach ≤ before + n) →
    SameNext (n + 1) ahead ahead' → recognize? ahead' = recognize? ahead

section Combine

variable {before : Nat}

theorem LooksNoFurther.ite {f g : List Char → Reading} (p : Prop) [Decidable p]
    (hf : LooksNoFurther before f) (hg : LooksNoFurther before g) :
    LooksNoFurther before fun ahead => if p then f ahead else g ahead := by
  split
  · exact hf
  · exact hg

theorem LooksNoFurther?.ite {f g : List Char → Option Reading} (p : Prop) [Decidable p]
    (hf : LooksNoFurther? before f) (hg : LooksNoFurther? before g) :
    LooksNoFurther? before fun ahead => if p then f ahead else g ahead := by
  split
  · exact hf
  · exact hg

/-- The next character may choose: it is looked at anyway. -/
theorem LooksNoFurther?.iteHead {f g : List Char → Option Reading} (p : Option Char → Prop)
    [DecidablePred p] (hf : LooksNoFurther? before f) (hg : LooksNoFurther? before g) :
    LooksNoFurther? before fun ahead => if p ahead.head? then f ahead else g ahead := by
  intro ahead ahead' n hread hsame
  simp only [hsame.head?]
  split
  · next hp => exact hf (by simpa only [if_pos hp] using hread) hsame
  · next hp => exact hg (by simpa only [if_neg hp] using hread) hsame

/-- A next character that chooses is read where the recognizer behind it counts it. -/
theorem LooksNoFurther.iteNext {f g : List Char → Reading} (c : Char)
    (hf : LooksNoFurther (before + 1) f) (hcount : ∀ rest, before + 1 ≤ (f rest).reach)
    (hg : LooksNoFurther before g) :
    LooksNoFurther before fun ahead => if ahead.head? = some c then f ahead.tail else g ahead := by
  intro ahead ahead' n hread hsame
  simp only [hsame.head?]
  split
  · next hhead =>
    -- the recognizer behind the character counts it, so one of the `n` characters is taken up by it
    simp only [if_pos hhead] at hread
    have hone := hcount ahead.tail
    obtain ⟨m, rfl⟩ : ∃ m, n = m + 1 := ⟨n - 1, by omega⟩
    exact hf (by omega) hsame.tail
  · next hhead =>
    simp only [if_neg hhead] at hread
    exact hg hread hsame

theorem LooksNoFurther?.some {f : List Char → Reading} (hf : LooksNoFurther before f) :
    LooksNoFurther? before fun ahead => some (f ahead) :=
  fun _ _ _ hread hsame => congrArg _ (hf (hread _ rfl) hsame)

theorem LooksNoFurther?.none (before : Nat) : LooksNoFurther? before fun _ => none :=
  fun _ _ _ _ _ => rfl

/-- Where nothing is chosen, another recognizer may look. -/
theorem LooksNoFurther?.orElse {f? : List Char → Option Reading} {g : List Char → Reading}
    (hf : LooksNoFurther? before f?) (hg : LooksNoFurther before g) :
    LooksNoFurther before fun ahead => (f? ahead).getD (g ahead) := by
  intro ahead ahead' n hread hsame
  cases hchoice : f? ahead with
  | none =>
    -- that nothing is chosen is told by the next character at the latest
    simp only [hchoice, Option.getD_none] at hread
    simp only [hf (fun r hr => by simp [hchoice] at hr) hsame, hchoice, Option.getD_none]
    exact hg hread hsame
  | some reading =>
    simp only [hchoice, Option.getD_some] at hread
    simp only [hf (fun r hr => by simp_all) hsame, hchoice]
    rfl

end Combine

/-- A recognizer that takes a run of characters and chooses by the character that stops it looks no
further. -/
theorem looksNoFurther_run {before : Nat} {inClass : Char → Bool}
    (choose : List Char → List Char → Reading)
    (hreach : ∀ run rest, before + run.length ≤ (choose run rest).reach)
    (hchoose : ∀ run rest rest', rest'.head? = rest.head? → choose run rest' = choose run rest) :
    LooksNoFurther before fun ahead =>
      choose (ahead.takeWhile inClass) (ahead.drop (ahead.takeWhile inClass).length) := by
  intro ahead ahead' n hread hsame
  -- the run is counted, so both texts have it, and the character that stops it is alike
  have hrun : (ahead.takeWhile inClass).length ≤ n :=
    Nat.le_of_add_le_add_left (Nat.le_trans (hreach _ _) hread)
  obtain ⟨m, rfl⟩ := Nat.exists_eq_add_of_le hrun
  simp only [hsame.takeWhile hrun]
  exact hchoose _ _ _ (SameNext.drop (n := m + 1) _ hsame).head?

/-! ### Inside mustache tags -/

theorem le_commonLength (count : Nat) (literal ahead : List Char) :
    count ≤ commonLength count literal ahead := by
  fun_induction commonLength count literal ahead with
  | case1 count a as bs ih => omega
  | case2 | case3 => exact Nat.le_refl _

/-- The comparison with a literal stops at the first character that differs. -/
theorem commonLength_eq_of_sameNext {count n : Nat} {literal ahead ahead' : List Char}
    (hread : commonLength count literal ahead ≤ count + n)
    (hsame : SameNext (n + 1) ahead ahead') :
    commonLength count literal ahead' = commonLength count literal ahead := by
  induction literal generalizing count n ahead ahead' with
  | nil => rfl
  | cons a literal ih =>
    obtain ⟨rfl, rfl⟩ | ⟨c, rest, rest', rfl, rfl, hrest⟩ := hsame.cases
    · rfl
    rw [commonLength, commonLength]
    rw [commonLength] at hread
    split
    · next heq =>
      -- the comparison goes on, and this character is among those that it counts at the end
      rw [if_pos heq] at hread
      have hcount := le_commonLength (count + 1) literal rest
      obtain ⟨m, rfl⟩ : ∃ m, n = m + 1 := ⟨n - 1, by omega⟩
      exact ih (by omega) hrest
    · rfl

theorem reach_delimiter (finding : Finding) (literal ahead : List Char) :
    (delimiter finding literal ahead).reach = matchLength literal ahead := by
  rw [delimiter]
  split <;> simp

theorem looksNoFurther_delimiter (finding : Finding) (literal : List Char) :
    LooksNoFurther 0 (delimiter finding literal) := by
  intro ahead ahead' n hread hsame
  rw [reach_delimiter] at hread
  rw [delimiter, delimiter, matchLength, commonLength_eq_of_sameNext hread hsame, matchLength]

theorem looksNoFurther_newOpening : LooksNoFurther 0 newOpening := by
  refine looksNoFurther_run (fun text rest => if text.isEmpty || rest.isEmpty then
    .decline text.length else .take (.newOpening (String.ofList text)) text.length) ?_ ?_
  · intro text rest
    split <;> simp
  · intro text rest rest' hhead
    simp only [isEmpty_of_head? hhead]

theorem looksNoFurther_newClosing : LooksNoFurther 0 newClosing := by
  refine looksNoFurther_run (fun text rest => if text.isEmpty || rest.head? ≠ some '=' then
    .decline text.length else .take (.newClosing (String.ofList text)) text.length) ?_ ?_
  · intro text rest
    split <;> simp
  · intro text rest rest' hhead
    simp only [hhead]

theorem looksNoFurther_identifier (d : Delimiters) : LooksNoFurther 0 (identifier d) := by
  refine looksNoFurther_run (fun part rest => if part.isEmpty || rest.isEmpty then
    .decline part.length else .take .identifier part.length) ?_ ?_
  · intro part rest
    split <;> simp
  · intro part rest rest' hhead
    simp only [isEmpty_of_head? hhead]

theorem looksNoFurther_mustacheComment (d : Delimiters) :
    LooksNoFurther 0 (mustacheComment d) := by
  refine looksNoFurther_run (fun text rest => if rest.isEmpty then .decline text.length
    else .take .mustacheComment text.length) ?_ ?_
  · intro text rest
    split <;> simp
  · intro text rest rest' hhead
    simp only [isEmpty_of_head? hhead]

theorem looksNoFurther_sectionStart (d : Delimiters) : LooksNoFurther 0 (sectionStart d) := by
  refine looksNoFurther_run (fun name _ => if name.isEmpty then .decline 0
    else .take (.sectionStart (String.ofList name)) name.length) ?_ (fun _ _ _ _ => rfl)
  intro name rest
  split <;> simp_all

theorem looksNoFurther_sectionEnd (d : Delimiters) (sections : Nesting String) :
    LooksNoFurther 0 (sectionEnd d sections) := by
  refine looksNoFurther_run (fun name _ => if name.isEmpty then .decline 0
    else .take (if sections.closes (String.ofList name) then .sectionEnd
      else .erroneousSectionEnd) name.length) ?_ (fun _ _ _ _ => rfl)
  intro name rest
  split <;> simp_all

/-! ### Tags -/

theorem looksNoFurther_startTagName : LooksNoFurther 0 startTagName := by
  refine looksNoFurther_run (fun name _ => if name.isEmpty then .decline 0
    else .take (.startTag (tagOf name)) name.length) ?_ (fun _ _ _ _ => rfl)
  intro name rest
  split <;> simp_all

theorem looksNoFurther_endTagName (tags : Nesting Tag) : LooksNoFurther 0 (endTagName tags) := by
  refine looksNoFurther_run (fun name _ => if name.isEmpty then .decline 0
    else .take (if tags.closes (tagOf name) then .endTag else .erroneousEndTag) name.length) ?_
    (fun _ _ _ _ => rfl)
  intro name rest
  split <;> simp_all

/-- The end of a start tag asks for one character after the other. -/
theorem selfClosing_eq (tags : Nesting Tag) :
    selfClosing tags = fun ahead =>
      if ahead.head? = some '/' then
        if ahead.tail.head? = some '>' then
          if tags.isEmpty then .decline 2 else .take .selfClosing 2
        else .decline 1
      else .decline 1 := by
  funext ahead
  unfold selfClosing
  split
  · simp
  · next hother =>
    split
    · -- a slash with no `>` behind it
      rw [if_neg]
      intro hangle
      obtain _ | ⟨c, _ | ⟨c₂, rest⟩⟩ := ahead <;> simp_all
    · rfl

theorem looksNoFurther_selfClosing (tags : Nesting Tag) : LooksNoFurther 0 (selfClosing tags) := by
  rw [selfClosing_eq]
  -- each of the two characters is counted by what is chosen behind it
  refine .iteNext (f := fun ahead => if ahead.head? = some '>' then
    if tags.isEmpty then .decline 2 else .take .selfClosing 2 else .decline 1) '/' ?_ ?_
    (looksNoFurther_const 0 _)
  · exact .iteNext '>' (looksNoFurther_const 2 _) (fun _ => by split <;> simp)
      (looksNoFurther_const 1 _)
  · intro rest
    split
    · split <;> simp
    · simp

theorem reach_impliedEndBefore (ends : Tag → Bool → Bool) (consumed : Nat) (ahead : List Char) :
    (impliedEndBefore ends consumed ahead).reach = consumed + (tagName ahead).length := by
  rw [impliedEndBefore]
  split
  · simp
  · split <;> simp

theorem looksNoFurther_impliedEndBefore (ends : Tag → Bool → Bool) (consumed : Nat) :
    LooksNoFurther consumed (impliedEndBefore ends consumed) := by
  refine looksNoFurther_run (fun name rest => if name.isEmpty && !rest.isEmpty then
      .decline (consumed + name.length)
    else if ends (tagOf name) rest.isEmpty then .here .implicitEnd (consumed + name.length)
    else .decline (consumed + name.length)) ?_ ?_
  · intro name rest
    split
    · simp
    · split <;> simp
  · intro name rest rest' hhead
    simp only [isEmpty_of_head? hhead]

/-- The implied end asks for the slash of an end tag first. -/
theorem impliedEnd_eq (tags : Nesting Tag) (consumed : Nat) :
    impliedEnd tags consumed = fun ahead =>
      if ahead.head? = some '/' then
        impliedEndBefore (fun next _ => endsBeforeEndTag tags next) (consumed + 1) ahead.tail
      else if tags.top?.any Tag.isVoid then .here .implicitEnd consumed
      else impliedEndBefore (endsBeforeStartTag tags) consumed ahead := by
  funext ahead
  rw [impliedEnd.eq_def]
  split
  · simp
  · next hother =>
    -- what is behind a slash has been read in the first case
    symm
    apply if_neg
    intro hslash
    cases ahead <;> simp_all

theorem le_reach_impliedEnd (tags : Nesting Tag) (consumed : Nat) (ahead : List Char) :
    consumed ≤ (impliedEnd tags consumed ahead).reach := by
  rw [impliedEnd.eq_def]
  split
  · rw [reach_impliedEndBefore]
    omega
  · split
    · simp
    · rw [reach_impliedEndBefore]
      omega

theorem looksNoFurther_impliedEnd (tags : Nesting Tag) (consumed : Nat) :
    LooksNoFurther consumed (impliedEnd tags consumed) := by
  rw [impliedEnd_eq]
  refine .iteNext '/' (looksNoFurther_impliedEndBefore _ _) ?_
    (.ite _ (looksNoFurther_const _ _) (looksNoFurther_impliedEndBefore _ _))
  -- the slash is among the characters that are read before the name
  intro rest
  rw [reach_impliedEndBefore]
  omega

theorem le_reach_impliedEndIfValid (s : ScanState) (valid : TokenSet) (consumed : Nat)
    (ahead : List Char) : consumed ≤ (impliedEndIfValid s valid consumed ahead).reach := by
  rw [impliedEndIfValid]
  split
  · exact le_reach_impliedEnd ..
  · simp

theorem looksNoFurther_impliedEndIfValid (s : ScanState) (valid : TokenSet) (consumed : Nat) :
    LooksNoFurther consumed (impliedEndIfValid s valid consumed) := by
  unfold impliedEndIfValid
  split
  · exact looksNoFurther_impliedEnd s.tags consumed
  · exact looksNoFurther_const consumed (.decline consumed)

/-! ### Bodies -/

theorem le_reach_commentBody (dashes : UInt32) (overflowed : Bool) (read : Nat)
    (ahead : List Char) : read ≤ (commentBody dashes overflowed read ahead).reach := by
  obtain ⟨n, overflowed', ⟨hbody, hn⟩ | ⟨hbody, hn⟩⟩ :=
    commentBody_cases dashes overflowed read ahead
  · rw [hbody]
    exact Nat.le_of_lt hn
  · rw [hbody, Reading.reach, Reading.decline, Nat.zero_add]
    exact hn

theorem looksNoFurther_commentBody (dashes : UInt32) (overflowed : Bool) (read : Nat) :
    LooksNoFurther read (commentBody dashes overflowed read) := by
  intro ahead ahead' n hread hsame
  induction ahead generalizing dashes overflowed read n ahead' with
  | nil => rw [hsame.eq_nil]
  | cons c rest ih =>
    obtain ⟨rest', rfl, hrest⟩ := hsame.exists_cons
    -- where the pass goes on, the character is among those that it has read at the end
    have hlater : ∀ dashes' overflowed',
        (commentBody dashes' overflowed' (read + 1) rest).reach ≤ read + n →
          commentBody dashes' overflowed' (read + 1) rest' =
            commentBody dashes' overflowed' (read + 1) rest := by
      intro dashes' overflowed' hreach
      have hle := le_reach_commentBody dashes' overflowed' (read + 1) rest
      obtain ⟨m, rfl⟩ : ∃ m, n = m + 1 := ⟨n - 1, by omega⟩
      exact ih dashes' overflowed' (read + 1) (by omega) hrest
    rw [commentBody] at hread
    rw [commentBody, commentBody]
    split at hread
    · next hdash =>
      rw [if_pos hdash, if_pos hdash]
      exact hlater _ _ hread
    · next hdash =>
      rw [if_neg hdash, if_neg hdash]
      split at hread
      · next hend => rw [if_pos hend, if_pos hend]
      · next hend =>
        rw [if_neg hend, if_neg hend]
        exact hlater _ _ hread

/-- A comment asks for its dashes one after the other, and then for its end. -/
theorem comment_eq :
    comment = fun ahead =>
      if ahead.head? = some '-' then
        if ahead.tail.head? = some '-' then commentBody 0 false 4 ahead.tail.tail else .decline 3
      else .decline 2 := by
  funext ahead
  unfold comment
  split
  · next body => simp only [List.head?_cons, List.tail_cons, if_true]
  · next rest hother =>
    simp only [List.head?_cons, List.tail_cons, if_true]
    symm
    apply if_neg
    intro hdash
    cases rest <;> simp_all
  · next hother =>
    symm
    apply if_neg
    intro hdash
    cases ahead <;> simp_all

theorem looksNoFurther_comment : LooksNoFurther 2 comment := by
  rw [comment_eq]
  -- the body counts the four characters before it, so the two dashes as well
  refine .iteNext (f := fun ahead => if ahead.head? = some '-' then
      commentBody 0 false 4 ahead.tail else .decline 3) '-' ?_ ?_ (looksNoFurther_const 2 _)
  · refine .iteNext (f := commentBody 0 false 4) '-' (looksNoFurther_commentBody 0 false 4) ?_
      (looksNoFurther_const 3 _)
    exact le_reach_commentBody 0 false 4
  · intro rest
    have hcount := le_reach_commentBody 0 false 4 rest.tail
    split
    · exact Nat.le_of_succ_le hcount
    · simp

theorem le_bodyLength (literal : List Char) (matched length read : Nat) (ahead : List Char) :
    read ≤ (bodyLength literal matched length read ahead).2 := by
  fun_induction bodyLength literal matched length read ahead with
  | case1 | case2 => exact Nat.le_refl _
  | case3 matched length read c rest hmatch hmore ih => omega
  | case4 matched length read rest hmatch ih => omega
  | case5 matched length read c rest hmatch hangle ih => omega

theorem bodyLength_eq_of_sameNext {literal : List Char} {matched length read n : Nat}
    {ahead ahead' : List Char} (hread : (bodyLength literal matched length read ahead).2 ≤ read + n)
    (hsame : SameNext (n + 1) ahead ahead') :
    bodyLength literal matched length read ahead' =
      bodyLength literal matched length read ahead := by
  induction ahead generalizing matched length read n ahead' with
  | nil => rw [hsame.eq_nil]
  | cons c rest ih =>
    obtain ⟨rest', rfl, hrest⟩ := hsame.exists_cons
    -- the pass goes on with another character, or the end of the body is found before this one
    have hgoesOn {matched length : Nat}
        (hlater : (bodyLength literal matched length (read + 1) rest).2 ≤ read + n) :
        bodyLength literal matched length (read + 1) rest' =
          bodyLength literal matched length (read + 1) rest := by
      have hcount := le_bodyLength literal matched length (read + 1) rest
      obtain ⟨m, rfl⟩ : ∃ m, n = m + 1 := ⟨n - 1, by omega⟩
      exact ih (by omega) hrest
    rw [bodyLength] at hread
    rw [bodyLength, bodyLength]
    split at hread
    · next hmatch =>
      rw [if_pos hmatch, if_pos hmatch]
      split at hread
      · next hend => rw [if_pos hend, if_pos hend]
      · next hend =>
        rw [if_neg hend, if_neg hend]
        exact hgoesOn hread
    · next hmatch =>
      rw [if_neg hmatch, if_neg hmatch]
      split at hread
      · next hangle =>
        rw [if_pos hangle, if_pos hangle]
        exact hgoesOn hread
      · next hangle =>
        rw [if_neg hangle, if_neg hangle]
        exact hgoesOn hread

theorem looksNoFurther_rawText (tags : Nesting Tag) : LooksNoFurther 0 (rawText tags) := by
  intro ahead ahead' n hread hsame
  rw [rawText] at hread
  rw [rawText, rawText]
  cases htop : tags.top? with
  | none => rfl
  | some tag =>
    simp only [htop] at hread
    simp only [bodyLength_eq_of_sameNext (Nat.le_trans (Reading.le_reach_ofLength _ _ _) hread)
      hsame]

/-! ### Plain text -/

namespace TextRun

theorem le_reach_stop (run : TextRun) : run.read ≤ run.stop.reach := by
  rw [stop]
  split
  · simp
  · exact Reading.le_reach_ofLength ..

theorem read_settle_reveal (run : TextRun) (c : Char) (openingAt closingAt : Option Nat) :
    (run.reveal c openingAt closingAt).settle.read = run.read := by
  rw [settle]
  split <;> rfl

/-- However a run of text ends, all characters read before are counted. -/
theorem le_reach_readOn (openingIsAdmissible : Bool) (run : TextRun) (ahead : List Char) :
    run.read ≤ (run.readOn openingIsAdmissible ahead).reach := by
  induction ahead generalizing run with
  | nil =>
    -- whatever the length of the text is, the characters behind it are counted as read beyond
    rw [readOn]
    split
    · exact le_reach_stop { run with length := run.read }
    · exact le_reach_stop run
  | cons c rest ih =>
    have hread : (run.feed c).2.2.read = run.read := rfl
    rw [readOn]
    dsimp only
    split
    · rw [Reading.reach_take, hread]
      exact Nat.le_succ _
    split
    · exact Nat.le_of_eq (by rw [Reading.reach_decline, hread])
    split
    · refine Nat.le_trans (Nat.le_of_eq ?_) (le_reach_stop _)
      rw [read_settle_reveal, hread]
    · refine Nat.le_trans ?_ (ih _)
      rw [read_settle_reveal, hread]
      exact Nat.le_succ _

/-- A run of text goes on until a character tells that it is over. -/
theorem readOn_eq_of_sameNext {openingIsAdmissible : Bool} {run : TextRun} {n : Nat}
    {ahead ahead' : List Char}
    (hread : (run.readOn openingIsAdmissible ahead).reach ≤ run.read + n)
    (hsame : SameNext (n + 1) ahead ahead') :
    run.readOn openingIsAdmissible ahead' = run.readOn openingIsAdmissible ahead := by
  induction ahead generalizing run n ahead' with
  | nil => rw [hsame.eq_nil]
  | cons c rest ih =>
    obtain ⟨rest', rfl, hrest⟩ := hsame.exists_cons
    rw [readOn] at hread
    rw [readOn, readOn]
    dsimp only at hread ⊢
    -- each of the three reasons to stop is told by this character and by what is known of the run
    split
    · rfl
    next hopening =>
    rw [if_neg hopening] at hread
    split
    · rfl
    next hdelimiter =>
    rw [if_neg hdelimiter] at hread
    split
    · rfl
    next hover =>
    -- the run goes on, so this character is among those read
    rw [if_neg hover] at hread
    have hcount := Nat.le_trans (le_reach_readOn _ _ _) hread
    have hfed : (run.feed c).2.2.read = run.read := rfl
    simp only [read_settle_reveal, hfed] at hcount
    obtain ⟨m, rfl⟩ : ∃ m, n = m + 1 := ⟨n - 1, by omega⟩
    refine ih (Nat.le_trans hread ?_) hrest
    simp only [read_settle_reveal, hfed]
    omega

end TextRun

theorem looksNoFurther_textRun (d : Delimiters) (openingIsAdmissible : Bool) :
    LooksNoFurther 0 (textRun d openingIsAdmissible) :=
  fun _ _ _ hread hsame => TextRun.readOn_eq_of_sameNext hread hsame

/-! ## The choice -/

section Choice

variable {config : ScanConfig} {s : ScanState} {valid : TokenSet}

theorem looksNoFurther_mustachePart? : LooksNoFurther? 0 (mustachePart? config s valid) := by
  unfold mustachePart?
  refine .ite _ (.some (.ite _ looksNoFurther_newOpening (looksNoFurther_const 0 _))) ?_
  refine .ite _ (.some (.ite _ looksNoFurther_newClosing (looksNoFurther_const 0 _))) ?_
  refine .ite _ (.some (looksNoFurther_delimiter _ _)) ?_
  refine .ite _ (.some (looksNoFurther_mustacheComment _)) ?_
  refine .ite _ (.some (looksNoFurther_identifier _)) ?_
  refine .ite _ (.some (looksNoFurther_sectionStart _)) ?_
  refine .ite _ (.some (looksNoFurther_sectionEnd _ _)) ?_
  exact .iteHead (fun next? => (valid.contains .mustacheEndDelimiter &&
    next?.any (beginsClosing s.delimiters)) = true) (.some (looksNoFurther_delimiter _ _))
    (.none 0)

theorem looksNoFurther_openingAtAngle? (d : Delimiters) :
    LooksNoFurther? 1 (openingAtAngle? d valid) := by
  unfold openingAtAngle?
  refine .ite _ ?_ (.none 1)
  split
  · exact .some (looksNoFurther_const 1 _)
  · refine .iteHead (fun next? => next? = _) (.some ?_) (.none 1)
    -- the `<` is read again with the delimiter
    intro behind behind' n hread hsame
    dsimp only at hread
    exact looksNoFurther_delimiter _ _ (by omega) (hsame.cons '<')
  · exact .none 1

theorem atAngle_eq :
    atAngle s valid = fun behind => (openingAtAngle? s.delimiters valid behind).getD
      (if behind.head? = some '!' then comment behind.tail
        else impliedEndIfValid s valid 1 behind) := by
  funext behind
  unfold atAngle
  cases openingAtAngle? s.delimiters valid behind with
  | some reading => rfl
  | none =>
    rw [Option.getD_none]
    dsimp only
    split
    · simp
    · next hother =>
      rw [if_neg]
      intro hmark
      cases behind <;> simp_all

theorem le_reach_comment (ahead : List Char) : 2 ≤ (comment ahead).reach := by
  obtain ⟨n, overflowed, ⟨hcomment, hn⟩ | ⟨hcomment, hn⟩⟩ := comment_cases ahead
  · rw [hcomment]
    exact Nat.le_trans (by decide) (Nat.le_of_lt hn)
  · rw [hcomment, Reading.reach, Reading.decline, Nat.zero_add]
    exact hn

theorem looksNoFurther_atAngle : LooksNoFurther 1 (atAngle s valid) := by
  rw [atAngle_eq]
  exact (looksNoFurther_openingAtAngle? s.delimiters).orElse
    (.iteNext '!' looksNoFurther_comment le_reach_comment
      (looksNoFurther_impliedEndIfValid s valid 1))

theorem le_reach_openingAtAngle? {behind : List Char} {r : Reading}
    (hopening : openingAtAngle? s.delimiters valid behind = some r) : 1 ≤ r.reach := by
  unfold openingAtAngle? at hopening
  split at hopening
  · split at hopening
    · obtain rfl := Option.some.inj hopening
      exact Nat.le_refl 1
    · next second more htext =>
      split at hopening
      · -- the delimiter begins with the `<`, which the comparison has counted
        obtain rfl := Option.some.inj hopening
        rw [reach_delimiter, htext, matchLength, commonLength, if_pos rfl]
        exact le_commonLength 1 _ _
      · cases hopening
    · cases hopening
  · cases hopening

theorem le_reach_atAngle (behind : List Char) : 1 ≤ (atAngle s valid behind).reach := by
  unfold atAngle
  split
  · next hopening => exact le_reach_openingAtAngle? hopening
  · split
    · exact Nat.le_of_succ_le (le_reach_comment _)
    · exact le_reach_impliedEndIfValid ..

/-- Behind the first character, the admissible kinds choose. -/
theorem atOther_eq_of_sameNext {c : Char} {behind behind' : List Char} {n : Nat}
    (hread : (atOther s valid c behind).reach ≤ 0 + n)
    (hsame : SameNext (n + 1) (c :: behind) (c :: behind')) :
    atOther s valid c behind' = atOther s valid c behind := by
  have hdecline : LooksNoFurther 0 fun _ => .decline 0 := looksNoFurther_const 0 _
  rw [atOther] at hread ⊢
  rw [atOther]
  exact LooksNoFurther.ite _ (looksNoFurther_textRun _ _)
    (.ite _ (looksNoFurther_delimiter _ _)
      (.ite _ (.ite _ (looksNoFurther_selfClosing _) hdecline)
        (.ite _ hdecline
          (.ite _ looksNoFurther_startTagName (.ite _ (looksNoFurther_endTagName _) hdecline)))))
    hread hsame

theorem looksNoFurther_atNext : LooksNoFurther 0 (atNext s valid) := by
  intro ahead ahead' n hread hsame
  unfold atNext at hread
  split at hread
  · rw [hsame.eq_nil]
  · next behind =>
    obtain ⟨behind', rfl, hbehind⟩ := hsame.exists_cons
    -- the `<` is among the characters read
    have hangle : (atAngle s valid behind).reach ≤ 0 + n := hread
    have hone : 1 ≤ (atAngle s valid behind).reach := le_reach_atAngle behind
    obtain ⟨m, rfl⟩ : ∃ m, n = m + 1 := ⟨n - 1, by omega⟩
    exact looksNoFurther_atAngle (by omega) hbehind
  · next c behind hangle =>
    obtain ⟨behind', rfl, -⟩ := hsame.exists_cons
    -- another character than `<` is read again with what is behind it
    have hother (rest : List Char) : atNext s valid (c :: rest) = atOther s valid c rest := by
      rw [atNext]
      exact hangle
    rw [hother, hother]
    exact atOther_eq_of_sameNext hread hsame

theorem looksNoFurther_atToken (config : ScanConfig) :
    LooksNoFurther 0 (atToken config s valid) := by
  have htoken : atToken config s valid = fun ahead =>
      (mustachePart? config s valid ahead).getD (atNext s valid ahead) := by
    funext ahead
    rw [atToken]
    cases mustachePart? config s valid ahead <;> rfl
  rw [htoken]
  exact looksNoFurther_mustachePart?.orElse looksNoFurther_atNext

end Choice

/-- **The token ahead depends on what is read.**  Wherever the characters that the reading counts
are ahead, and behind them the same character, if any, the reading is the same. -/
theorem read_eq_of_sameNext {config : ScanConfig} {s : ScanState} {valid : TokenSet}
    {ahead ahead' : List Char} {n : Nat}
    (hread : (read config s valid ahead).skipped + (read config s valid ahead).reach ≤ n)
    (hsame : SameNext (n + 1) ahead ahead') :
    read config s valid ahead' = read config s valid ahead := by
  rw [read] at hread
  rw [read, read]
  split
  · next hraw =>
    rw [if_pos hraw] at hread
    exact looksNoFurther_rawText s.tags (by omega) hsame
  · next hraw =>
    rw [if_neg hraw] at hread
    dsimp only at hread ⊢
    -- the blanks are among the characters read, so the token is looked for behind the same ones
    have hblanks : (ahead.takeWhile isBlank).length ≤ n := Nat.le_trans (Nat.le_add_right ..) hread
    obtain ⟨m, rfl⟩ := Nat.exists_eq_add_of_le hblanks
    rw [hsame.takeWhile hblanks]
    have hbehind : SameNext (m + 1) (ahead.drop (ahead.takeWhile isBlank).length)
        (ahead'.drop (ahead.takeWhile isBlank).length) := SameNext.drop _ hsame
    have hreach : (atToken config s valid
        (ahead.drop (ahead.takeWhile isBlank).length)).reach ≤ 0 + m := by
      rw [Nat.zero_add]
      exact Nat.le_of_add_le_add_left hread
    rw [looksNoFurther_atToken config hreach hbehind]

end Lexing

end TemplateScan
