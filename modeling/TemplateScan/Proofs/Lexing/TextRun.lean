import TemplateScan.Lexing.TextRun
import TemplateScan.Proofs.Lexing.LiteralSearch

/-!
# Where a run of text ends

A run of text never goes past the next `<` or complete delimiter.  It may end before, but only at a
character that a delimiter begins with, so another run can go on from there.

* `clearLength`: the number of characters before the next boundary.
* `Follows`, `Settled`: what a run knows of the boundaries and of its length after some characters.
* `exists_textRun_eq`: where runs end.
-/

namespace TemplateScan.Lexing

open Mustache

/-! ## Boundaries -/

/-- Whether text ends before the characters ahead: at `<` or a complete delimiter. -/
def startsBoundary (d : Delimiters) (ahead : List Char) : Bool :=
  ahead.head? == some '<' || d.openingText.isPrefixOf ahead || d.closingText.isPrefixOf ahead

/-- The number of characters before the next boundary, or before the end of the text. -/
def clearLength (d : Delimiters) : List Char → Nat
  | [] => 0
  | c :: rest => if startsBoundary d (c :: rest) then 0 else clearLength d rest + 1

/-- Whether a boundary may begin with the character. -/
def beginsBoundary (d : Delimiters) (c : Char) : Prop :=
  c = '<' ∨ d.openingText.head? = some c ∨ d.closingText.head? = some c

/-- A run of text may end after `n` characters: it is not empty, does not go past the boundary, and
where it ends before that, a boundary may begin. -/
structure EndsText (d : Delimiters) (text : List Char) (n : Nat) : Prop where
  pos : 0 < n
  le : n ≤ clearLength d text
  begins : n < clearLength d text → ∃ c, text[n]? = some c ∧ beginsBoundary d c

section Boundaries

variable {d : Delimiters} {text : List Char} {n : Nat}

theorem startsBoundary_iff :
    startsBoundary d text = true ↔
      text.head? = some '<' ∨ d.openingText <+: text ∨ d.closingText <+: text := by
  simp [startsBoundary, or_assoc]

/-- A boundary lies behind the first character, if the text does not begin with one. -/
theorem pos_of_startsBoundary (hstart : startsBoundary d text = false)
    (hboundary : startsBoundary d (text.drop n) = true) : 0 < n := by
  apply Nat.pos_of_ne_zero
  rintro rfl
  rw [List.drop_zero, hstart] at hboundary
  cases hboundary

theorem clearLength_le_length (d : Delimiters) (text : List Char) :
    clearLength d text ≤ text.length := by
  induction text with
  | nil => exact Nat.le_refl 0
  | cons c rest ih =>
    rw [clearLength]
    split
    · exact Nat.zero_le _
    · exact Nat.succ_le_succ ih

theorem startsBoundary_of_lt_clearLength (hn : n < clearLength d text) :
    startsBoundary d (text.drop n) = false := by
  induction text generalizing n with
  | nil => cases hn
  | cons c rest ih =>
    rw [clearLength] at hn
    split at hn
    · cases hn
    · next hclear =>
      cases n with
      | zero => simpa using hclear
      | succ n => exact ih (Nat.lt_of_succ_lt_succ hn)

/-- All that is clear lies before the next boundary. -/
theorem le_clearLength (hn : n ≤ text.length)
    (hclear : ∀ i < n, startsBoundary d (text.drop i) = false) : n ≤ clearLength d text := by
  induction text generalizing n with
  | nil => exact hn
  | cons c rest ih =>
    cases n with
    | zero => exact Nat.zero_le _
    | succ n =>
      have hhere := hclear 0 (Nat.succ_pos n)
      rw [List.drop_zero] at hhere
      rw [clearLength, hhere]
      exact Nat.succ_le_succ (ih (Nat.le_of_succ_le_succ hn) fun i hi =>
        hclear (i + 1) (Nat.succ_lt_succ hi))

theorem clearLength_drop (hn : n ≤ clearLength d text) :
    clearLength d (text.drop n) = clearLength d text - n := by
  induction text generalizing n with
  | nil =>
    rw [List.drop_nil]
    exact (Nat.sub_eq_zero_of_le (Nat.zero_le _)).symm
  | cons c rest ih =>
    cases n with
    | zero => rfl
    | succ n =>
      rw [clearLength] at hn ⊢
      split at hn
      · cases hn
      · next hclear =>
        rw [if_neg hclear, List.drop_succ_cons, ih (Nat.le_of_succ_le_succ hn),
          Nat.add_sub_add_right]

/-- A boundary begins with a character that one may begin with. -/
theorem exists_beginsBoundary (hopening : d.openingText ≠ []) (hclosing : d.closingText ≠ [])
    (hstarts : startsBoundary d (text.drop n) = true) :
    ∃ c, text[n]? = some c ∧ beginsBoundary d c := by
  -- either delimiter has a first character, and where it occurs the text has the same one
  have hfirst : ∀ literal : List Char, literal ≠ [] → literal <+: text.drop n →
      ∃ c, text[n]? = some c ∧ literal.head? = some c := by
    rintro literal hliteral ⟨later, hlater⟩
    cases literal with
    | nil => exact absurd rfl hliteral
    | cons c more =>
      refine ⟨c, ?_, rfl⟩
      rw [← List.head?_drop, ← hlater]
      rfl
  rcases startsBoundary_iff.mp hstarts with hangle | hoccurs | hoccurs
  · rw [List.head?_drop] at hangle
    exact ⟨'<', hangle, Or.inl rfl⟩
  · obtain ⟨c, hc, hhead⟩ := hfirst _ hopening hoccurs
    exact ⟨c, hc, Or.inr (Or.inl hhead)⟩
  · obtain ⟨c, hc, hhead⟩ := hfirst _ hclosing hoccurs
    exact ⟨c, hc, Or.inr (Or.inr hhead)⟩

end Boundaries

/-! ## The earliest of two positions -/

theorem eq_some_of_earliest {a b : Option Nat} {n : Nat} (h : earliest a b = some n) :
    a = some n ∨ b = some n := by
  cases a with
  | none => exact Or.inr h
  | some m =>
    cases b with
    | none => exact Or.inl h
    | some k =>
      obtain rfl := Option.some.inj h
      rcases Nat.le_total m k with hle | hle
      · exact Or.inl (congrArg some (Nat.min_eq_left hle).symm)
      · exact Or.inr (congrArg some (Nat.min_eq_right hle).symm)

theorem exists_earliest_le {a b : Option Nat} {n : Nat}
    (h : (∃ m ≤ n, a = some m) ∨ ∃ m ≤ n, b = some m) : ∃ m ≤ n, earliest a b = some m := by
  rcases h with ⟨m, hm, rfl⟩ | ⟨m, hm, rfl⟩
  · cases b with
    | none => exact ⟨m, hm, rfl⟩
    | some k => exact ⟨min m k, Nat.le_trans (Nat.min_le_left m k) hm, rfl⟩
  · cases a with
    | none => exact ⟨m, hm, rfl⟩
    | some k => exact ⟨min k m, Nat.le_trans (Nat.min_le_right k m) hm, rfl⟩

namespace TextRun

/-! ## What a run knows of the boundaries -/

/-- A boundary is known at the position or may turn out to be there. -/
def Pending (run : TextRun) (position : Nat) : Prop :=
  run.boundary = some position ∨
    0 < position ∧ (position ∈ run.opening.live ∨ position ∈ run.closing.live)

/-- The run knows of every occurrence of the literal within the first `n` characters, but for one at
the beginning: its boundary lies there or before. -/
def Finds (run : TextRun) (literal text : List Char) (n : Nat) : Prop :=
  ∀ position, 0 < position → position + literal.length ≤ n → literal <+: text.drop position →
    ∃ b ≤ position, run.boundary = some b

/-- What a run knows of the boundaries after the first `n` characters of the text. -/
structure Follows (d : Delimiters) (text : List Char) (n : Nat) (run : TextRun) : Prop where
  opening_literal : run.opening.literal = d.openingText
  closing_literal : run.closing.literal = d.closingText
  opening : run.opening.Tracks text n
  closing : run.closing.Tracks text n
  boundary : ∀ b, run.boundary = some b → 0 < b ∧ b < n ∧ startsBoundary d (text.drop b) = true
  finds_angle : run.Finds ['<'] text n
  finds_opening : run.Finds d.openingText text n
  finds_closing : run.Finds d.closingText text n

/-- What the length of a run is after the first `n` characters of the text: all but the last of
them, or as much as comes before a character that a boundary may begin with. -/
structure Settled (d : Delimiters) (text : List Char) (n : Nat) (run : TextRun) : Prop where
  le_pending : ∀ position, run.Pending position → run.length ≤ position
  le_clear : run.length ≤ clearLength d text
  le_read : run.length ≤ n - 1
  last : run.length = n - 1 ∨ 0 < run.length ∧ ∃ c, text[run.length]? = some c ∧ beginsBoundary d c

section Pending

variable {d : Delimiters} {text : List Char} {n : Nat} {run : TextRun}

theorem pending_of_eq_some {position : Nat} (h : run.pending = some position) :
    run.Pending position := by
  rcases eq_some_of_earliest h with hknown | hlive
  · exact Or.inl hknown
  · rcases eq_some_of_earliest hlive with hfirst | hfirst
    · obtain ⟨hmem, hpos⟩ := LiteralSearch.mem_of_firstInner? hfirst
      exact Or.inr ⟨hpos, Or.inl hmem⟩
    · obtain ⟨hmem, hpos⟩ := LiteralSearch.mem_of_firstInner? hfirst
      exact Or.inr ⟨hpos, Or.inr hmem⟩

theorem Follows.exists_pending_le (hrun : run.Follows d text n) {position : Nat}
    (h : run.Pending position) : ∃ first ≤ position, run.pending = some first := by
  rcases h with hknown | ⟨hpos, hmem | hmem⟩
  · exact exists_earliest_le (Or.inl ⟨position, Nat.le_refl _, hknown⟩)
  · exact exists_earliest_le
      (Or.inr (exists_earliest_le (Or.inl (hrun.opening.exists_firstInner?_le hmem hpos))))
  · exact exists_earliest_le
      (Or.inr (exists_earliest_le (Or.inr (hrun.closing.exists_firstInner?_le hmem hpos))))

theorem Follows.pending_lt (hrun : run.Follows d text n) {position : Nat}
    (h : run.Pending position) :
    0 < position ∧ position < n := by
  rcases h with hknown | ⟨hpos, hmem | hmem⟩
  · obtain ⟨hpos, hlt, -⟩ := hrun.boundary position hknown
    exact ⟨hpos, hlt⟩
  · exact ⟨hpos, ((hrun.opening.mem_iff position).mp hmem).1⟩
  · exact ⟨hpos, ((hrun.closing.mem_iff position).mp hmem).1⟩

/-- A boundary may begin wherever one is pending. -/
theorem Follows.begins_of_pending (hrun : run.Follows d text n) (hopening : d.openingText ≠ [])
    (hclosing : d.closingText ≠ []) {position : Nat} (h : run.Pending position) :
    ∃ c, text[position]? = some c ∧ beginsBoundary d c := by
  -- a search holds the position only if the text has the first character of its literal there
  have hchar : ∀ literal : List Char, literal ≠ [] → position < n → Agrees literal text position n →
      ∃ c, text[position]? = some c ∧ literal.head? = some c := by
    intro literal hliteral hlt hagrees
    refine ⟨literal.head hliteral, ?_, List.head?_eq_some_head hliteral⟩
    -- the first character of the literal is among those compared, as the position is read
    have hfirst := hagrees 0 (by omega)
    rw [Nat.add_zero, ← List.head?_eq_getElem?, List.head?_eq_some_head hliteral] at hfirst
    exact hfirst.symm
  rcases h with hknown | ⟨-, hmem | hmem⟩
  · exact exists_beginsBoundary hopening hclosing (hrun.boundary position hknown).2.2
  · obtain ⟨hlt, -, hagrees⟩ := (hrun.opening.mem_iff position).mp hmem
    rw [hrun.opening_literal] at hagrees
    obtain ⟨c, hc, hhead⟩ := hchar _ hopening hlt hagrees
    exact ⟨c, hc, Or.inr (Or.inl hhead)⟩
  · obtain ⟨hlt, -, hagrees⟩ := (hrun.closing.mem_iff position).mp hmem
    rw [hrun.closing_literal] at hagrees
    obtain ⟨c, hc, hhead⟩ := hchar _ hclosing hlt hagrees
    exact ⟨c, hc, Or.inr (Or.inr hhead)⟩

/-- No boundary among the characters read is overlooked: it is pending, or one before it is. -/
theorem Follows.exists_pending_of_boundary (hrun : run.Follows d text n) {position : Nat}
    (hpos : 0 < position) (hlt : position < n)
    (hstarts : startsBoundary d (text.drop position) = true) :
    ∃ first ≤ position, run.Pending first := by
  have hknown : (∃ b ≤ position, run.boundary = some b) →
      ∃ first ≤ position, run.Pending first := by
    rintro ⟨b, hb, heq⟩
    exact ⟨b, hb, Or.inl heq⟩
  -- an angle bracket is known at once, and a delimiter once it is complete; until then its search
  -- holds the position
  rcases startsBoundary_iff.mp hstarts with hangle | hoccurs | hoccurs
  · apply hknown
    apply hrun.finds_angle position hpos hlt
    cases hdrop : text.drop position with
    | nil => simp [hdrop] at hangle
    | cons c rest => simp_all
  · by_cases hcomplete : position + d.openingText.length ≤ n
    · exact hknown (hrun.finds_opening position hpos hcomplete hoccurs)
    · rw [← hrun.opening_literal] at hcomplete hoccurs
      have hlive := hrun.opening.mem_of_isPrefix hlt (Nat.lt_of_not_le hcomplete) hoccurs
      exact ⟨position, Nat.le_refl _, Or.inr ⟨hpos, Or.inl hlive⟩⟩
  · by_cases hcomplete : position + d.closingText.length ≤ n
    · exact hknown (hrun.finds_closing position hpos hcomplete hoccurs)
    · rw [← hrun.closing_literal] at hcomplete hoccurs
      have hlive := hrun.closing.mem_of_isPrefix hlt (Nat.lt_of_not_le hcomplete) hoccurs
      exact ⟨position, Nat.le_refl _, Or.inr ⟨hpos, Or.inr hlive⟩⟩

/-- All before the first pending position is clear, if the text does not begin with a boundary. -/
theorem Follows.le_clearLength (hrun : run.Follows d text n) (hn : n ≤ text.length)
    (hstart : startsBoundary d text = false) {m : Nat} (hm : m ≤ n)
    (hpending : ∀ p, run.Pending p → m ≤ p) : m ≤ clearLength d text := by
  apply Lexing.le_clearLength (Nat.le_trans hm hn)
  -- a boundary before `m` would be pending there or further in front, against what is pending
  intro i hi
  by_contra hboundary
  rw [Bool.not_eq_false] at hboundary
  have hpos := pos_of_startsBoundary hstart hboundary
  obtain ⟨first, hfirst, hp⟩ :=
    hrun.exists_pending_of_boundary hpos (Nat.lt_of_lt_of_le hi hm) hboundary
  have hle := hpending first hp
  omega

end Pending

/-! ## One character more -/

theorem follows_new (d : Delimiters) (text : List Char) : (new d).Follows d text 0 where
  opening_literal := rfl
  closing_literal := rfl
  opening := LiteralSearch.tracks_new _ _
  closing := LiteralSearch.tracks_new _ _
  boundary b hb := by cases hb
  finds_angle position hpos hle := by simp at hle
  finds_opening position hpos hle := by omega
  finds_closing position hpos hle := by omega

theorem settled_new (d : Delimiters) (text : List Char) : (new d).Settled d text 0 where
  le_pending _ _ := Nat.zero_le _
  le_clear := Nat.zero_le _
  le_read := Nat.le_refl 0
  last := Or.inl rfl

/-- The run after the character at its reading position, before it moves on. -/
def revealed (run : TextRun) (c : Char) : TextRun :=
  (run.feed c).2.2.reveal c (run.feed c).1 (run.feed c).2.1

section Step

variable {d : Delimiters} {text : List Char} {run : TextRun} {c : Char}

theorem revealed_boundary (run : TextRun) (c : Char) :
    (run.revealed c).boundary =
      earliest (earliest (earliest run.boundary (run.opening.feed c run.read).1)
        (run.closing.feed c run.read).1)
        (if c = '<' then some run.read else none) := rfl

theorem revealed_boundary_cases {b : Nat} (h : (run.revealed c).boundary = some b) :
    run.boundary = some b ∨ (run.opening.feed c run.read).1 = some b ∨
      (run.closing.feed c run.read).1 = some b ∨ c = '<' ∧ b = run.read := by
  rw [revealed_boundary] at h
  rcases eq_some_of_earliest h with h | h
  · rcases eq_some_of_earliest h with h | h
    · rcases eq_some_of_earliest h with h | h
      · exact Or.inl h
      · exact Or.inr (Or.inl h)
    · exact Or.inr (Or.inr (Or.inl h))
  · split at h
    · next hangle => exact Or.inr (Or.inr (Or.inr ⟨hangle, (Option.some.inj h).symm⟩))
    · cases h

theorem Finds.revealed {literal : List Char} (hfinds : run.Finds literal text run.read)
    (hhere : ∀ position, 0 < position → position + literal.length = run.read + 1 →
      literal <+: text.drop position → ∃ b ≤ position, (run.revealed c).boundary = some b) :
    (run.revealed c).Finds literal text (run.read + 1) := by
  intro position hpos hle hoccurs
  rcases Nat.lt_or_eq_of_le hle with hlt | heq
  · -- an occurrence that was complete before stays known: the boundary moves to the front only
    have hknown := hfinds position hpos (Nat.le_of_lt_succ hlt) hoccurs
    exact exists_earliest_le
      (Or.inl (exists_earliest_le (Or.inl (exists_earliest_le (Or.inl hknown)))))
  · exact hhere position hpos heq hoccurs

/-- A run goes on to know of all boundaries. -/
theorem Follows.revealed (hrun : run.Follows d text run.read) (hc : text[run.read]? = some c)
    (hopening : d.openingText ≠ []) (hclosing : d.closingText ≠ [])
    (hstart : startsBoundary d text = false) : (run.revealed c).Follows d text (run.read + 1) where
  opening_literal := (LiteralSearch.feed_literal _ _ _).trans hrun.opening_literal
  closing_literal := (LiteralSearch.feed_literal _ _ _).trans hrun.closing_literal
  opening := hrun.opening.feed hc
  closing := hrun.closing.feed hc
  boundary := by
    intro b hb
    -- whatever is found with this character is a boundary of the text, and not at its beginning
    have hnew : b ≤ run.read → startsBoundary d (text.drop b) = true →
        0 < b ∧ b < run.read + 1 ∧ startsBoundary d (text.drop b) = true := by
      intro hle hstarts
      exact ⟨pos_of_startsBoundary hstart hstarts, Nat.lt_succ_of_le hle, hstarts⟩
    rcases revealed_boundary_cases hb with hknown | hfeed | hfeed | ⟨rfl, rfl⟩
    · obtain ⟨hposition, hlt, hstarts⟩ := hrun.boundary b hknown
      exact ⟨hposition, Nat.lt_succ_of_lt hlt, hstarts⟩
    · obtain ⟨hle, hoccurs⟩ :=
        hrun.opening.isPrefix_of_feed hc (hrun.opening_literal ▸ hopening) hfeed
      rw [hrun.opening_literal] at hoccurs
      exact hnew hle (startsBoundary_iff.mpr (Or.inr (Or.inl hoccurs)))
    · obtain ⟨hle, hoccurs⟩ :=
        hrun.closing.isPrefix_of_feed hc (hrun.closing_literal ▸ hclosing) hfeed
      rw [hrun.closing_literal] at hoccurs
      exact hnew hle (startsBoundary_iff.mpr (Or.inr (Or.inr hoccurs)))
    · apply hnew (Nat.le_refl _)
      apply startsBoundary_iff.mpr
      rw [List.head?_drop]
      exact Or.inl hc
  finds_angle := by
    apply hrun.finds_angle.revealed
    intro position hpos hlast hoccurs
    -- the only occurrence that ends with this character is the character itself
    obtain rfl : position = run.read := Nat.succ.inj hlast
    have hangle : c = '<' := by
      have hhead := (List.prefix_iff_getElem?.mp hoccurs) 0 Nat.zero_lt_one
      rw [List.getElem?_drop, Nat.add_zero, hc] at hhead
      exact Option.some.inj hhead
    rw [revealed_boundary, if_pos hangle]
    exact exists_earliest_le (Or.inr ⟨run.read, Nat.le_refl _, rfl⟩)
  finds_opening := by
    apply hrun.finds_opening.revealed
    intro position hpos hlast hoccurs
    rw [← hrun.opening_literal] at hopening hlast hoccurs
    have hhere : ∃ b ≤ position, (run.opening.feed c run.read).1 = some b :=
      ⟨position, Nat.le_refl _, hrun.opening.feed_eq_some_of_isPrefix hc hopening hlast hoccurs⟩
    exact exists_earliest_le
      (Or.inl (exists_earliest_le (Or.inl (exists_earliest_le (Or.inr hhere)))))
  finds_closing := by
    apply hrun.finds_closing.revealed
    intro position hpos hlast hoccurs
    rw [← hrun.closing_literal] at hclosing hlast hoccurs
    have hhere : ∃ b ≤ position, (run.closing.feed c run.read).1 = some b :=
      ⟨position, Nat.le_refl _, hrun.closing.feed_eq_some_of_isPrefix hc hclosing hlast hoccurs⟩
    exact exists_earliest_le (Or.inl (exists_earliest_le (Or.inr hhere)))

theorem Settled.le_pending_revealed (hsettled : run.Settled d text run.read)
    (hrun : run.Follows d text run.read) (hc : text[run.read]? = some c)
    (hopening : d.openingText ≠ []) (hclosing : d.closingText ≠ [])
    (hstart : startsBoundary d text = false) {position : Nat}
    (h : (run.revealed c).Pending position) : run.length ≤ position := by
  obtain ⟨hpos, hlt⟩ := (hrun.revealed hc hopening hclosing hstart).pending_lt h
  rcases Nat.lt_or_eq_of_le (Nat.le_of_lt_succ hlt) with hbefore | rfl
  · -- what is pending behind the character fed was pending before it
    apply hsettled.le_pending
    have hopeningLive := hrun.opening.mem_of_feed hc
      (List.length_pos_iff.mpr (hrun.opening_literal ▸ hopening)) hbefore
    have hclosingLive := hrun.closing.mem_of_feed hc
      (List.length_pos_iff.mpr (hrun.closing_literal ▸ hclosing)) hbefore
    rcases h with hknown | ⟨-, hmem | hmem⟩
    · rcases revealed_boundary_cases hknown with hold | hfeed | hfeed | ⟨-, rfl⟩
      · exact Or.inl hold
      · exact Or.inr ⟨hpos, Or.inl (hopeningLive (Or.inl hfeed))⟩
      · exact Or.inr ⟨hpos, Or.inr (hclosingLive (Or.inl hfeed))⟩
      · exact absurd hbefore (Nat.lt_irrefl _)
    · exact Or.inr ⟨hpos, Or.inl (hopeningLive (Or.inr hmem))⟩
    · exact Or.inr ⟨hpos, Or.inr (hclosingLive (Or.inr hmem))⟩
  -- what is pending at the character itself is not before the length, as that has been read
  · exact Nat.le_trans hsettled.le_read (Nat.sub_le _ _)

theorem settle_cases (run : TextRun) :
    run.settle = { run with length := run.read } ∧ 0 < run.read ∧
        (∀ first, run.pending = some first → run.read ≤ first) ∨
      run.settle = run ∧ (run.read = 0 ∨ ∃ first < run.read, run.pending = some first) := by
  rw [settle]
  by_cases hread : run.read = 0
  · right
    simp [hread]
  · cases hpending : run.pending with
    | none =>
      left
      simp [hread, Nat.pos_of_ne_zero hread]
    | some first =>
      by_cases hle : run.read ≤ first
      · left
        simp [hread, hle, Nat.pos_of_ne_zero hread]
      · right
        simp [hle, Nat.lt_of_not_le hle]

/-- Settling keeps the length where it has to be. -/
theorem Settled.settle (hrun : run.Follows d text (run.read + 1)) (hread : run.read < text.length)
    (hopening : d.openingText ≠ []) (hclosing : d.closingText ≠ [])
    (hstart : startsBoundary d text = false)
    (hpending : ∀ position, run.Pending position → run.length ≤ position)
    (hclear : run.length ≤ clearLength d text) (hle : run.length ≤ run.read - 1)
    (hlast : run.length = run.read - 1 ∨
      0 < run.length ∧ ∃ c, text[run.length]? = some c ∧ beginsBoundary d c) :
    run.settle.Settled d text (run.read + 1) := by
  rcases run.settle_cases with ⟨hsettle, hpos, hbehind⟩ | ⟨hsettle, hopen⟩
  · -- nothing is pending before the last character read, so all before it is text
    have hall : ∀ position, run.Pending position → run.read ≤ position := by
      intro position h
      obtain ⟨first, hfirst, heq⟩ := hrun.exists_pending_le h
      exact Nat.le_trans (hbehind first heq) hfirst
    rw [hsettle]
    exact
      { le_pending := hall
        le_clear := hrun.le_clearLength hread hstart (Nat.le_succ _) hall
        le_read := Nat.le_refl _
        last := Or.inl rfl }
  · -- the length stays as it was
    rw [hsettle]
    refine ⟨hpending, hclear, Nat.le_trans hle (Nat.sub_le _ _), ?_⟩
    rcases hlast with hall | hbegins
    · rcases hopen with hzero | ⟨first, hfirst, heq⟩
      · left
        omega
      · -- the length is right before the character read, so what is pending can only be there
        right
        have hp := pending_of_eq_some heq
        have hlength : run.length = first := by
          have hbelow := hpending first hp
          omega
        rw [hlength]
        exact ⟨(hrun.pending_lt hp).1, hrun.begins_of_pending hopening hclosing hp⟩
    · exact Or.inr hbegins

end Step

/-! ## Ends of runs -/

section Ends

variable {d : Delimiters} {text : List Char} {run : TextRun} {n : Nat}

theorem clearLength_le_of_boundary {b : Nat} (hb : startsBoundary d (text.drop b) = true) :
    clearLength d text ≤ b := by
  by_contra hlt
  rw [startsBoundary_of_lt_clearLength (Nat.lt_of_not_le hlt)] at hb
  cases hb

/-- A run that is over ends where it may. -/
theorem Settled.endsText_of_isOver (hsettled : run.Settled d text (n + 1))
    (hrun : run.Follows d text (n + 1)) (hover : run.isOver = true) :
    EndsText d text run.length := by
  rcases hsettled.last with hall | ⟨hpos, hbegins⟩
  · -- all but the last character is text, so the boundary known can only be at the last one
    have hpending : ∃ position, run.pending = some position ∧
        (run.boundary = some position ∨ run.length < position) := by
      cases hfirst : run.pending with
      | none => simp [isOver, hfirst] at hover
      | some position =>
        simp only [isOver, hfirst, Bool.and_eq_true, Option.any_some, Bool.or_eq_true, beq_iff_eq,
          decide_eq_true_eq] at hover
        exact ⟨position, rfl, hover.2⟩
    obtain ⟨position, heq, hcases⟩ := hpending
    have hp := pending_of_eq_some heq
    obtain ⟨hposition, hlt⟩ := hrun.pending_lt hp
    have hle := hsettled.le_pending position hp
    have hlength : run.length = position := by omega
    have hknown : run.boundary = some position := by
      rcases hcases with hknown | hless
      · exact hknown
      · omega
    have hclear := clearLength_le_of_boundary (hrun.boundary position hknown).2.2
    rw [hlength]
    exact ⟨hposition, hlength ▸ hsettled.le_clear, fun hless =>
      absurd hless (Nat.not_lt.mpr hclear)⟩
  · exact ⟨hpos, hsettled.le_clear, fun _ => hbegins⟩

/-- Without a boundary at the end of the text, all of it is clear. -/
theorem Follows.clearLength_eq (hrun : run.Follows d text text.length)
    (hstart : startsBoundary d text = false) (hnone : run.boundary = none) :
    clearLength d text = text.length := by
  apply Nat.le_antisymm (clearLength_le_length d text)
  apply Lexing.le_clearLength (Nat.le_refl _)
  intro i hi
  by_contra hboundary
  rw [Bool.not_eq_false] at hboundary
  have hpos := pos_of_startsBoundary hstart hboundary
  -- a complete occurrence would be known
  have hfound : ∀ literal : List Char, run.Finds literal text text.length →
      ¬literal <+: text.drop i := by
    intro literal hfinds hoccurs
    have hlength := (isPrefix_drop_iff.mp hoccurs).2
    obtain ⟨b, -, hb⟩ := hfinds i hpos (by omega) hoccurs
    rw [hnone] at hb
    cases hb
  rcases startsBoundary_iff.mp hboundary with hangle | hoccurs | hoccurs
  · apply hfound ['<'] hrun.finds_angle
    cases hdrop : text.drop i with
    | nil => simp [hdrop] at hangle
    | cons c rest => simp_all
  · exact hfound _ hrun.finds_opening hoccurs
  · exact hfound _ hrun.finds_closing hoccurs

/-- A run that knows of a boundary at the end of the text ends where it may. -/
theorem Settled.endsText_of_boundary (hsettled : run.Settled d text n) (hrun : run.Follows d text n)
    {b : Nat} (hb : run.boundary = some b) : EndsText d text run.length := by
  obtain ⟨hpos, hlt, hstarts⟩ := hrun.boundary b hb
  rcases hsettled.last with hall | ⟨hlength, hbegins⟩
  · -- the boundary is among the characters read, so it can only be at the last of them
    have hclear := clearLength_le_of_boundary hstarts
    refine ⟨by omega, hsettled.le_clear, ?_⟩
    intro hless
    omega
  · exact ⟨hlength, hsettled.le_clear, fun _ => hbegins⟩

theorem stop_eq (hpos : 0 < run.length) : run.stop = .ofLength .text run.length run.read := by
  rw [stop, if_neg (Nat.ne_of_gt hpos)]

end Ends

/-! ## Whole runs -/

section Whole

variable {d : Delimiters} {text rest : List Char} {run : TextRun} {c : Char}

theorem readOn_cons (openingIsAdmissible : Bool)
    (hopening : (run.opening.feed c run.read).1 ≠ some 0)
    (hclosing : (run.closing.feed c run.read).1 ≠ some 0) (hangle : ¬(run.read = 0 ∧ c = '<')) :
    run.readOn openingIsAdmissible (c :: rest) =
      if (run.revealed c).settle.isOver then (run.revealed c).settle.stop
      else { (run.revealed c).settle with read := (run.revealed c).settle.read + 1 }.readOn
        openingIsAdmissible rest := by
  have hopening' : (run.feed c).1 ≠ some 0 := hopening
  have hclosing' : (run.feed c).2.1 ≠ some 0 := hclosing
  have hread : (run.feed c).2.2.read = run.read := rfl
  rw [readOn]
  simp only [hopening', hclosing', hread, hangle, decide_false, Bool.false_and, Bool.or_false,
    Bool.false_eq_true, if_false, decide_eq_true_eq, Bool.or_eq_true, Bool.and_eq_true, or_false]
  rfl

theorem settle_read (run : TextRun) : run.settle.read = run.read := by
  rcases run.settle_cases with ⟨hsettle, -⟩ | ⟨hsettle, -⟩
  · rw [hsettle]
  · rw [hsettle]

theorem Follows.settle {n : Nat} (hrun : run.Follows d text n) : run.settle.Follows d text n := by
  rcases run.settle_cases with ⟨hsettle, -⟩ | ⟨hsettle, -⟩
  · rw [hsettle]
    exact ⟨hrun.1, hrun.2, hrun.3, hrun.4, hrun.5, hrun.6, hrun.7, hrun.8⟩
  · rwa [hsettle]

/-- From wherever it has come to, a run reads on to a place where it may end. -/
theorem exists_readOn_eq (openingIsAdmissible : Bool) (hopening : d.openingText ≠ [])
    (hclosing : d.closingText ≠ []) (hstart : startsBoundary d text = false) (hne : text ≠ [])
    (hrest : text.drop run.read = rest) (hread : run.read ≤ text.length)
    (hrun : run.Follows d text run.read) (hsettled : run.Settled d text run.read) :
    ∃ n read, run.readOn openingIsAdmissible rest = .ofLength .text n read ∧ EndsText d text n := by
  -- by induction on the characters that are left to read; `Follows` and `Settled` are kept by each
  induction rest generalizing run with
  | nil =>
    have hend : run.read = text.length := Nat.le_antisymm hread (List.drop_eq_nil_iff.mp hrest)
    rw [readOn]
    cases hb : run.boundary with
    | none =>
      have hpos : 0 < text.length := List.length_pos_iff.mpr hne
      -- no boundary is known at the end of the text, so all of it is one run
      have hclear := (hend ▸ hrun).clearLength_eq hstart hb
      refine ⟨run.read, run.read, ?_, ?_⟩
      · show TextRun.stop { run with length := run.read } = .ofLength .text run.read run.read
        exact stop_eq (hend ▸ hpos)
      · rw [hend]
        exact ⟨hpos, Nat.le_of_eq hclear.symm, fun hless => absurd hless (by omega)⟩
    | some b =>
      -- a boundary is known in the text: what was settled before the end of it stays
      have hends := hsettled.endsText_of_boundary hrun hb
      exact ⟨run.length, run.read, stop_eq hends.pos, hends⟩
  | cons c rest ih =>
    have hc : text[run.read]? = some c := by
      rw [← List.head?_drop, hrest]
      rfl
    have hlt : run.read < text.length := (List.getElem?_eq_some_iff.mp hc).1
    -- neither delimiter is complete from the beginning of the text on, as that is no boundary
    have hnotZero : ∀ m : LiteralSearch, m.Tracks text run.read → m.literal ≠ [] →
        (m.literal <+: text → startsBoundary d text = true) → (m.feed c run.read).1 ≠ some 0 := by
      intro m htracks hliteral hstarts hfeed
      obtain ⟨-, hoccurs⟩ := htracks.isPrefix_of_feed hc hliteral hfeed
      rw [List.drop_zero] at hoccurs
      rw [hstarts hoccurs] at hstart
      cases hstart
    have hopeningAt := hnotZero run.opening hrun.opening
      (hrun.opening_literal ▸ hopening) fun hoccurs =>
      startsBoundary_iff.mpr (Or.inr (Or.inl (hrun.opening_literal ▸ hoccurs)))
    have hclosingAt := hnotZero run.closing hrun.closing
      (hrun.closing_literal ▸ hclosing) fun hoccurs =>
      startsBoundary_iff.mpr (Or.inr (Or.inr (hrun.closing_literal ▸ hoccurs)))
    -- nor is a `<` at the beginning
    have hangle : ¬(run.read = 0 ∧ c = '<') := by
      rintro ⟨hzero, rfl⟩
      rw [hzero, ← List.head?_eq_getElem?] at hc
      rw [startsBoundary_iff.mpr (Or.inl hc)] at hstart
      cases hstart
    -- so the run takes the character in, and settles
    have hrevealed := hrun.revealed hc hopening hclosing hstart
    have hsettle : (run.revealed c).settle.Settled d text (run.read + 1) :=
      @Settled.settle d text (run.revealed c) hrevealed hlt hopening hclosing hstart
        (fun _ h => hsettled.le_pending_revealed hrun hc hopening hclosing hstart h)
        hsettled.le_clear hsettled.le_read hsettled.last
    rw [readOn_cons openingIsAdmissible hopeningAt hclosingAt hangle]
    split
    · next hover =>
      have hends := hsettle.endsText_of_isOver hrevealed.settle hover
      exact ⟨_, _, stop_eq hends.pos, hends⟩
    · have hposition : (run.revealed c).settle.read = run.read := settle_read _
      have hfollows := hrevealed.settle
      rw [← hposition] at hfollows hsettle
      apply ih
      · show text.drop ((run.revealed c).settle.read + 1) = rest
        rw [hposition, ← List.drop_drop, hrest]
        rfl
      · exact hposition ▸ hlt
      · exact ⟨hfollows.1, hfollows.2, hfollows.3, hfollows.4, hfollows.5, hfollows.6, hfollows.7,
          hfollows.8⟩
      · exact ⟨hsettle.1, hsettle.2, hsettle.3, hsettle.4⟩

end Whole

end TextRun

/-- A run of text ends where it may, unless a boundary is at its beginning. -/
theorem exists_textRun_eq {d : Delimiters} {text : List Char} (openingIsAdmissible : Bool)
    (hopening : d.openingText ≠ []) (hclosing : d.closingText ≠ []) (hne : text ≠ [])
    (hstart : startsBoundary d text = false) :
    ∃ n read, textRun d openingIsAdmissible text = .ofLength .text n read ∧ EndsText d text n :=
  TextRun.exists_readOn_eq openingIsAdmissible hopening hclosing hstart hne rfl (Nat.zero_le _)
    (TextRun.follows_new d text) (TextRun.settled_new d text)

end TemplateScan.Lexing
