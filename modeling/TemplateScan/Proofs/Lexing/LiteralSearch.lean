import Mathlib.Data.List.Basic
import Mathlib.Data.List.Induction
import TemplateScan.Lexing.Literal

/-!
# Searching for a literal

After some characters of a text, a search for a literal holds exactly the positions where the
literal has begun and is neither complete nor diverged.  Each further character completes at most
one occurrence, and the search tells where it begins.

* `Agrees`: the characters of a text from a position on are those of the literal, as far as the text
  has been read.
* `Tracks`: what a search holds after some characters.
* `Tracks.feed`: one character more, `feed_eq_some_iff`: the occurrence that it completes.
* `tracks_feedAll`: all characters of a text.
* `findsNext_feedAll`: each character completes the occurrence that it ends, and what may become
  one is held.
-/

namespace TemplateScan.Lexing

/-! ## Beginnings of a literal -/

section Agrees

variable {literal text : List Char} {start n : Nat} {c : Char}

/-- The characters of the text from `start` on and before `n` are those of the literal. -/
def Agrees (literal text : List Char) (start n : Nat) : Prop :=
  ∀ i, start + i < n → literal[i]? = text[start + i]?

theorem agrees_self : Agrees literal text n n := by
  intro i hi
  omega

theorem agrees_succ_iff (hstart : start ≤ n) (hc : text[n]? = some c) :
    Agrees literal text start (n + 1) ↔
      Agrees literal text start n ∧ literal[n - start]? = some c := by
  constructor
  · intro hagrees
    refine ⟨fun i hi => hagrees i (by omega), ?_⟩
    rw [hagrees (n - start) (by omega), Nat.add_sub_cancel' hstart, hc]
  · rintro ⟨hagrees, hlast⟩ i hi
    by_cases hbefore : start + i < n
    · exact hagrees i hbefore
    · obtain rfl : i = n - start := by omega
      rw [hlast, Nat.add_sub_cancel' hstart, hc]

/-- The text agrees with the whole literal where the literal occurs. -/
theorem isPrefix_drop_iff :
    literal <+: text.drop start ↔
      Agrees literal text start (start + literal.length) ∧
        literal.length ≤ text.length - start := by
  rw [List.prefix_iff_getElem?]
  constructor
  · intro hoccurs
    have hlength : literal.length ≤ text.length - start := by
      have hle := (List.prefix_iff_getElem?.mpr hoccurs).length_le
      rwa [List.length_drop] at hle
    refine ⟨?_, hlength⟩
    intro i hi
    have hin : i < literal.length := by omega
    rw [← List.getElem?_drop, hoccurs i hin, List.getElem?_eq_getElem hin]
  · rintro ⟨hagrees, -⟩ i hi
    rw [List.getElem?_drop, ← hagrees i (by omega), List.getElem?_eq_getElem hi]

/-- The rest of the text agrees with the literal where it is its beginning. -/
theorem agrees_length_iff :
    Agrees literal text start text.length ↔ text.drop start <+: literal := by
  rw [List.prefix_iff_getElem?]
  constructor
  · intro hagrees i hi
    have hread : start + i < text.length := by
      rw [List.length_drop] at hi
      omega
    rw [hagrees i hread, ← List.getElem?_drop, List.getElem?_eq_getElem hi]
  · intro hbegins i hi
    have hin : i < (text.drop start).length := by
      rw [List.length_drop]
      omega
    rw [hbegins i hin, ← List.getElem?_drop, List.getElem?_eq_getElem hin]

/-- A rest of the text that is as long as the literal agrees with it where it is the literal. -/
theorem agrees_length_iff_eq (hlength : start + literal.length = text.length) :
    Agrees literal text start text.length ↔ text.drop start = literal := by
  rw [agrees_length_iff]
  constructor
  · intro hbegins
    apply hbegins.eq_of_length
    rw [List.length_drop]
    omega
  · intro hall
    exact hall ▸ List.prefix_rfl

/-- What has been read does not depend on what follows. -/
theorem agrees_append_iff (hn : n ≤ text.length) (later : List Char) :
    Agrees literal (text ++ later) start n ↔ Agrees literal text start n := by
  have hsame : ∀ i, start + i < n → (text ++ later)[start + i]? = text[start + i]? :=
    fun i hi => List.getElem?_append_left (Nat.lt_of_lt_of_le hi hn)
  constructor
  · intro hagrees i hi
    rw [hagrees i hi, hsame i hi]
  · intro hagrees i hi
    rw [hagrees i hi, hsame i hi]

theorem Agrees.of_isPrefix (hoccurs : literal <+: text.drop start)
    (hn : n ≤ start + literal.length) :
    Agrees literal text start n := by
  intro i hi
  exact (isPrefix_drop_iff.mp hoccurs).1 i (by omega)

end Agrees

/-! ## What a search holds -/

namespace LiteralSearch

/-- The search has read the first `n` characters of the text: it holds, in ascending order, the
positions before `n` from which the text agrees with the literal so far, without having come to its
end. -/
structure Tracks (m : LiteralSearch) (text : List Char) (n : Nat) : Prop where
  sorted : m.live.Pairwise (· < ·)
  mem_iff : ∀ start, start ∈ m.live ↔
    start < n ∧ n < start + m.literal.length ∧ Agrees m.literal text start n

theorem tracks_new (literal text : List Char) : (new literal).Tracks text 0 where
  sorted := List.Pairwise.nil
  mem_iff start := by simp [new]

/-- The positions that still agree after a character more, the complete one among them. -/
def extended (m : LiteralSearch) (c : Char) (n : Nat) : List Nat :=
  let kept := m.live.filter fun start => m.literal[n - start]? == some c
  if m.literal.head? = some c then kept ++ [n] else kept

theorem feed_eq (m : LiteralSearch) (c : Char) (n : Nat) :
    m.feed c n =
      match m.extended c n with
      | start :: later =>
        if n + 1 - start = m.literal.length then (some start, { m with live := later })
        else (none, { m with live := start :: later })
      | [] => (none, { m with live := [] }) := by
  rw [feed, extended]
  split
  · next heq => simp only [heq]
  · next heq => simp only [heq]

@[simp] theorem feed_literal (m : LiteralSearch) (c : Char) (n : Nat) :
    (m.feed c n).2.literal = m.literal := by
  rw [feed_eq]
  split
  · split
    · rfl
    · rfl
  · rfl

section Feed

variable {m : LiteralSearch} {text : List Char} {n : Nat} {c : Char}

theorem Tracks.mem_extended_iff (htracks : m.Tracks text n) (hc : text[n]? = some c) (start : Nat) :
    start ∈ m.extended c n ↔
      start < n + 1 ∧ n + 1 ≤ start + m.literal.length ∧ Agrees m.literal text start (n + 1) := by
  -- a position held before goes on if the character is the next one of the literal, and a new one
  -- is held if it is the first
  have hkept : start ∈ m.live.filter (fun start => m.literal[n - start]? == some c) ↔
      start < n ∧ n + 1 ≤ start + m.literal.length ∧ Agrees m.literal text start (n + 1) := by
    rw [List.mem_filter, htracks.mem_iff, beq_iff_eq]
    constructor
    · rintro ⟨⟨hstart, hlength, hagrees⟩, hlast⟩
      exact ⟨hstart, hlength, (agrees_succ_iff (Nat.le_of_lt hstart) hc).mpr ⟨hagrees, hlast⟩⟩
    · rintro ⟨hstart, hlength, hagrees⟩
      obtain ⟨hbefore, hlast⟩ := (agrees_succ_iff (Nat.le_of_lt hstart) hc).mp hagrees
      exact ⟨⟨hstart, hlength, hbefore⟩, hlast⟩
  have hhere : m.literal.head? = some c ↔
      n + 1 ≤ n + m.literal.length ∧ Agrees m.literal text n (n + 1) := by
    rw [agrees_succ_iff (Nat.le_refl n) hc, Nat.sub_self, ← List.head?_eq_getElem?]
    constructor
    · intro hhead
      refine ⟨?_, agrees_self, hhead⟩
      have hpos : 0 < m.literal.length := List.length_pos_of_mem (List.mem_of_mem_head? hhead)
      omega
    · rintro ⟨-, -, hhead⟩
      exact hhead
  rw [extended]
  split
  · next hhead =>
    rw [List.mem_append, hkept, List.mem_singleton]
    constructor
    · rintro (⟨hstart, hrest⟩ | rfl)
      · exact ⟨by omega, hrest⟩
      · exact ⟨by omega, hhere.mp hhead⟩
    · rintro ⟨hstart, hrest⟩
      rcases Nat.lt_or_eq_of_le (Nat.le_of_lt_succ hstart) with hbefore | rfl
      · exact Or.inl ⟨hbefore, hrest⟩
      · exact Or.inr rfl
  · next hhead =>
    rw [hkept]
    constructor
    · rintro ⟨hstart, hrest⟩
      exact ⟨by omega, hrest⟩
    · rintro ⟨hstart, hrest⟩
      rcases Nat.lt_or_eq_of_le (Nat.le_of_lt_succ hstart) with hbefore | rfl
      · exact ⟨hbefore, hrest⟩
      · exact absurd (hhere.mpr hrest) hhead

theorem Tracks.sorted_extended (htracks : m.Tracks text n) : (m.extended c n).Pairwise (· < ·) := by
  have hkept := htracks.sorted.filter fun start => m.literal[n - start]? == some c
  rw [extended]
  split
  · refine List.pairwise_append.mpr ⟨hkept, List.pairwise_singleton _ _, ?_⟩
    intro start hstart last hlast
    rw [List.mem_singleton.mp hlast]
    exact ((htracks.mem_iff start).mp (List.mem_filter.mp hstart).1).1
  · exact hkept

/-- A search goes on to hold the positions where the literal has begun. -/
theorem Tracks.feed (htracks : m.Tracks text n) (hc : text[n]? = some c) :
    (m.feed c n).2.Tracks text (n + 1) := by
  have hmem := htracks.mem_extended_iff hc
  have hsorted := htracks.sorted_extended (c := c)
  rw [feed_eq]
  cases hext : m.extended c n with
  | nil =>
    refine ⟨List.Pairwise.nil, ?_⟩
    intro start
    constructor
    · intro hstart
      cases hstart
    · rintro ⟨hstart, hlength, hagrees⟩
      have hstill := (hmem start).mpr ⟨hstart, Nat.le_of_lt hlength, hagrees⟩
      rwa [hext] at hstill
  | cons first later =>
    rw [hext] at hmem hsorted
    obtain ⟨hfirst, hlater⟩ := List.pairwise_cons.mp hsorted
    obtain ⟨hbefore, hlong, -⟩ := (hmem first).mp (List.mem_cons_self ..)
    dsimp only
    split
    · next hcomplete =>
      -- the position taken out is the only complete one, as all others lie behind it
      refine ⟨hlater, ?_⟩
      intro start
      constructor
      · intro hstart
        obtain ⟨hle, hlength, hagrees⟩ := (hmem start).mp (List.mem_cons_of_mem _ hstart)
        have hless := hfirst start hstart
        exact ⟨hle, by dsimp only; omega, hagrees⟩
      · rintro ⟨hle, hlength, hagrees⟩
        dsimp only at hlength
        rcases List.mem_cons.mp ((hmem start).mpr
          ⟨hle, Nat.le_of_lt hlength, hagrees⟩) with rfl | hstart
        · omega
        · exact hstart
    · -- if not even the first position is complete, no later one is
      next hcomplete =>
      refine ⟨hsorted, ?_⟩
      intro start
      constructor
      · intro hstart
        obtain ⟨hle, hlength, hagrees⟩ := (hmem start).mp hstart
        -- the first position comes to its end before all others
        have hfirstLe : first ≤ start := by
          rcases List.mem_cons.mp hstart with rfl | hmemLater
          · exact Nat.le_refl _
          · exact Nat.le_of_lt (hfirst start hmemLater)
        exact ⟨hle, by dsimp only; omega, hagrees⟩
      · rintro ⟨hle, hlength, hagrees⟩
        exact (hmem start).mpr ⟨hle, Nat.le_of_lt hlength, hagrees⟩

/-- A character completes the occurrence that begins where it has to, if the text agrees with the
literal from there on. -/
theorem Tracks.feed_eq_some_iff (htracks : m.Tracks text n) (hc : text[n]? = some c)
    (hpos : 0 < m.literal.length) (start : Nat) :
    (m.feed c n).1 = some start ↔
      start + m.literal.length = n + 1 ∧ Agrees m.literal text start (n + 1) := by
  have hmem := htracks.mem_extended_iff hc
  have hsorted := htracks.sorted_extended (c := c)
  rw [feed_eq]
  cases hext : m.extended c n with
  | nil =>
    rw [hext] at hmem
    constructor
    · intro hfeed
      cases hfeed
    · rintro ⟨hlength, hagrees⟩
      cases (hmem start).mpr ⟨by omega, by omega, hagrees⟩
  | cons first later =>
    rw [hext] at hmem hsorted
    obtain ⟨hfirst, -⟩ := List.pairwise_cons.mp hsorted
    obtain ⟨hbefore, hlong, hagreesFirst⟩ := (hmem first).mp (List.mem_cons_self ..)
    dsimp only
    split
    · next hcomplete =>
      constructor
      · intro hfeed
        obtain rfl := Option.some.inj hfeed
        exact ⟨by omega, hagreesFirst⟩
      · rintro ⟨hlength, hagrees⟩
        exact congrArg some (by omega)
    · next hcomplete =>
      constructor
      · intro hfeed
        cases hfeed
      · rintro ⟨hlength, hagrees⟩
        -- a complete position is the least of those that agree, so it would be the first
        rcases List.mem_cons.mp ((hmem start).mpr ⟨by omega, by omega, hagrees⟩) with rfl | hstart
        · omega
        · have hless := hfirst start hstart
          omega

/-- A character that ends an occurrence completes it. -/
theorem Tracks.feed_eq_some_of_isPrefix (htracks : m.Tracks text n) (hc : text[n]? = some c)
    (hliteral : m.literal ≠ []) {start : Nat} (hlast : start + m.literal.length = n + 1)
    (hoccurs : m.literal <+: text.drop start) : (m.feed c n).1 = some start := by
  rw [htracks.feed_eq_some_iff hc (List.length_pos_iff.mpr hliteral)]
  exact ⟨hlast, Agrees.of_isPrefix hoccurs (Nat.le_of_eq hlast.symm)⟩

/-- Where a character completes the literal, the literal occurs. -/
theorem Tracks.isPrefix_of_feed (htracks : m.Tracks text n) (hc : text[n]? = some c)
    (hliteral : m.literal ≠ []) {start : Nat} (hfeed : (m.feed c n).1 = some start) :
    start ≤ n ∧ m.literal <+: text.drop start := by
  have hlength : 0 < m.literal.length := List.length_pos_iff.mpr hliteral
  obtain ⟨hcomplete, hagrees⟩ := (htracks.feed_eq_some_iff hc hlength start).mp hfeed
  have hread : n < text.length := (List.getElem?_eq_some_iff.mp hc).1
  refine ⟨by omega, ?_⟩
  rw [isPrefix_drop_iff, hcomplete]
  exact ⟨hagrees, by omega⟩

/-- An occurrence of which some characters are read, but not all, is held. -/
theorem Tracks.mem_of_isPrefix (htracks : m.Tracks text n) {start : Nat} (hstart : start < n)
    (hopen : n < start + m.literal.length) (hoccurs : m.literal <+: text.drop start) :
    start ∈ m.live := by
  rw [htracks.mem_iff]
  exact ⟨hstart, hopen, Agrees.of_isPrefix hoccurs (Nat.le_of_lt hopen)⟩

/-- A position before the character was held before it, if it is held or complete after it. -/
theorem Tracks.mem_of_feed (htracks : m.Tracks text n) (hc : text[n]? = some c)
    (hpos : 0 < m.literal.length) {start : Nat} (hstart : start < n)
    (h : (m.feed c n).1 = some start ∨ start ∈ (m.feed c n).2.live) : start ∈ m.live := by
  -- either way the text agrees up to the character, and with it up to the one before
  have hstill : n < start + m.literal.length ∧ Agrees m.literal text start (n + 1) := by
    rcases h with hfeed | hmem
    · obtain ⟨hlength, hagrees⟩ := (htracks.feed_eq_some_iff hc hpos start).mp hfeed
      exact ⟨by omega, hagrees⟩
    · obtain ⟨-, hlength, hagrees⟩ := ((htracks.feed hc).mem_iff start).mp hmem
      rw [feed_literal] at hlength hagrees
      exact ⟨by omega, hagrees⟩
  rw [htracks.mem_iff]
  exact ⟨hstart, hstill.1, fun i hi => hstill.2 i (Nat.lt_succ_of_lt hi)⟩

end Feed

/-! ## Inner positions -/

theorem mem_of_firstInner? {m : LiteralSearch} {position : Nat}
    (hfirst : m.firstInner? = some position) : position ∈ m.live ∧ 0 < position :=
  ⟨List.mem_of_find?_eq_some hfirst, by simpa using List.find?_some hfirst⟩

/-- No inner position lies before the first one. -/
theorem Tracks.exists_firstInner?_le {m : LiteralSearch} {text : List Char} {n start : Nat}
    (htracks : m.Tracks text n) (hlive : start ∈ m.live) (hpos : 0 < start) :
    ∃ position ≤ start, m.firstInner? = some position := by
  have hsorted := htracks.sorted
  rw [firstInner?]
  -- the positions held are ascending, so the first one that is not 0 is the least of these
  generalize m.live = live at hlive hsorted
  induction live with
  | nil => cases hlive
  | cons first later ih =>
    obtain ⟨hfirst, hlater⟩ := List.pairwise_cons.mp hsorted
    rw [List.find?_cons]
    split
    · refine ⟨first, ?_, rfl⟩
      rcases List.mem_cons.mp hlive with rfl | hmemLater
      · exact Nat.le_refl _
      · exact Nat.le_of_lt (hfirst start hmemLater)
    · -- the first position is 0, so the one held is among the later ones
      next hzero =>
      refine ih ?_ hlater
      rcases List.mem_cons.mp hlive with rfl | hmemLater
      · simp [hpos] at hzero
      · exact hmemLater

/-! ## Searching a text -/

/-- The search after the characters of a text, each of them fed at its position. -/
def feedAll (m : LiteralSearch) (text : List Char) : LiteralSearch :=
  text.zipIdx.foldl (fun m entry => (m.feed entry.1 entry.2).2) m

/-- An occurrence of the literal may have begun at the position: what is read from there on is a
beginning of the literal, but not all of it. -/
def IsOpen (literal read : List Char) (start : Nat) : Prop :=
  start < read.length ∧ read.drop start <+: literal ∧ read.drop start ≠ literal

instance (literal read : List Char) (start : Nat) : Decidable (IsOpen literal read start) :=
  inferInstanceAs (Decidable (_ ∧ _ ∧ _))

section FeedAll

variable (literal text : List Char)

theorem feedAll_append_singleton (m : LiteralSearch) (c : Char) :
    m.feedAll (text ++ [c]) = ((m.feedAll text).feed c text.length).2 := by
  simp [feedAll, List.zipIdx_append]

@[simp] theorem feedAll_literal (m : LiteralSearch) : (m.feedAll text).literal = m.literal := by
  induction text using List.reverseRecOn with
  | nil => rfl
  | append_singleton before c ih => rw [feedAll_append_singleton, feed_literal, ih]

variable {text} in
theorem Tracks.append {m : LiteralSearch} {n : Nat} (htracks : m.Tracks text n)
    (hn : n ≤ text.length) (later : List Char) : m.Tracks (text ++ later) n where
  sorted := htracks.sorted
  mem_iff start := by rw [htracks.mem_iff, agrees_append_iff hn]

/-- Searching a text from its beginning keeps track of all of it. -/
theorem tracks_feedAll : ((new literal).feedAll text).Tracks text text.length := by
  induction text using List.reverseRecOn with
  | nil => exact tracks_new literal []
  | append_singleton before c ih =>
    have hc : (before ++ [c])[before.length]? = some c := List.getElem?_concat_length
    rw [feedAll_append_singleton, List.length_append]
    exact (ih.append (Nat.le_refl _) [c]).feed hc

variable {text} in
/-- What a search holds at the end of what has been read. -/
theorem Tracks.mem_iff_isOpen {m : LiteralSearch} (htracks : m.Tracks text text.length)
    (start : Nat) : start ∈ m.live ↔ IsOpen m.literal text start := by
  rw [htracks.mem_iff, agrees_length_iff, IsOpen]
  constructor
  · rintro ⟨hstart, hlength, hbegins⟩
    refine ⟨hstart, hbegins, fun hall => ?_⟩
    have hsame := congrArg List.length hall
    rw [List.length_drop] at hsame
    omega
  · rintro ⟨hstart, hbegins, hnot⟩
    have hless : (text.drop start).length < m.literal.length :=
      Nat.lt_of_le_of_ne hbegins.length_le fun hsame => hnot (hbegins.eq_of_length hsame)
    rw [List.length_drop] at hless
    exact ⟨hstart, by omega, hbegins⟩

/-- The search finds every occurrence with the next character, behind those read before.  No
position that it holds lies behind the character, so the distance from it is never negative; the
character completes the occurrence that it ends, if there is one, and no other; and then the
positions where an occurrence may have begun are held, in ascending order. -/
structure FindsNext (before : List Char) (c : Char) (m : LiteralSearch) : Prop where
  le_length : ∀ start ∈ m.live, start ≤ before.length
  found_iff : ∀ start, (m.feed c before.length).1 = some start ↔
    start + literal.length = before.length + 1 ∧ (before ++ [c]).drop start = literal
  sorted : (m.feed c before.length).2.live.Pairwise (· < ·)
  mem_iff : ∀ start, start ∈ (m.feed c before.length).2.live ↔
    IsOpen literal (before ++ [c]) start

variable {literal} in
/-- **A search finds every occurrence.**  Whatever literal that is not empty is looked for, and
whatever has been read from the beginning on, the search finds every occurrence with the next
character. -/
theorem findsNext_feedAll (hliteral : literal ≠ []) (before : List Char) (c : Char) :
    FindsNext literal before c ((new literal).feedAll before) := by
  have hm : ((new literal).feedAll before).literal = literal := feedAll_literal before (new literal)
  have hpos : 0 < ((new literal).feedAll before).literal.length := by
    rw [hm]
    exact List.length_pos_iff.mpr hliteral
  have hbefore : ((new literal).feedAll before).Tracks (before ++ [c]) before.length :=
    (tracks_feedAll literal before).append (Nat.le_refl _) [c]
  have hc : (before ++ [c])[before.length]? = some c := List.getElem?_concat_length
  have hread : (before ++ [c]).length = before.length + 1 := List.length_append
  have hfed := hbefore.feed hc
  refine ⟨?_, ?_, hfed.sorted, ?_⟩
  · intro start hstart
    exact Nat.le_of_lt ((hbefore.mem_iff start).mp hstart).1
  · intro start
    rw [hbefore.feed_eq_some_iff hc hpos, hm, ← hread]
    exact and_congr_right agrees_length_iff_eq
  · intro start
    rw [← hread] at hfed
    rw [hfed.mem_iff_isOpen, feed_literal, hm]

end FeedAll

/-- A character ends an occurrence, and another one may have begun inside it. -/
theorem findsNext_feedAll_abab :
    "abab".toList ≠ [] ∧
      FindsNext "abab".toList "aba".toList 'b' ((new "abab".toList).feedAll "aba".toList) ∧
      (((new "abab".toList).feedAll "aba".toList).feed 'b' 3).1 = some 0 ∧
      2 ∈ (((new "abab".toList).feedAll "aba".toList).feed 'b' 3).2.live := by
  have hliteral : "abab".toList ≠ [] := by decide
  have hfinds := findsNext_feedAll hliteral "aba".toList 'b'
  exact ⟨hliteral, hfinds, (hfinds.found_iff 0).mpr (by decide), (hfinds.mem_iff 2).mpr (by decide)⟩

end LiteralSearch

end TemplateScan.Lexing
