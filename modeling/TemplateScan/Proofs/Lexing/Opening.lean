import TemplateScan.Lexing.Choice
import TemplateScan.Proofs.Lexing.Findings
import TemplateScan.Proofs.Lexing.MustacheTag
import TemplateScan.Proofs.Lexing.TextRun

/-!
# Where the opening delimiter is found

Where content may begin, the opening delimiter is found in one of two ways: at a `<` before anything
else that begins with it, and elsewhere by the run of text that it would stop.  That run reads both
delimiters at once, so it misses the opening one if the closing one is complete before.

* `OpensFirst`: the delimiters are such that the opening one is found.
* `textRun_append_opening`, `atAngle_of_isPrefix`: the two ways.
* `isPrefix_of_textRun`: a run of text does not come to the opening delimiter in another way.
-/

namespace TemplateScan.Lexing

open Mustache

/-- The opening delimiter is found wherever it is: it begins with `<`, or the closing one is not
complete before it. -/
def OpensFirst (d : Delimiters) : Prop :=
  d.openingText.head? = some '<' ∨ (d.closingText <+: d.openingText → d.closingText = d.openingText)

namespace LiteralSearch

/-- If the literal may have begun at the beginning, it has begun nowhere before. -/
theorem Tracks.liveAt_zero {m : LiteralSearch} {text : List Char} {n : Nat}
    (htracks : m.Tracks text n) (hlive : 0 ∈ m.live) : m.liveAt 0 = true := by
  have hsorted := htracks.sorted
  rw [liveAt, beq_iff_eq]
  cases hpositions : m.live with
  | nil => simp [hpositions] at hlive
  | cons first later =>
    rw [hpositions] at hlive hsorted
    rcases List.mem_cons.mp hlive with rfl | hlater
    · rfl
    · exact absurd ((List.pairwise_cons.mp hsorted).1 0 hlater) (Nat.not_lt_zero _)

/-- An occurrence at the beginning of the text is complete with its last character. -/
theorem Tracks.feed_eq_zero_iff {m : LiteralSearch} {text : List Char} {n : Nat} {c : Char}
    (htracks : m.Tracks text n) (hc : text[n]? = some c) (hliteral : m.literal ≠ []) :
    (m.feed c n).1 = some 0 ↔ m.literal <+: text ∧ m.literal.length = n + 1 := by
  constructor
  · intro hfeed
    have hlast := ((htracks.feed_eq_some_iff hc (List.length_pos_iff.mpr hliteral) 0).mp hfeed).1
    rw [Nat.zero_add] at hlast
    exact ⟨(htracks.isPrefix_of_feed hc hliteral hfeed).2, hlast⟩
  · rintro ⟨hoccurs, hlast⟩
    exact htracks.feed_eq_some_of_isPrefix hc hliteral (by rw [Nat.zero_add, hlast]) hoccurs

end LiteralSearch

namespace TextRun

/-- The run has searched what it has read of the text for both delimiters. -/
structure Searches (d : Delimiters) (text : List Char) (run : TextRun) : Prop where
  opening_literal : run.opening.literal = d.openingText
  closing_literal : run.closing.literal = d.closingText
  opening : run.opening.Tracks text run.read
  closing : run.closing.Tracks text run.read

/-- It has read some of the opening delimiter at the beginning of the text, but not all. -/
structure Within (d : Delimiters) (text : List Char) (run : TextRun) : Prop
    extends run.Searches d text where
  occurs : d.openingText <+: text
  read : run.read < d.openingText.length

theorem settle_opening (run : TextRun) : run.settle.opening = run.opening := by
  rcases run.settle_cases with ⟨hsettle, -⟩ | ⟨hsettle, -⟩
  · rw [hsettle]
  · rw [hsettle]

theorem settle_closing (run : TextRun) : run.settle.closing = run.closing := by
  rcases run.settle_cases with ⟨hsettle, -⟩ | ⟨hsettle, -⟩
  · rw [hsettle]
  · rw [hsettle]

section Searches

variable {d : Delimiters} {text rest : List Char} {run : TextRun} {c : Char}

theorem searches_new (d : Delimiters) (text : List Char) : (TextRun.new d).Searches d text where
  opening_literal := rfl
  closing_literal := rfl
  opening := LiteralSearch.tracks_new _ _
  closing := LiteralSearch.tracks_new _ _

theorem Searches.next (hsearches : run.Searches d text) (hc : text[run.read]? = some c) :
    { (run.revealed c).settle with read := run.read + 1 }.Searches d text where
  opening_literal := by
    show (run.revealed c).settle.opening.literal = _
    rw [settle_opening]
    exact (LiteralSearch.feed_literal _ _ _).trans hsearches.opening_literal
  closing_literal := by
    show (run.revealed c).settle.closing.literal = _
    rw [settle_closing]
    exact (LiteralSearch.feed_literal _ _ _).trans hsearches.closing_literal
  opening := by
    show (run.revealed c).settle.opening.Tracks text (run.read + 1)
    rw [settle_opening]
    exact hsearches.opening.feed hc
  closing := by
    show (run.revealed c).settle.closing.Tracks text (run.read + 1)
    rw [settle_closing]
    exact hsearches.closing.feed hc

theorem Searches.feed_opening_iff (hsearches : run.Searches d text)
    (hc : text[run.read]? = some c) : (run.opening.feed c run.read).1 = some 0 ↔
      d.openingText <+: text ∧ d.openingText.length = run.read + 1 := by
  have hliteral := hsearches.opening_literal
  rw [← hliteral]
  exact hsearches.opening.feed_eq_zero_iff hc (hliteral ▸ d.openingText_ne)

theorem Searches.feed_closing_iff (hsearches : run.Searches d text)
    (hc : text[run.read]? = some c) : (run.closing.feed c run.read).1 = some 0 ↔
      d.closingText <+: text ∧ d.closingText.length = run.read + 1 := by
  have hliteral := hsearches.closing_literal
  rw [← hliteral]
  exact hsearches.closing.feed_eq_zero_iff hc (hliteral ▸ d.closingText_ne)

theorem getElem?_of_drop {n : Nat} (hrest : text.drop n = c :: rest) : text[n]? = some c := by
  rw [← List.head?_drop, hrest]
  rfl

theorem drop_succ_of_drop {n : Nat} (hrest : text.drop n = c :: rest) :
    text.drop (n + 1) = rest := by
  rw [← List.drop_drop, hrest]
  rfl

/-- A run with the closing delimiter or a `<` at its beginning comes to nothing. -/
theorem readOn_of_closing (hopening : (run.opening.feed c run.read).1 ≠ some 0)
    (hstops : (run.closing.feed c run.read).1 = some 0 ∨ run.read = 0 ∧ c = '<') :
    run.readOn true (c :: rest) = .decline run.read := by
  have hopening' : (run.feed c).1 ≠ some 0 := hopening
  have hread : (run.feed c).2.2.read = run.read := rfl
  have hstops' : (run.feed c).2.1 = some 0 ∨ run.read = 0 ∧ c = '<' := hstops
  rw [readOn]
  simp [hopening', hread, hstops']

theorem stop_ne_opening (run : TextRun) : run.stop.finding ≠ .opening := by
  rcases run.stop_cases with ⟨n, hstop⟩ | ⟨n, read, -, hstop⟩
  · rw [hstop]
    exact Finding.noConfusion
  · rw [hstop]
    exact Finding.noConfusion

/-- A run that finds the opening delimiter has read it at the beginning of the text, and has not
read a shorter closing one there. -/
theorem Searches.of_readOn (hsearches : run.Searches d text)
    (hrest : text.drop run.read = rest) (hfinds : (run.readOn true rest).finding = .opening) :
    d.openingText <+: text ∧ (d.closingText <+: text → run.read < d.closingText.length →
      d.openingText.length ≤ d.closingText.length) := by
  -- the run comes to an end at the first character that completes a delimiter
  induction rest generalizing run with
  | nil =>
    rw [readOn] at hfinds
    split at hfinds
    · exact absurd hfinds (stop_ne_opening _)
    · exact absurd hfinds (stop_ne_opening _)
  | cons c rest ih =>
    have hc := getElem?_of_drop hrest
    by_cases hcomplete : (run.opening.feed c run.read).1 = some 0
    · obtain ⟨hoccurs, hlast⟩ := (hsearches.feed_opening_iff hc).mp hcomplete
      exact ⟨hoccurs, fun _ hread => by omega⟩
    · by_cases hstops : (run.closing.feed c run.read).1 = some 0 ∨ run.read = 0 ∧ c = '<'
      · rw [readOn_of_closing hcomplete hstops] at hfinds
        cases hfinds
      · obtain ⟨hshort, hangle⟩ := not_or.mp hstops
        rw [readOn_cons true hcomplete hshort hangle, settle_read] at hfinds
        split at hfinds
        · exact absurd hfinds (stop_ne_opening _)
        · obtain ⟨hoccurs, hle⟩ := ih (hsearches.next hc) (drop_succ_of_drop hrest) hfinds
          refine ⟨hoccurs, fun hbegins hread => hle hbegins (Nat.lt_of_le_of_ne hread ?_)⟩
          exact fun hlast => hshort ((hsearches.feed_closing_iff hc).mpr ⟨hbegins, hlast.symm⟩)

/-- The closing delimiter is not complete before the opening one, as it would be a beginning of
it. -/
theorem Within.feed_closing_ne (hwithin : run.Within d text)
    (hfirst : d.closingText <+: d.openingText → d.closingText = d.openingText)
    (hc : text[run.read]? = some c) (hlast : run.read + 1 ≠ d.openingText.length) :
    (run.closing.feed c run.read).1 ≠ some 0 := by
  intro hfeed
  obtain ⟨hoccurs, hcomplete⟩ := (hwithin.feed_closing_iff hc).mp hfeed
  have hread := hwithin.read
  have hequal := hfirst (List.prefix_of_prefix_length_le hoccurs hwithin.occurs (by omega))
  rw [hequal] at hcomplete
  exact hlast hcomplete.symm

/-- As long as the opening delimiter goes on, the run is not over. -/
theorem Within.not_isOver (hwithin : run.Within d text) (hc : text[run.read]? = some c)
    (hlt : run.read + 1 < d.openingText.length) : (run.revealed c).settle.isOver = false := by
  have htracks := hwithin.opening.feed hc
  have hlive : (run.opening.feed c run.read).2.liveAt 0 = true := by
    apply htracks.liveAt_zero
    apply htracks.mem_of_isPrefix (Nat.succ_pos _)
    · rwa [LiteralSearch.feed_literal, hwithin.opening_literal, Nat.zero_add]
    · rw [LiteralSearch.feed_literal, hwithin.opening_literal]
      exact hwithin.occurs
  have hsettle : (run.revealed c).settle.opening.liveAt 0 = true := by
    rw [settle_opening]
    exact hlive
  rw [isOver, hsettle]
  rfl

theorem Within.next (hwithin : run.Within d text) (hc : text[run.read]? = some c)
    (hlt : run.read + 1 < d.openingText.length) :
    { (run.revealed c).settle with read := run.read + 1 }.Within d text where
  toSearches := hwithin.toSearches.next hc
  occurs := hwithin.occurs
  read := hlt

theorem Within.not_angle (hwithin : run.Within d text) (hangle : d.openingText.head? ≠ some '<')
    (hc : text[run.read]? = some c) : ¬(run.read = 0 ∧ c = '<') := by
  rintro ⟨hzero, rfl⟩
  obtain ⟨later, hlater⟩ := hwithin.occurs
  have hne : d.openingText ≠ [] := List.ne_nil_of_length_pos (Nat.zero_lt_of_lt hwithin.read)
  rw [hzero, ← List.head?_eq_getElem?, ← hlater, List.head?_append_of_ne_nil _ hne] at hc
  exact hangle hc

/-- A run within an opening delimiter reads on to the end of it. -/
theorem Within.readOn_eq (hwithin : run.Within d text)
    (hangle : d.openingText.head? ≠ some '<')
    (hfirst : d.closingText <+: d.openingText → d.closingText = d.openingText)
    (hrest : text.drop run.read = rest) :
    run.readOn true rest = .take .opening d.openingText.length := by
  -- by induction on the characters that are left to read, of which the delimiter has some
  induction rest generalizing run with
  | nil =>
    have hlength := hwithin.occurs.length_le
    have hread := hwithin.read
    rw [List.drop_eq_nil_iff] at hrest
    omega
  | cons c rest ih =>
    have hc := getElem?_of_drop hrest
    by_cases hlast : run.read + 1 = d.openingText.length
    · have hopeningAt : (run.feed c).1 = some 0 :=
        (hwithin.feed_opening_iff hc).mpr ⟨hwithin.occurs, hlast.symm⟩
      have hread : (run.feed c).2.2.read = run.read := rfl
      rw [readOn]
      simp only [hopeningAt, hread, hlast, decide_true, Bool.and_self, if_true]
    · have hlt := Nat.lt_of_le_of_ne hwithin.read hlast
      have hopeningAt : (run.opening.feed c run.read).1 ≠ some 0 := fun hfeed =>
        hlast ((hwithin.feed_opening_iff hc).mp hfeed).2.symm
      rw [readOn_cons true hopeningAt (hwithin.feed_closing_ne hfirst hc hlast)
        (hwithin.not_angle hangle hc),
        hwithin.not_isOver hc hlt, settle_read]
      exact ih (hwithin.next hc hlt) (drop_succ_of_drop hrest)

end Searches

end TextRun

/-- Where no delimiter begins with `<`, a run of text stops at the opening one at once. -/
theorem textRun_append_opening {d : Delimiters} (rest : List Char)
    (hangle : d.openingText.head? ≠ some '<')
    (hfirst : d.closingText <+: d.openingText → d.closingText = d.openingText) :
    textRun d true (d.openingText ++ rest) = .take .opening d.openingText.length := by
  have hnew : (TextRun.new d).Within d (d.openingText ++ rest) :=
    { TextRun.searches_new d _ with
      occurs := List.prefix_append _ _
      read := List.length_pos_iff.mpr d.openingText_ne }
  exact hnew.readOn_eq hangle hfirst rfl

/-- It does not come to the opening delimiter but there, and not at a shorter closing one. -/
theorem isPrefix_of_textRun {d : Delimiters} {ahead : List Char}
    (hfinds : (textRun d true ahead).finding = .opening) :
    d.openingText <+: ahead ∧
      (d.closingText <+: d.openingText → d.closingText = d.openingText) := by
  obtain ⟨hoccurs, hle⟩ := (TextRun.searches_new d ahead).of_readOn rfl hfinds
  refine ⟨hoccurs, fun hbegins => hbegins.eq_of_length_le ?_⟩
  exact hle (hbegins.trans hoccurs) (List.length_pos_iff.mpr d.closingText_ne)

/-- At a `<` the opening delimiter that begins with it is found as a whole. -/
theorem openingAtAngle?_append {d : Delimiters} {valid : TokenSet} {more : List Char}
    (rest : List Char) (hvalid : valid.contains .mustacheStartDelimiter = true)
    (hopening : d.openingText = '<' :: more) :
    openingAtAngle? d valid (more ++ rest) = some (.take .opening d.openingText.length) := by
  rw [openingAtAngle?, if_pos hvalid]
  cases more with
  | nil => simp [hopening]
  | cons second later =>
    have hsecond : (second :: later ++ rest).head? = some second := rfl
    have hwhole := delimiter_append .opening ('<' :: second :: later) rest
    simp only [hopening]
    rw [if_pos hsecond]
    exact congrArg some hwhole

/-- There it is found before anything else that begins with `<`. -/
theorem atAngle_of_isPrefix {s : ScanState} {valid : TokenSet} {behind : List Char}
    (hvalid : valid.contains .mustacheStartDelimiter = true)
    (hoccurs : s.delimiters.openingText <+: '<' :: behind) :
    atAngle s valid behind = .take .opening s.delimiters.openingText.length := by
  obtain ⟨rest, hrest⟩ := hoccurs
  obtain ⟨c, more, hmore⟩ := List.exists_cons_of_ne_nil s.delimiters.openingText_ne
  rw [hmore, List.cons_append] at hrest
  obtain ⟨rfl, rfl⟩ := List.cons.inj hrest
  unfold atAngle
  simp only [openingAtAngle?_append rest hvalid hmore]

end TemplateScan.Lexing
