import TemplateScan.Proofs.Document.ContentScan

/-!
# Text is covered by its tokens

A stretch of text may be found in more than one token, as runs may end early.  Scanned again and
again, it is covered by the tokens without gaps and overlaps, up to the next boundary and not
beyond.

* `Scans`: scanning repeatedly up to a position; `Scans.unique`: it has one outcome.
* `Tiles`: stretches without gaps and overlaps.
* `exists_scans_tiling`: the tokens of a text tile it.
-/

namespace TemplateScan

open Text Mustache Lexing

/-- Scanning from a place, and again from the end of each token while that is before `stop`, finds
the tokens in turn and comes to the last place. -/
inductive Scans (valid : TokenSet) (stop : Nat) : Scanner → Place → List Token → Place → Prop where
  | done {s : Scanner} {p : Place} (hreached : stop ≤ p.offset) : Scans valid stop s p [] p
  | found {s : Scanner} {p last : Place} {t : Token} {later : List Token}
    (hbefore : p.offset < stop) (htoken : (s.scan valid p).token? = some t)
    (hlater : Scans valid stop (s.scan valid p).after (s.scan valid p).cursor.last later last) :
    Scans valid stop s p (t :: later) last

/-- The stretches are not empty and cover all from one offset to another, each beginning where the
one before it ends. -/
def Tiles : Nat → List Span → Nat → Prop
  | first, [], last => first = last
  | first, span :: later, last =>
    span.start = first ∧ span.start < span.stop ∧ Tiles span.stop later last

/-- Scanning repeatedly has one outcome. -/
theorem Scans.unique {valid : TokenSet} {stop : Nat} {s : Scanner} {p last last' : Place}
    {tokens tokens' : List Token} (h : Scans valid stop s p tokens last)
    (h' : Scans valid stop s p tokens' last') : tokens' = tokens ∧ last' = last := by
  induction h generalizing tokens' last' with
  | done hreached =>
    cases h' with
    | done => exact ⟨rfl, rfl⟩
    | found hbefore => exact absurd hbefore (Nat.not_lt.mpr hreached)
  | found hbefore htoken _ ih =>
    cases h' with
    | done hreached => exact absurd hbefore (Nat.not_lt.mpr hreached)
    | found _ htoken' hlater' =>
      rw [htoken] at htoken'
      obtain rfl := Option.some.inj htoken'
      obtain ⟨rfl, rfl⟩ := ih hlater'
      exact ⟨rfl, rfl⟩

/-- A delimiter that can be recognised: it is not empty and has no blanks. -/
def IsSolid (literal : List Char) : Prop :=
  literal ≠ [] ∧ ∀ c ∈ literal, isBlank c = false

instance (literal : List Char) : Decidable (IsSolid literal) :=
  have := List.decidableBAll (isBlank · = false) literal
  inferInstanceAs (Decidable (_ ∧ _))

/-! ## Repeated scans -/

/-- One scan for content where text is ahead: it finds a token of text, and goes behind it. -/
theorem exists_scan_text (s : Scanner) (inElement : Bool) {p : Place}
    (hopening : s.state.delimiters.openingText ≠ [])
    (hclosing : s.state.delimiters.closingText ≠ []) (hne : p.ahead ≠ [])
    (hblank : p.ahead.head?.all (!isBlank ·) = true)
    (hstart : startsBoundary s.state.delimiters p.ahead = false) :
    ∃ n, EndsText s.state.delimiters p.ahead n ∧
      (s.scan (Document.Run.contentTokens inElement) p).token? =
        some ⟨.mustacheText, ⟨p.offset, (p.advance n).offset⟩⟩ ∧
      (s.scan (Document.Run.contentTokens inElement) p).cursor.last = p.advance n ∧
      (s.scan (Document.Run.contentTokens inElement) p).after.state = s.state := by
  obtain ⟨n, hread, hends⟩ :=
    Document.Run.exists_read_text inElement s.config s.state hopening hclosing hne hblank hstart
  have hfinds : (s.scan (Document.Run.contentTokens inElement) p).reading.Finds .text n := hread
  refine ⟨n, hends, ?_, Scan.last_of_finds hfinds, Scan.state_of_finds hfinds⟩
  rw [Scan.token?, Scan.kind?_of_finds hfinds, Scan.span_of_finds hfinds]
  rfl

/-- Where text goes on behind a run, it goes on as the run began: with no blank and no boundary. -/
theorem next_of_endsText {d : Delimiters} {p : Place} {n : Nat} (hopening : IsSolid d.openingText)
    (hclosing : IsSolid d.closingText) (hends : EndsText d p.ahead n)
    (hless : n < clearLength d p.ahead) :
    (p.advance n).next?.any (!isBlank ·) = true ∧ startsBoundary d (p.advance n).ahead = false := by
  have hahead : (p.advance n).ahead = p.ahead.drop n := p.advance_ahead n
  have hstart : startsBoundary d (p.advance n).ahead = false := by
    rw [hahead]
    exact startsBoundary_of_lt_clearLength hless
  obtain ⟨c, hc, hbegins⟩ := hends.begins hless
  rw [← List.head?_drop, ← hahead] at hc
  refine ⟨?_, hstart⟩
  rw [Place.next?, hc]
  -- a run ends early only where a boundary might begin; of those characters, none is blank
  rcases hbegins with rfl | hfirst | hfirst
  · rw [startsBoundary_iff.mpr (Or.inl hc)] at hstart
    cases hstart
  · simp [hopening.2 c (List.mem_of_mem_head? hfirst)]
  · simp [hclosing.2 c (List.mem_of_mem_head? hfirst)]

/-- Behind a run the boundary is where it was before, and nearer. -/
theorem clearLength_behind {d : Delimiters} {p : Place} {n : Nat} (hends : EndsText d p.ahead n) :
    (p.advance n).advance (clearLength d (p.advance n).ahead) =
        p.advance (clearLength d p.ahead) ∧
      clearLength d (p.advance n).ahead < clearLength d p.ahead := by
  have hrest : clearLength d (p.advance n).ahead = clearLength d p.ahead - n := by
    rw [p.advance_ahead n, clearLength_drop hends.le]
  rw [hrest]
  constructor
  · rw [← Place.advance_add, Nat.add_sub_cancel' hends.le]
  · exact Nat.sub_lt (Nat.lt_of_lt_of_le hends.pos hends.le) hends.pos

/-- **Tokens of text tile it.**  With delimiters that are not empty and have no blanks, let a
character be ahead that is not blank and at which neither a `<` nor a complete delimiter
stands.  Scanning for content from there up to the next `<` or complete delimiter, or to the end of
the text, finds tokens of text only; they are not empty, cover all up to that boundary without gaps
and overlaps, and come to a stop right there. -/
theorem exists_scans_tiling (s : Scanner) (inElement : Bool) (p : Place)
    (hopening : IsSolid s.state.delimiters.openingText)
    (hclosing : IsSolid s.state.delimiters.closingText) (hblank : p.next?.any (!isBlank ·) = true)
    (hstart : startsBoundary s.state.delimiters p.ahead = false) :
    ∃ tokens : List Token,
      Scans (Document.Run.contentTokens inElement)
        (p.advance (clearLength s.state.delimiters p.ahead)).offset s p
        tokens (p.advance (clearLength s.state.delimiters p.ahead)) ∧
      (∀ t ∈ tokens, t.kind = .mustacheText) ∧
      Tiles p.offset (tokens.map Token.span)
        (p.advance (clearLength s.state.delimiters p.ahead)).offset := by
  -- by induction on how far ahead the boundary is, as each run gets nearer to it
  induction hclear : clearLength s.state.delimiters p.ahead
    using Nat.strongRecOn generalizing s p with
  | _ m ih =>
    subst hclear
    have hne : p.ahead ≠ [] := by
      intro hnil
      simp [Place.next?, hnil] at hblank
    have hsolid : p.ahead.head?.all (!isBlank ·) = true := by
      cases hahead : p.ahead with
      | nil => rfl
      | cons c rest => simpa [Place.next?, hahead] using hblank
    obtain ⟨n, hends, htoken, hlast, hstate⟩ :=
      exists_scan_text s inElement hopening.1 hclosing.1 hne hsolid hstart
    have hfound := p.offset_lt_advance hends.pos hne
    rcases Nat.lt_or_eq_of_le hends.le with hless | heq
    · -- the run has ended early, where a delimiter seemed to begin: the next scan goes on there
      obtain ⟨hnext, hrestart⟩ := next_of_endsText hopening hclosing hends hless
      obtain ⟨hsame, hnearer⟩ := clearLength_behind hends
      have hbefore : (p.advance n).offset <
          (p.advance (clearLength s.state.delimiters p.ahead)).offset := by
        rw [← hsame]
        apply Place.offset_lt_advance
        · rw [p.advance_ahead n, clearLength_drop hends.le]
          exact Nat.sub_pos_of_lt hless
        · intro hnil
          simp [Place.next?, hnil] at hnext
      -- the scanner has kept its state, so the next scan is again one for text
      obtain ⟨tokens, hscans, hkinds, htiles⟩ := ih _ hnearer
        (s.scan (Document.Run.contentTokens inElement) p).after (p.advance n)
        (hstate ▸ hopening) (hstate ▸ hclosing) hnext (hstate ▸ hrestart) (by rw [hstate])
      rw [hsame] at hscans htiles
      refine ⟨⟨.mustacheText, ⟨p.offset, (p.advance n).offset⟩⟩ :: tokens, ?_, ?_, ?_⟩
      · apply Scans.found (Nat.lt_trans hfound hbefore) htoken
        rw [hlast]
        exact hscans
      · intro t ht
        rcases List.mem_cons.mp ht with rfl | hlater
        · rfl
        · exact hkinds t hlater
      · exact ⟨rfl, hfound, htiles⟩
    · -- the run has come to the boundary
      rw [← heq]
      refine ⟨[_], .found hfound htoken ?_, ?_, ?_⟩
      · rw [hlast]
        exact .done (Nat.le_refl _)
      · simp
      · exact ⟨rfl, hfound, rfl⟩

/-- A scanner whose opening delimiter may seem to begin where it does not. -/
def repetitive : Scanner where
  state := { delimiters := { opening := .ofText "aab" } }

/-- The text before the delimiter in `xaaab` takes two scans, as three letters seem to begin it. -/
theorem exists_scans_tiling_repetitive :
    (IsSolid repetitive.state.delimiters.openingText ∧
      IsSolid repetitive.state.delimiters.closingText ∧
      (Place.start "xaaab".toList).next?.any (!isBlank ·) = true ∧
      startsBoundary repetitive.state.delimiters "xaaab".toList = false) ∧
    ∃ tokens : List Token,
      Scans (Document.Run.contentTokens false) 2 repetitive (.start "xaaab".toList) tokens
        ⟨2, "aab".toList⟩ ∧
      (∀ t ∈ tokens, t.kind = .mustacheText) ∧ Tiles 0 (tokens.map Token.span) 2 := by
  have hopening : IsSolid repetitive.state.delimiters.openingText := by decide +kernel
  have hclosing : IsSolid repetitive.state.delimiters.closingText := by decide +kernel
  have hblank : (Place.start "xaaab".toList).next?.any (!isBlank ·) = true := by decide +kernel
  have hstart :
      startsBoundary repetitive.state.delimiters (Place.start "xaaab".toList).ahead = false := by
    decide +kernel
  have hplace : (Place.start "xaaab".toList).advance
      (clearLength repetitive.state.delimiters (Place.start "xaaab".toList).ahead) =
        ⟨2, "aab".toList⟩ := by
    decide +kernel
  have htiling := exists_scans_tiling repetitive false
    (.start "xaaab".toList) hopening hclosing hblank hstart
  rw [hplace] at htiling
  exact ⟨⟨hopening, hclosing, hblank, hstart⟩, htiling⟩

end TemplateScan
