import TemplateScan.Proofs.Document.MustacheScan
import TemplateScan.Proofs.Document.PartialOpening

/-!
# Ways to the opening delimiter

The opening delimiter is looked for in four ways: between attributes as a beginning of what is
ahead, and by the scanner as a whole at any character, with the `<` that it begins with told first,
or by the run of text that it stops.

* `Run.scan_opening_iff`: the four ways agree, but for a run of text at delimiters of which the
  closing one begins the opening one.
-/

namespace TemplateScan

open Text Mustache

namespace Lexing

section Opening

variable {s : ScanState} {valid : TokenSet} {ahead behind : List Char}

theorem head?_of_openingText_isPrefix {d : Delimiters} {c : Char}
    (hoccurs : d.openingText <+: c :: behind) : d.openingText.head? = some c := by
  obtain ⟨rest, hrest⟩ := hoccurs
  have hhead : (d.openingText ++ rest).head? = d.openingText.head? :=
    List.head?_append_of_ne_nil _ d.openingText_ne
  rw [← hhead, hrest]
  rfl

/-- A delimiter is found as a whole, and not otherwise. -/
theorem finding_delimiter_iff {finding : Finding} {literal : List Char}
    (hfinding : finding ≠ .nothing) :
    (delimiter finding literal ahead).finding = finding ↔ literal <+: ahead := by
  constructor
  · intro hfinds
    by_contra habsent
    rw [delimiter_of_not_isPrefix finding habsent] at hfinds
    exact hfinding hfinds.symm
  · rintro ⟨rest, rfl⟩
    rw [delimiter_append]
    rfl

/-! ## At a `<` -/

theorem isPrefix_of_openingAtAngle? {d : Delimiters} {reading : Reading}
    (hreading : openingAtAngle? d valid behind = some reading)
    (hfinds : reading.finding = .opening) : d.openingText <+: '<' :: behind := by
  unfold openingAtAngle? at hreading
  split at hreading
  · split at hreading
    · next htext =>
      rw [htext]
      exact ⟨behind, rfl⟩
    · split at hreading
      · obtain rfl := Option.some.inj hreading
        exact (finding_delimiter_iff Finding.noConfusion).mp hfinds
      · cases hreading
    · cases hreading
  · cases hreading

theorem isPrefix_of_atAngle (hfinds : (atAngle s valid behind).finding = .opening) :
    s.delimiters.openingText <+: '<' :: behind := by
  unfold atAngle at hfinds
  split at hfinds
  · next hreading => exact isPrefix_of_openingAtAngle? hreading hfinds
  · -- a comment is found even where no kind is admissible, and an implied end has no text
    split at hfinds
    · next ahead _ =>
      have hadmitted : (comment ahead).finding.Admitted .empty :=
        (@holds_comment s .empty ['<'] ahead (List.cons_ne_nil _ _)).admitted
      rw [hfinds] at hadmitted
      cases hadmitted
    · have htells := (@holds_impliedEndIfValid s valid [] 1 behind).tells
      rw [hfinds, List.take_nil] at htells
      exact absurd rfl htells

end Opening

end Lexing

theorem Finding.eq_opening {finding : Finding}
    (hkind : finding.kind? = some .mustacheStartDelimiter) : finding = .opening := by
  cases finding with
  | opening => rfl
  | startTag tag =>
    rw [kind?] at hkind
    split at hkind
    · cases hkind
    · cases hkind
    · cases hkind
  | _ => cases hkind

namespace Document.Run

open Lexing

section Paths

variable {config : ScanConfig} {s : ScanState} {c : Char} {rest : List Char}

theorem atNext_singleton_opening (hangle : c ≠ '<') :
    atNext s (.singleton .mustacheStartDelimiter) (c :: rest) =
      if s.delimiters.openingText.head? == some c then
        delimiter .opening s.delimiters.openingText (c :: rest)
      else .decline 0 := by
  have hslash : atNext s (.singleton .mustacheStartDelimiter) (c :: rest) =
      if s.delimiters.openingText.head? == some c then
        delimiter .opening s.delimiters.openingText (c :: rest)
      else if c = '/' then .decline 0 else .decline 0 := by
    rw [atNext]
    · rfl
    · exact hangle
  rw [hslash, ite_self]

/-- Where only the delimiter is admissible, it is found wherever it is. -/
theorem finds_singleton_opening (hblank : isBlank c = false)
    (hoccurs : s.delimiters.openingText <+: c :: rest) :
    (read config s (.singleton .mustacheStartDelimiter) (c :: rest)).Finds .opening
      s.delimiters.openingText.length := by
  have hfound : atNext s (.singleton .mustacheStartDelimiter) (c :: rest) =
      .take .opening s.delimiters.openingText.length := by
    by_cases hangle : c = '<'
    · subst hangle
      exact atAngle_of_isPrefix rfl hoccurs
    · rw [atNext_singleton_opening hangle,
        if_pos (beq_iff_eq.mpr (head?_of_openingText_isPrefix hoccurs))]
      obtain ⟨later, hlater⟩ := hoccurs
      rw [← hlater, delimiter_append]
  rw [read_of_not_blank rfl (by simp [hblank])]
  show ({ atNext s (.singleton .mustacheStartDelimiter) (c :: rest) with skipped := 0 } :
    Reading).Finds _ _
  rw [hfound]
  exact Reading.finds_take _ _

theorem isPrefix_of_singleton_opening (hblank : isBlank c = false)
    (hfinds : (read config s (.singleton .mustacheStartDelimiter) (c :: rest)).finding = .opening) :
    s.delimiters.openingText <+: c :: rest := by
  rw [read_of_not_blank rfl (by simp [hblank])] at hfinds
  have hnext : (atNext s (.singleton .mustacheStartDelimiter) (c :: rest)).finding = .opening :=
    hfinds
  by_cases hangle : c = '<'
  · subst hangle
    exact isPrefix_of_atAngle hnext
  · rw [atNext_singleton_opening hangle] at hnext
    split at hnext
    · exact (finding_delimiter_iff Finding.noConfusion).mp hnext
    · cases hnext

/-- Where content may begin, it is not found elsewhere, nor with a closing delimiter that begins
it. -/
theorem isPrefix_of_content_opening (inElement : Bool) (hblank : isBlank c = false)
    (hfinds : (read config s (contentTokens inElement) (c :: rest)).finding = .opening) :
    s.delimiters.openingText <+: c :: rest ∧ OpensFirst s.delimiters := by
  rw [read_contentTokens inElement config s (by simp [hblank])] at hfinds
  -- at a `<` the delimiter comes first, and at any other character the run of text does
  by_cases hangle : c = '<'
  · subst hangle
    have hoccurs : s.delimiters.openingText <+: '<' :: rest := isPrefix_of_atAngle hfinds
    exact ⟨hoccurs, Or.inl (head?_of_openingText_isPrefix hoccurs)⟩
  · rw [atNext_contentTokens inElement s rest hangle] at hfinds
    obtain ⟨hoccurs, hfirst⟩ := isPrefix_of_textRun hfinds
    exact ⟨hoccurs, Or.inr hfirst⟩

end Paths

/-! ## Scans -/

section Scans

variable {s : Scanner} {place : Place} {c : Char} {rest : List Char}

theorem scan_finds_singleton_opening (hahead : place.ahead = c :: rest)
    (hblank : isBlank c = false) (hoccurs : s.state.delimiters.openingText <+: c :: rest) :
    (s.scan (.singleton .mustacheStartDelimiter) place).reading.Finds .opening
      s.state.delimiters.openingText.length := by
  rw [Scanner.scan, hahead]
  exact finds_singleton_opening hblank hoccurs

theorem scan_finds_content_opening (inElement : Bool) (hahead : place.ahead = c :: rest)
    (hblank : isBlank c = false) (hoccurs : s.state.delimiters.openingText <+: c :: rest)
    (hfirst : OpensFirst s.state.delimiters) :
    (s.scan (contentTokens inElement) place).reading.Finds .opening
      s.state.delimiters.openingText.length := by
  obtain ⟨later, hlater⟩ := hoccurs
  have hhead : (s.state.delimiters.openingText ++ later).head?.all (!isBlank ·) = true := by
    rw [hlater]
    simp [hblank]
  rw [Scanner.scan, hahead, ← hlater]
  exact finds_opening inElement hhead hfirst

theorem kind?_singleton_opening_iff (hahead : place.ahead = c :: rest)
    (hblank : isBlank c = false) :
    (s.scan (.singleton .mustacheStartDelimiter) place).kind? = some .mustacheStartDelimiter ↔
      s.state.delimiters.openingText <+: c :: rest := by
  constructor
  · intro hkind
    have hfinding := Finding.eq_opening hkind
    rw [Scanner.scan, hahead] at hfinding
    exact isPrefix_of_singleton_opening hblank hfinding
  · intro hoccurs
    exact Scan.kind?_of_finds (scan_finds_singleton_opening hahead hblank hoccurs)

theorem kind?_content_opening_iff (inElement : Bool) (hahead : place.ahead = c :: rest)
    (hblank : isBlank c = false) :
    (s.scan (contentTokens inElement) place).kind? = some .mustacheStartDelimiter ↔
      s.state.delimiters.openingText <+: c :: rest ∧ OpensFirst s.state.delimiters := by
  constructor
  · intro hkind
    have hfinding := Finding.eq_opening hkind
    rw [Scanner.scan, hahead] at hfinding
    exact isPrefix_of_content_opening inElement hblank hfinding
  · rintro ⟨hoccurs, hfirst⟩
    exact Scan.kind?_of_finds (scan_finds_content_opening inElement hahead hblank hoccurs hfirst)

/-- The token spans the delimiter. -/
theorem token?_opening {scan : Scan} {literal : List Char}
    (hfinds : scan.reading.Finds .opening literal.length) (hoccurs : literal <+: scan.entry.ahead) :
    scan.token? = some ⟨.mustacheStartDelimiter,
      ⟨scan.entry.offset, scan.entry.offset + Utf8.byteLength literal⟩⟩ := by
  have hliteral : scan.entry.ahead.take literal.length = literal :=
    (List.prefix_iff_eq_take.mp hoccurs).symm
  rw [Scan.token?_of_finds hfinds rfl, Place.advance_offset, hliteral]

end Scans

/-- **The ways to the opening delimiter agree.**  At a character that is no blank, the opening
delimiter is found where only it is admissible if and only if it is ahead, as a start tag looks for
it between attributes.  Where content may begin, it is found if and only if, in addition, it begins
with `<` or the closing delimiter is no proper beginning of it.  Either way the token is the
delimiter. -/
theorem scan_opening_iff (r : Run) (inElement : Bool)
    (hnext : r.next?.any (!isBlank ·) = true) :
    ((r.scanner.scan (.singleton .mustacheStartDelimiter) r.place).kind? =
        some .mustacheStartDelimiter ↔ r.atOpening = true) ∧
    ((r.scanner.scan (contentTokens inElement) r.place).kind? = some .mustacheStartDelimiter ↔
      r.atOpening = true ∧ OpensFirst r.scanner.state.delimiters) ∧
    ∀ valid ∈ [TokenSet.singleton .mustacheStartDelimiter, contentTokens inElement],
      (r.scanner.scan valid r.place).kind? = some .mustacheStartDelimiter →
      (r.scanner.scan valid r.place).token? = some ⟨.mustacheStartDelimiter, ⟨r.place.offset,
        r.place.offset + Utf8.byteLength r.scanner.state.delimiters.openingText⟩⟩ := by
  obtain ⟨c, hc, hblank⟩ := (Option.any_eq_true _ _).mp hnext
  obtain ⟨rest, hahead⟩ := List.head?_eq_some_iff.mp hc
  replace hblank : isBlank c = false := by simpa using hblank
  have hopening : r.atOpening = true ↔ r.scanner.state.delimiters.openingText <+: c :: rest := by
    rw [← hahead]
    exact List.isPrefixOf_iff_prefix
  rw [hopening]
  refine ⟨kind?_singleton_opening_iff hahead hblank,
    kind?_content_opening_iff inElement hahead hblank, ?_⟩
  -- where it is found, it is found right ahead, as far as it goes
  intro valid hvalid hkind
  rcases List.mem_pair.mp hvalid with rfl | rfl
  · have hoccurs := (kind?_singleton_opening_iff hahead hblank).mp hkind
    exact token?_opening (scan_finds_singleton_opening hahead hblank hoccurs) (hahead ▸ hoccurs)
  · obtain ⟨hoccurs, hfirst⟩ := (kind?_content_opening_iff inElement hahead hblank).mp hkind
    exact token?_opening (scan_finds_content_opening inElement hahead hblank hoccurs hfirst)
      (hahead ▸ hoccurs)

/-- A run at an opening delimiter that the closing one begins. -/
def atBrackets : Run :=
  .start { state := { delimiters := { opening := .ofText "[[", closing := .ofText "[" } } } false
    "[[x"

/-- There the opening delimiter is found in a start tag, and not in the content. -/
theorem scan_opening_brackets :
    (atBrackets.scanner.scan (.singleton .mustacheStartDelimiter) atBrackets.place).kind? =
        some .mustacheStartDelimiter ∧
      (atBrackets.scanner.scan (contentTokens false) atBrackets.place).kind? ≠
        some .mustacheStartDelimiter := by
  obtain ⟨hsingle, hcontent, -⟩ := scan_opening_iff atBrackets false (by decide)
  refine ⟨hsingle.mpr (by decide), ?_⟩
  intro hkind
  have hnot : ¬OpensFirst atBrackets.scanner.state.delimiters := by
    unfold OpensFirst
    decide
  exact hnot (hcontent.mp hkind).2

end Document.Run

end TemplateScan
