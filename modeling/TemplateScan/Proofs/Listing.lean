import TemplateScan.Proofs.Lexing.Characters
import TemplateScan.Proofs.Text.Lines
import TemplateScan.Proofs.Text.Listed
import TemplateScan.Proofs.Text.Stretches

/-!
# Listings are unambiguous

The line of a token is its label, a space and its text in quotes.  No label holds a space, so the
label is known, and with it the kind; what is behind it tells the text, whatever quotes, backslashes
and controls that holds.  All of the line is printable, so a listing is known by its lines.

* `Token.line_inj`: a line tells the kind and the text of its token.
* `Token.isPrintable_of_mem_line`: no control is in a line.
* `Token.IsListing`, `listings_unambiguous`: so it is for the listings of the tokens of any texts.
-/

namespace TemplateScan

open Text

namespace TokenKind

/-- Labels are made of small letters and underscores. -/
theorem label_all (kind : TokenKind) :
    kind.label.toList.all (fun c => c.isLower || c == '_') = true := by
  cases kind <;> decide +kernel

theorem label_ne_nil (kind : TokenKind) : kind.label.toList ≠ [] := by
  cases kind <;> decide +kernel

theorem label_inj {kind kind' : TokenKind} : kind.label = kind'.label ↔ kind = kind' := by
  constructor
  · intro heq
    have hfound := ofLabel?_label kind
    rw [heq, ofLabel?_label, Option.some_inj] at hfound
    exact hfound.symm
  · rintro rfl
    rfl

end TokenKind

namespace Token

section Line

variable {kind kind' : TokenKind} {chars chars' : List Char}

theorem toList_line (kind : TokenKind) (chars : List Char) :
    (line kind chars).toList = kind.label.toList ++ ' ' :: listed chars := by
  simp [line]

/-- The label ends at the first space of the line. -/
theorem takeWhile_line (kind : TokenKind) (chars : List Char) :
    (line kind chars).toList.takeWhile (· != ' ') = kind.label.toList := by
  rw [toList_line]
  apply Lexing.takeWhile_append_stop
  · intro c hc
    have hsmall := List.all_eq_true.mp kind.label_all c hc
    rw [bne_iff_ne]
    rintro rfl
    exact absurd hsmall (by decide)
  · rfl

/-- A line tells the kind and the text of its token. -/
theorem line_inj : line kind chars = line kind' chars' ↔ kind = kind' ∧ chars = chars' := by
  constructor
  · intro heq
    have hkind : kind = kind' := by
      rw [← TokenKind.label_inj, ← String.toList_inj, ← takeWhile_line kind chars, heq,
        takeWhile_line]
    subst hkind
    -- what is behind the label is the same, too
    rw [← String.toList_inj, toList_line, toList_line] at heq
    have hlisted := (List.cons.inj (List.append_cancel_left heq)).2
    exact ⟨rfl, listed_inj.mp hlisted⟩
  · rintro ⟨rfl, rfl⟩
    rfl

/-- No control is in a line. -/
theorem isPrintable_of_mem_line {c : Char} (hc : c ∈ (line kind chars).toList) : IsPrintable c := by
  simp only [toList_line, List.mem_append, List.mem_cons] at hc
  rcases hc with hlabel | rfl | hlisted
  · have hsmall := List.all_eq_true.mp kind.label_all c hlabel
    rw [Bool.or_eq_true, beq_iff_eq] at hsmall
    rcases hsmall with hlower | rfl
    · unfold Char.isLower at hlower
      rw [Bool.and_eq_true, decide_eq_true_eq, decide_eq_true_eq] at hlower
      refine ⟨Char.le_trans (by decide) hlower.1, ?_⟩
      rintro rfl
      exact absurd hlower.2 (by decide)
    · decide
  · decide
  · exact isPrintable_of_mem_listed hlisted

/-- A line begins with the first letter of a label. -/
theorem exists_toList_line (kind : TokenKind) (chars : List Char) :
    ∃ c more, (line kind chars).toList = c :: more ∧ (c.isLower || c == '_') = true := by
  obtain ⟨c, more, hlabel⟩ := List.exists_cons_of_ne_nil kind.label_ne_nil
  refine ⟨c, more ++ ' ' :: listed chars, ?_, ?_⟩
  · rw [toList_line, hlabel, List.cons_append]
  · apply List.all_eq_true.mp kind.label_all c
    simp [hlabel]

/-- A line ends with a quote. -/
theorem getLast?_line (kind : TokenKind) (chars : List Char) :
    (line kind chars).toList.getLast? = some '"' := by
  have hline : (line kind chars).toList =
      (kind.label.toList ++ ' ' :: '"' :: chars.flatMap listedChar) ++ ['"'] := by
    simp [toList_line, listed]
  rw [hline, List.getLast?_concat]

theorem line_ne (kind : TokenKind) (chars : List Char) : line kind chars ≠ "" := by
  intro heq
  have hlist := toList_line kind chars
  rw [heq] at hlist
  simp at hlist

end Line

/-! ## Listings -/

/-- The listing has a line for each token of the text.  The lines are printable, and are those of
the text that they make up, whether it is cut at every line feed or read line by line. -/
structure IsListing (text : List Char) (tokens : List Token) (listing : List String) : Prop where
  lines_eq : Token.lines text tokens = .ok listing
  length_eq : listing.length = tokens.length
  isPrintable : ∀ line ∈ listing, ∀ c ∈ line.toList, IsPrintable c
  split_eq : listing ≠ [] →
    split (· == '\n') ("\n".intercalate listing).toList = listing.map String.toList
  lines_content : ∀ content, ConsistsOf content listing →
    Text.lines content.toList = listing.map String.toList

section Listing

variable {text : List Char} {tokens : List Token} {listing : List String}

/-- All lines of a listing are lines of tokens. -/
theorem exists_line_of_lines (hlisting : Token.lines text tokens = .ok listing) :
    ∀ line ∈ listing, ∃ kind chars, line = Token.line kind chars := by
  rw [lines_eq_ok_iff] at hlisting
  induction hlisting with
  | nil => simp
  | cons hline _ ih =>
    obtain ⟨chars, -, rfl⟩ := hline
    simp only [List.forall_mem_cons]
    exact ⟨⟨_, chars, rfl⟩, ih⟩

theorem isListing_of_lines (hlisting : Token.lines text tokens = .ok listing) :
    IsListing text tokens listing := by
  have hprintable : ∀ line ∈ listing, ∀ c ∈ line.toList, IsPrintable c := by
    intro line hmem c hc
    obtain ⟨kind, chars, rfl⟩ := exists_line_of_lines hlisting line hmem
    exact isPrintable_of_mem_line hc
  have hnone {c : Char} (hc : ¬IsPrintable c) : ∀ line ∈ listing, c ∉ line.toList :=
    fun line hmem hmem' => hc (hprintable line hmem c hmem')
  refine ⟨hlisting, (lines_eq_ok_iff.mp hlisting).length_eq.symm, hprintable, ?_, ?_⟩
  · intro hne
    rw [String.toList_intercalate]
    exact split_intercalate (by simpa using hnone (c := '\n') (by decide)) (by simpa using hne)
  · intro content hcontent
    apply hcontent.lines_eq
    intro line hmem
    obtain ⟨kind, chars, rfl⟩ := exists_line_of_lines hlisting line hmem
    exact ⟨line_ne kind chars, hnone (by decide) _ hmem, hnone (by decide) _ hmem⟩

end Listing

/-- **Listings are unambiguous.**  Tokens that are stretches of their texts have listings of
printable lines, which are read back from the text that they make up.  Two lines are the same, in
one listing or in the listings of two texts, if and only if their tokens are of the same kind and
have the same text. -/
theorem listings_unambiguous {text text' : List Char} {tokens tokens' : List Token}
    (htokens : ∀ t ∈ tokens, t.span.IsIn text) (htokens' : ∀ t ∈ tokens', t.span.IsIn text') :
    ∃ listing listing', IsListing text tokens listing ∧ IsListing text' tokens' listing' ∧
      ∀ t line t' line', (t, line) ∈ tokens.zip listing → (t', line') ∈ tokens'.zip listing' →
        ∃ chars chars', t.span.textIn? text = some chars ∧ t'.span.textIn? text' = some chars' ∧
          (line = line' ↔ t.kind = t'.kind ∧ chars = chars') := by
  obtain ⟨listing, hlisting, -⟩ := exists_lines htokens
  obtain ⟨listing', hlisting', -⟩ := exists_lines htokens'
  refine ⟨listing, listing', isListing_of_lines hlisting, isListing_of_lines hlisting', ?_⟩
  intro t line t' line' hmem hmem'
  obtain ⟨-, hlines⟩ := List.forall₂_iff_zip.mp (lines_eq_ok_iff.mp hlisting)
  obtain ⟨-, hlines'⟩ := List.forall₂_iff_zip.mp (lines_eq_ok_iff.mp hlisting')
  obtain ⟨chars, hread, rfl⟩ := hlines hmem
  obtain ⟨chars', hread', rfl⟩ := hlines' hmem'
  exact ⟨chars, chars', hread, hread', line_inj⟩

/-- The bell and the text that it is listed as have different listings. -/
theorem listings_unambiguous_escape :
    ∃ listing listing',
      IsListing ['\x07'] [⟨.mustacheText, ⟨0, 1⟩⟩] listing ∧
      IsListing "\\u\x7B07\x7D".toList [⟨.mustacheText, ⟨0, 6⟩⟩] listing' ∧ listing ≠ listing' := by
  have hbell : ∀ t ∈ [Token.mk .mustacheText ⟨0, 1⟩], t.span.IsIn ['\x07'] := by
    rw [List.forall_mem_singleton]
    exact ⟨(Place.isIn_start _).isBoundary, (Place.isIn_end _).isBoundary, by decide⟩
  have hescape : ∀ t ∈ [Token.mk .mustacheText ⟨0, 6⟩],
      t.span.IsIn "\\u\x7B07\x7D".toList := by
    rw [List.forall_mem_singleton]
    exact ⟨(Place.isIn_start _).isBoundary, (Place.isIn_end _).isBoundary, by decide⟩
  obtain ⟨listing, listing', hlisting, hlisting', hlines⟩ := listings_unambiguous hbell hescape
  refine ⟨listing, listing', hlisting, hlisting', ?_⟩
  rintro rfl
  obtain ⟨line, rfl⟩ := List.length_eq_one_iff.mp hlisting.length_eq
  obtain ⟨chars, chars', hread, hread', hsame⟩ :=
    hlines _ line _ line (List.mem_singleton_self _) (List.mem_singleton_self _)
  have htexts := (hsame.mp rfl).2
  rw [← Option.some_inj, ← hread, ← hread'] at htexts
  exact absurd htexts (by decide +kernel)

end Token

end TemplateScan
