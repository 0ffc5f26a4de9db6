import Mathlib.Data.List.Nodup
import Mathlib.Data.List.Perm.Basic
import Mathlib.Tactic.MkIffOfInductiveProp
import TemplateScan.Golden.Expectation
import TemplateScan.Proofs.Listing

/-!
# Expectation files read back

An expectation file holds the lines of a listing and headers, in any order of both, with lines
between them that hold nothing or only the mark of a header.  What is at the ends of its lines makes
no difference as long as it is blank.  The file is read one line after the other: a line of the
listing goes to the listing, as it begins with a label and ends with a quote; a header goes to the
headers, as its key ends at the first colon.

* `LineContent`, `FileLine`: the lines of an expectation file.
* `addLine_fileLine`: what one line adds.
* `addLines_fileLines`: what all lines add.
* `addLines_lines`: how the lines of the file are ended makes no difference.
* `Expectation.parse_fileLines`: the listing and the headers are read back.
-/

namespace TemplateScan.Golden

open Text

/-! ## Files -/

/-- A key in the form in which keys are compared. -/
def foldedKey (key : String) : String :=
  String.ofList (key.toList.map Char.toLower)

/-- A header with its key in the form in which keys are compared. -/
def foldedHeader (header : String × String) : String × String :=
  (foldedKey header.1, header.2)

/-- What a line of an expectation file holds. -/
inductive LineContent where
  /-- Nothing. -/
  | nothing
  /-- Only the mark of a header. -/
  | mark
  /-- A header. -/
  | header (key value : String)
  /-- A line of the listing. -/
  | listed (line : String)
deriving DecidableEq, Repr

namespace LineContent

/-- How the line is written. -/
def text : LineContent → List Char
  | nothing => []
  | mark => ['#']
  | header key value => '#' :: ' ' :: key.toList ++ ':' :: ' ' :: value.toList
  | listed line => line.toList

/-- The line of the listing, if it is one. -/
def listed? : LineContent → Option String
  | listed line => some line
  | _ => none

/-- The header, if it is one. -/
def header? : LineContent → Option (String × String)
  | header key value => some (key, value)
  | _ => none

end LineContent

/-- The key and the value can be read from a header: the key is not empty and holds no colon, both
are trimmed and hold no line feed. -/
@[mk_iff]
structure IsHeader (key value : String) : Prop where
  key_ne : key ≠ ""
  trim_key : trim key.toList = key.toList
  colon_not_mem : ':' ∉ key.toList
  newline_not_mem_key : '\n' ∉ key.toList
  trim_value : trim value.toList = value.toList
  newline_not_mem_value : '\n' ∉ value.toList

instance (key value : String) : Decidable (IsHeader key value) :=
  decidable_of_iff' _ (isHeader_iff key value)

theorem isHeader_format : IsHeader "format" expectationFormat := by
  decide +kernel

theorem foldedHeader_format :
    foldedHeader ("format", expectationFormat) = ("format", expectationFormat) := by
  decide

/-- The line can be read: a header is one that can, and a line of the listing is that of a token. -/
def LineContent.IsReadable : LineContent → Prop
  | header key value => IsHeader key value
  | listed line => ∃ kind chars, line = Token.line kind chars
  | _ => True

/-- A line of an expectation file with blanks at its end. -/
structure FileLine where
  content : LineContent
  /-- What is behind it on the line. -/
  blanks : List Char
  all_isBlank : blanks.all isBlank = true
  newline_not_mem : '\n' ∉ blanks

/-- The line as it is in the file. -/
def FileLine.text (line : FileLine) : String :=
  String.ofList (line.content.text ++ line.blanks)

/-- The lines of the listing in a file. -/
def listingOf (file : List FileLine) : List String :=
  file.filterMap (·.content.listed?)

/-- The headers in a file. -/
def headersOf (file : List FileLine) : List (String × String) :=
  file.filterMap (·.content.header?)

/-! ## Reading a line -/

namespace Expectation

section AddLine

variable (e : Expectation) {key value : String}

theorem lookup_eq_some_of_mem {entries : List (String × String)}
    (hnodup : (entries.map Prod.fst).Nodup) (hmem : (key, value) ∈ entries) :
    entries.lookup key = some value := by
  rw [List.lookup_eq_some_iff]
  obtain ⟨before, behind, rfl⟩ := List.append_of_mem hmem
  refine ⟨before, behind, rfl, ?_⟩
  rintro ⟨other, found⟩ hbefore
  rw [bne_iff_ne]
  rintro rfl
  rw [List.map_append, List.map_cons, List.nodup_append] at hnodup
  exact hnodup.2.2 _ (List.mem_map_of_mem hbefore) _ (List.mem_cons_self ..) rfl

/-- A header is read: the key goes to its first colon, and both parts are trimmed. -/
theorem addHeader_header {line padded : List Char} (hheader : IsHeader key value)
    (hpadded : trim padded = value.toList) (hnew : foldedKey key ∉ e.headers.map Prod.fst) :
    e.addHeader line (key.toList ++ ':' :: padded) =
      .ok { e with headers := foldedHeader (key, value) :: e.headers } := by
  have hkey : (key.toList ++ ':' :: padded).takeWhile (· != ':') = key.toList := by
    apply Lexing.takeWhile_append_stop
    · intro c hc
      rw [bne_iff_ne]
      rintro rfl
      exact hheader.colon_not_mem hc
    · rfl
  have hfree : (e.header? (foldedKey key)).isSome = false := by
    rw [header?, Option.isSome_eq_false_iff, Option.isNone_iff_eq_none, List.lookup_eq_none_iff]
    intro entry hentry
    rw [bne_iff_ne]
    intro hsame
    exact hnew (hsame ▸ List.mem_map_of_mem hentry)
  rw [addHeader, hkey]
  simp only [List.drop_left, hheader.trim_key, hpadded]
  rw [foldedKey] at hfree
  simp [hfree, foldedHeader, foldedKey]

theorem addLine_header (hheader : IsHeader key value)
    (hnew : foldedKey key ∉ e.headers.map Prod.fst) :
    e.addLine (trimEnd (LineContent.header key value).text) =
      .ok { e with headers := foldedHeader (key, value) :: e.headers } := by
  obtain ⟨hfirst, -⟩ := trim_eq_self_iff.mp hheader.trim_key
  obtain ⟨-, hlast⟩ := trim_eq_self_iff.mp hheader.trim_value
  -- what the printer puts around the key and the value is taken off again, part by part
  have hpadded : trim (trimEnd (' ' :: value.toList)) = value.toList := by
    cases hchars : value.toList with
    | nil => decide
    | cons c more =>
      rw [hchars] at hlast
      rw [trimEnd_eq_self_iff.mpr (by simpa using hlast), trim_cons_of_isBlank (by decide),
        ← hchars, hheader.trim_value]
  have hbehind : trim (' ' :: key.toList ++ ':' :: trimEnd (' ' :: value.toList)) =
      key.toList ++ ':' :: trimEnd (' ' :: value.toList) := by
    have hkey : key.toList ≠ [] := by simpa using hheader.key_ne
    rw [List.cons_append, trim_cons_of_isBlank (by decide), trim_eq_trimEnd,
      trimEnd_append_cons (by decide)]
    · rw [trimEnd_trimEnd]
    · rwa [List.head?_append_of_ne_nil _ hkey]
  have hline : trimEnd (LineContent.header key value).text =
      '#' :: (' ' :: key.toList ++ ':' :: trimEnd (' ' :: value.toList)) :=
    trimEnd_append_cons (by decide) ('#' :: ' ' :: key.toList) (' ' :: value.toList)
  rw [hline, addLine]
  simp only [hbehind]
  rw [if_neg (by simp)]
  exact e.addHeader_header hheader hpadded hnew

/-- A line of a listing begins with no mark and ends with no blank, so it is added as it is. -/
theorem addLine_listed (kind : TokenKind) (chars : List Char) :
    e.addLine (trimEnd (Token.line kind chars).toList) =
      .ok { e with lines := Token.line kind chars :: e.lines } := by
  obtain ⟨c, more, hline, hsmall⟩ := Token.exists_toList_line kind chars
  rw [trimEnd_eq_self_iff.mpr (by rw [Token.getLast?_line]; decide)]
  rw [hline, addLine]
  · rw [← hline, String.ofList_toList]
  · simp
  · intro rest heq
    cases heq
    exact absurd hsmall (by decide)

end AddLine

/-- The expectation with what is in a file, the latest first. -/
def withFile (e : Expectation) (file : List FileLine) : Expectation :=
  ⟨(listingOf file).reverse ++ e.lines, ((headersOf file).map foldedHeader).reverse ++ e.headers⟩

theorem withFile_cons (e : Expectation) (line : FileLine) (later : List FileLine) :
    e.withFile (line :: later) = (e.withFile [line]).withFile later := by
  simp only [withFile, listingOf, headersOf, List.filterMap_cons, List.filterMap_nil]
  cases line.content <;> simp [LineContent.listed?, LineContent.header?]

/-- What one line of a file adds. -/
theorem addLine_fileLine (e : Expectation) {line : FileLine} (hreadable : line.content.IsReadable)
    (hnodup : ((e.withFile [line]).headers.map Prod.fst).Nodup) :
    e.addLine (trimEnd line.text.toList) = .ok (e.withFile [line]) := by
  rw [FileLine.text, String.toList_ofList,
    trimEnd_append_blanks (List.all_eq_true.mp line.all_isBlank)]
  simp only [withFile, listingOf, headersOf, List.filterMap_cons, List.filterMap_nil] at hnodup ⊢
  cases hcontent : line.content with
  | nothing => rfl
  | mark => rfl
  | header key value =>
    rw [hcontent] at hreadable hnodup
    exact e.addLine_header hreadable (List.nodup_cons.mp hnodup).1
  | listed text =>
    rw [hcontent] at hreadable
    obtain ⟨kind, chars, rfl⟩ := hreadable
    exact e.addLine_listed kind chars

/-! ## Reading a file -/

/-- What all lines of a file add, if no two headers have the same key. -/
theorem addLines_fileLines (e : Expectation) {file : List FileLine}
    (hreadable : ∀ line ∈ file, line.content.IsReadable)
    (hnodup : ((e.withFile file).headers.map Prod.fst).Nodup) :
    e.addLines (file.map (·.text.toList)) = .ok (e.withFile file) := by
  induction file generalizing e with
  | nil => rfl
  | cons line later ih =>
    rw [List.forall_mem_cons] at hreadable
    rw [withFile_cons] at hnodup ⊢
    -- the headers read so far are among those of the whole file
    have hline : ((e.withFile [line]).headers.map Prod.fst).Nodup := by
      rw [withFile, List.map_append] at hnodup
      exact hnodup.of_append_right
    rw [List.map_cons, addLines, e.addLine_fileLine hreadable.1 hline]
    exact ih (e.withFile [line]) hreadable.2 hnodup

theorem addLines_congr (e : Expectation) {lines lines' : List (List Char)}
    (hsame : lines.map trimEnd = lines'.map trimEnd) : e.addLines lines = e.addLines lines' := by
  induction lines generalizing e lines' with
  | nil =>
    cases lines' with
    | nil => rfl
    | cons line later => cases hsame
  | cons line later ih =>
    cases lines' with
    | nil => cases hsame
    | cons line' later' =>
      rw [List.map_cons, List.map_cons, List.cons.injEq] at hsame
      rw [addLines, addLines, hsame.1]
      cases e.addLine (trimEnd line') with
      | error => rfl
      | ok e => exact ih e hsame.2

/-- An empty line behind the others adds nothing. -/
theorem addLines_append_nil (e : Expectation) (lines : List (List Char)) :
    e.addLines (lines ++ [[]]) = e.addLines lines := by
  induction lines generalizing e with
  | nil => rfl
  | cons line later ih =>
    rw [List.cons_append, addLines, addLines]
    cases e.addLine (trimEnd line) with
    | error => rfl
    | ok e => exact ih e

/-- How the lines of a file are ended makes no difference: what is read is what is between the line
feeds. -/
theorem addLines_lines (e : Expectation) (content : List Char) :
    e.addLines (Text.lines content) = e.addLines (split (· == '\n') content) := by
  have hne : split (· == '\n') content ≠ [] := by
    rw [split_eq_splitOnP]
    exact List.splitOnP_ne_nil _ _
  obtain ⟨before, last, hsplit⟩ := (List.eq_nil_or_concat' _).resolve_left hne
  have htrim : (before.map withoutReturn).map trimEnd = before.map trimEnd := by
    simp [trimEnd_withoutReturn]
  rw [Text.lines, hsplit, List.dropLast_concat, List.getLast?_concat, Option.toList_some]
  cases last with
  | nil =>
    rw [addLines_append_nil]
    apply addLines_congr
    simpa using htrim
  | cons c more =>
    apply addLines_congr
    simpa using htrim

theorem newline_not_mem_text {line : FileLine} (hreadable : line.content.IsReadable) :
    '\n' ∉ line.text.toList := by
  rw [FileLine.text, String.toList_ofList, List.mem_append, not_or]
  refine ⟨?_, line.newline_not_mem⟩
  cases hcontent : line.content with
  | nothing => simp [LineContent.text]
  | mark => simp [LineContent.text]
  | header key value =>
    rw [hcontent] at hreadable
    simp [LineContent.text, hreadable.newline_not_mem_key, hreadable.newline_not_mem_value]
  | listed text =>
    rw [hcontent] at hreadable
    obtain ⟨kind, chars, rfl⟩ := hreadable
    exact fun hmem => absurd (Token.isPrintable_of_mem_line hmem) (by decide)

/-- What the lines of the file hold is read from the text that they make up. -/
theorem addLines_content (e : Expectation) {file : List FileLine} {content : String}
    (hcontent : ConsistsOf content (file.map FileLine.text))
    (hreadable : ∀ line ∈ file, line.content.IsReadable)
    (hnodup : ((e.withFile file).headers.map Prod.fst).Nodup) :
    e.addLines (Text.lines content.toList) = .ok (e.withFile file) := by
  have hnewline : ∀ text ∈ file.map FileLine.text, '\n' ∉ text.toList := by
    simpa using fun line hmem => newline_not_mem_text (hreadable line hmem)
  rw [addLines_lines, ← e.addLines_fileLines hreadable hnodup]
  rcases hcontent.split_eq hnewline with ⟨hsplit, -⟩ | hsplit
  · rw [hsplit, List.map_map]
    rfl
  · rw [hsplit, List.map_map, addLines_append_nil]
    rfl

section Parse

variable {text : List Char} {tokens : List Token} {listing : List String}
  {headers : List (String × String)} {file : List FileLine}

/-- A file that is made of a listing and of headers that can be read can be read. -/
theorem isReadable_of_mem (hlisting : Token.lines text tokens = .ok listing)
    (hheaders : ∀ header ∈ headers, IsHeader header.1 header.2) (hlisted : listingOf file = listing)
    (hfile : (headersOf file).Perm (("format", expectationFormat) :: headers)) :
    ∀ line ∈ file, line.content.IsReadable := by
  intro line hmem
  cases hline : line.content with
  | nothing => trivial
  | mark => trivial
  | header key value =>
    have hheader : (key, value) ∈ headersOf file :=
      List.mem_filterMap.mpr ⟨line, hmem, by rw [hline]; rfl⟩
    rcases List.mem_cons.mp (hfile.mem_iff.mp hheader) with hformat | hheader
    · cases hformat
      exact isHeader_format
    · exact hheaders _ hheader
  | listed text =>
    apply Token.exists_line_of_lines hlisting
    rw [← hlisted]
    exact List.mem_filterMap.mpr ⟨line, hmem, by rw [hline]; rfl⟩

/-- The order of the headers in the file makes no difference. -/
theorem headers_withFile_perm
    (hfile : (headersOf file).Perm (("format", expectationFormat) :: headers)) :
    (withFile {} file).headers.Perm
      (("format", expectationFormat) :: headers.map foldedHeader) := by
  have hfolded := hfile.map foldedHeader
  rw [List.map_cons, foldedHeader_format] at hfolded
  simpa [withFile] using (List.reverse_perm _).trans hfolded

/-- **Expectation files are read back.**  Whatever text a listing is of, and however its lines, the
format, further headers, blank lines and lines with only the mark of a header are put into a file,
the file can be read.  The listing is that of the file, in its order, and each header has its
value. -/
theorem parse_fileLines (hlisting : Token.lines text tokens = .ok listing)
    (hheaders : ∀ header ∈ headers, IsHeader header.1 header.2)
    (hnodup : ("format" :: headers.map fun header => foldedKey header.1).Nodup)
    (hlisted : listingOf file = listing)
    (hfile : (headersOf file).Perm (("format", expectationFormat) :: headers)) {content : String}
    (hcontent : ConsistsOf content (file.map FileLine.text)) :
    ∃ e, parse content = .ok e ∧ e.lines = listing ∧
      ∀ header ∈ headers, e.header? (foldedKey header.1) = some header.2 := by
  have hreadable := isReadable_of_mem hlisting hheaders hlisted hfile
  have hperm := headers_withFile_perm hfile
  have hkeys : ((withFile {} file).headers.map Prod.fst).Nodup := by
    rw [(hperm.map Prod.fst).nodup_iff, List.map_cons, List.map_map]
    exact hnodup
  have hvalue : ∀ header ∈ ("format", expectationFormat) :: headers.map foldedHeader,
      (withFile {} file).header? header.1 = some header.2 :=
    fun header hmem => lookup_eq_some_of_mem hkeys (hperm.mem_iff.mpr hmem)
  rw [List.forall_mem_cons] at hvalue
  refine ⟨{ withFile {} file with lines := (withFile {} file).lines.reverse }, ?_, ?_, ?_⟩
  · rw [parse, addLines_content {} hcontent hreadable hkeys]
    simp only [hvalue.1, if_true]
  · rw [withFile, List.append_nil, List.reverse_reverse, hlisted]
  · intro header hmem
    exact hvalue.2 _ (List.mem_map_of_mem hmem)

end Parse

/-- A file with two further headers, one without a value.  There are lines that hold only blanks or
a mark, and blanks behind others, among them the carriage return before a line feed. -/
def twoTokensFile : List FileLine := [
  ⟨.mark, ['\r'], by decide, by decide⟩,
  ⟨.header "Open-Tags" "DIV P", [' ', '\r'], by decide, by decide⟩,
  ⟨.listed "mustache_text \"é\\t#\\\" \"", [], by decide, by decide⟩,
  ⟨.nothing, ['\t', '\u3000'], by decide, by decide⟩,
  ⟨.header "format" expectationFormat, [], by decide, by decide⟩,
  ⟨.listed "implicit_end_tag \"\"", [' '], by decide, by decide⟩,
  ⟨.header "Note" "", [], by decide, by decide⟩]

theorem parse_fileLines_twoTokens :
    ∃ e, parse (CommandLine.printed (twoTokensFile.map FileLine.text)) = .ok e ∧
      e.lines = ["mustache_text \"é\\t#\\\" \"", "implicit_end_tag \"\""] ∧
      e.header? (foldedKey "Open-Tags") = some "DIV P" ∧
      e.header? (foldedKey "Note") = some "" := by
  have hlisting :
      Token.lines "é\t#\" ".toList [⟨.mustacheText, ⟨0, 6⟩⟩, ⟨.implicitEndTag, ⟨6, 6⟩⟩] =
      .ok ["mustache_text \"é\\t#\\\" \"", "implicit_end_tag \"\""] := by
    rfl
  have hheaders : ∀ header ∈ [("Open-Tags", "DIV P"), ("Note", "")],
      IsHeader header.1 header.2 := by
    decide +kernel
  have hfile : (headersOf twoTokensFile).Perm
      (("format", expectationFormat) :: [("Open-Tags", "DIV P"), ("Note", "")]) := by
    decide +kernel
  obtain ⟨e, hread, hlines, hvalues⟩ :=
    parse_fileLines hlisting hheaders (by decide +kernel) rfl hfile (Or.inl rfl)
  rw [List.forall_mem_cons, List.forall_mem_singleton] at hvalues
  exact ⟨e, hread, hlines, hvalues⟩

end Expectation

end TemplateScan.Golden
