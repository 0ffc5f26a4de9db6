import TemplateScan.Proofs.Document.MustacheScan

/-!
# Chains of directives

Each directive is opened by the delimiter that the one before it has set, and closed by the one that
was in force before.  So however many there are, each is read as what it is, and a value behind the
last one is read between its delimiters.

* `DelimiterPair.Usable`: what it takes for a directive to set these delimiters and for the next tag
  to be found.
* `chainPieces`: a chain of directives and the tag of a value.
* `HasRead.exists_chain`: a run comes through a chain.
* `parse_chain`: the outcome of a document that is a chain.
-/

namespace TemplateScan.Document

open Text Mustache Lexing

/-- The spellings of the two delimiters. -/
structure DelimiterPair where
  opening : List Char
  closing : List Char
deriving DecidableEq, Repr, Inhabited

namespace DelimiterPair

/-- The built-in delimiters. -/
def builtin : DelimiterPair where
  opening := ['\x7B', '\x7B']
  closing := ['\x7D', '\x7D']

/-- A directive can set the delimiters, and the opening one is found then. -/
structure Usable (p : DelimiterPair) : Prop where
  opening : IsDelimiterText p.opening
  closing : IsDelimiterText p.closing
  first : p.opening.head? = some '<' ∨ (p.closing <+: p.opening → p.closing = p.opening)

instance (p : DelimiterPair) : Decidable p.Usable :=
  decidable_of_iff
    (IsDelimiterText p.opening ∧ IsDelimiterText p.closing ∧
      (p.opening.head? = some '<' ∨ (p.closing <+: p.opening → p.closing = p.opening)))
    ⟨fun ⟨hopening, hclosing, hfirst⟩ => ⟨hopening, hclosing, hfirst⟩,
      fun hp => ⟨hp.opening, hp.closing, hp.first⟩⟩

/-- The delimiters in force behind a directive that sets these. -/
def inForce (p : DelimiterPair) : Delimiters :=
  setDelimiters p.opening p.closing

end DelimiterPair

/-! ## The pieces of a chain -/

open Piece

/-- A directive that sets the next delimiters. -/
def directivePieces (p next : DelimiterPair) : List Piece :=
  [token .mustacheStartDelimiter p.opening, mark ['='],
    token .mustacheSetStartDelimiter next.opening, mark [' '],
    token .mustacheSetEndDelimiter next.closing, mark ['='],
    token .mustacheOldEndDelimiter p.closing]

/-- The tag of a value. -/
def valuePieces (p : DelimiterPair) (name : List Char) : List Piece :=
  [token .mustacheStartDelimiter p.opening, token .mustacheIdentifier name,
    token .mustacheEndDelimiter p.closing]

/-- Directives that change the delimiters one after the other, and the tag of a value between the
last ones. -/
def chainPieces (p : DelimiterPair) (name : List Char) : List DelimiterPair → List Piece
  | [] => valuePieces p name
  | next :: later => directivePieces p next ++ chainPieces next name later

theorem charsOf_directivePieces (p next : DelimiterPair) :
    charsOf (directivePieces p next) =
      p.opening ++ '=' :: (next.opening ++ ' ' :: (next.closing ++ '=' :: p.closing)) := by
  simp [directivePieces, token, mark]

theorem charsOf_valuePieces (p : DelimiterPair) (name : List Char) :
    charsOf (valuePieces p name) = p.opening ++ (name ++ p.closing) := by
  simp [valuePieces, token]

/-! ## Delimiters of a spelling -/

/-- The delimiters in force are spelled so. -/
structure Spelled (d : Delimiters) (p : DelimiterPair) : Prop where
  opening : d.openingText = p.opening
  closing : d.closingText = p.closing

theorem resolve_ofText {text : List Char} (hne : text ≠ []) (fallback : String) :
    ((Delimiter.ofText (String.ofList text)).resolve fallback).toList = text := by
  have hset : String.ofList text ≠ "" := by
    intro hempty
    apply hne
    rw [← String.toList_ofList (l := text), hempty]
    rfl
  rw [Delimiter.ofText, dif_neg hset, Delimiter.resolve, String.toList_ofList]

/-- The delimiters that a directive has set are spelled as it spells them. -/
theorem spelled_inForce {p : DelimiterPair} (hp : p.Usable) : Spelled p.inForce p where
  opening := resolve_ofText hp.opening.1 _
  closing := resolve_ofText hp.closing.1 _

theorem Spelled.opensFirst {d : Delimiters} {p : DelimiterPair} (hspelled : Spelled d p)
    (hp : p.Usable) : OpensFirst d := by
  rw [OpensFirst, hspelled.opening, hspelled.closing]
  exact hp.first

namespace Run

section Chain

variable {r : Run} {config : ScanConfig} {done : List Piece} {name rest : List Char} {s : ScanState}
  {p next : DelimiterPair} {changes : List DelimiterPair} {depth : Nat}

/-- A directive is read, and its delimiters are in force behind it. -/
theorem HasRead.exists_directive
    (h : r.HasRead config done (charsOf (directivePieces p next) ++ rest) s)
    (hchanges : config.delimiterChanges = true) (hspelled : Spelled s.delimiters p)
    (hp : p.Usable) (hnext : next.Usable) :
    ∃ r' : Run, documentFrom r depth = documentFrom r' depth ∧
      r'.HasRead config (done ++ directivePieces p next) rest
        { s with delimiters := next.inForce } := by
  have hahead : r.HasRead config done (p.opening ++ '=' :: (next.opening ++ ' ' ::
      (next.closing ++ '=' :: (p.closing ++ rest)))) s := by
    simpa [charsOf_directivePieces] using h
  obtain ⟨tag, hcontent, htag⟩ := hahead.content_opening (0 < depth) hspelled.opening hp.opening
    (hspelled.opensFirst hp)
  have hread := htag.directiveTag hchanges hnext.opening hnext.closing hspelled.closing
    (hp.closing.head?_all rest)
  have hne : charsOf (directivePieces p next) ≠ [] := by
    simp [charsOf_directivePieces]
  refine ⟨tag.mustacheTag, ?_, ?_⟩
  · exact h.documentFrom_eq _ rfl hne hread (Nat.le_succ _) (documentStep_content hcontent)
  · rw [List.append_assoc] at hread
    exact hread

/-- The tag of a value is read. -/
theorem HasRead.exists_value (h : r.HasRead config done (charsOf (valuePieces p name) ++ rest) s)
    (hspelled : Spelled s.delimiters p) (hp : p.Usable) (hname : IsNameBefore p.closing name)
    (hdot : p.closing.head? ≠ some '.') :
    ∃ r' : Run, documentFrom r depth = documentFrom r' depth ∧
      r'.HasRead config (done ++ valuePieces p name) rest s := by
  have hahead : r.HasRead config done (p.opening ++ (name ++ (p.closing ++ rest))) s := by
    simpa [charsOf_valuePieces] using h
  obtain ⟨tag, hcontent, htag⟩ := hahead.content_opening (0 < depth) hspelled.opening hp.opening
    (hspelled.opensFirst hp)
  have hread := htag.valueTag hspelled.closing hname hp.closing.1 (hp.closing.head?_all rest) hdot
  have hne : charsOf (valuePieces p name) ≠ [] := by
    simp [charsOf_valuePieces, hp.opening.1]
  refine ⟨tag.mustacheTag, ?_, ?_⟩
  · exact h.documentFrom_eq _ rfl hne hread (Nat.le_succ _) (documentStep_content hcontent)
  · rw [List.append_assoc] at hread
    exact hread

/-- A run comes through a chain. -/
theorem HasRead.exists_chain
    (h : r.HasRead config done (charsOf (chainPieces p name changes) ++ rest) s)
    (hchanges : config.delimiterChanges = true) (hspelled : Spelled s.delimiters p)
    (hp : p.Usable) (husable : ∀ q ∈ changes, q.Usable)
    (hname : IsNameBefore (changes.getLastD p).closing name)
    (hdot : (changes.getLastD p).closing.head? ≠ some '.') :
    ∃ r' : Run, documentFrom r depth = documentFrom r' depth ∧
      r'.HasRead config (done ++ chainPieces p name changes) rest
        { s with delimiters := changes.foldl (fun _ q => q.inForce) s.delimiters } := by
  -- by induction on the directives; each hands its delimiters on to the next
  induction changes generalizing r done s p with
  | nil => exact h.exists_value hspelled hp hname hdot
  | cons next later ih =>
    obtain ⟨hnext, hlater⟩ := List.forall_mem_cons.mp husable
    rw [List.getLastD_cons] at hname hdot
    rw [chainPieces, charsOf_append, List.append_assoc] at h
    obtain ⟨changed, hchanged, hread⟩ := h.exists_directive hchanges hspelled hp hnext
    obtain ⟨r', hr', hlast⟩ := ih hread (spelled_inForce hnext) hnext hlater hname hdot
    refine ⟨r', hchanged.trans hr', ?_⟩
    rw [List.append_assoc] at hlast
    exact hlast

end Chain

end Run

/-! ## Documents -/

theorem foldl_inForce {changes : List DelimiterPair} {last : DelimiterPair}
    (hlast : changes.getLast? = some last) (d : Delimiters) :
    changes.foldl (fun _ q => q.inForce) d = last.inForce := by
  obtain ⟨before, rfl⟩ := List.getLast?_eq_some_iff.mp hlast
  rw [List.foldl_append]
  rfl

theorem usable_builtin : DelimiterPair.builtin.Usable := by
  decide +kernel

theorem spelled_builtin : Spelled {} .builtin where
  opening := openingText_builtin
  closing := closingText_builtin

/-- **Directives compose.**  Where directives may change the delimiters, a chain of them and a value
behind the last one are read as what they are, with no issue: each directive is opened and closed by
the delimiters of the one before it, and those of the last one are in force at the end. -/
theorem parse_chain (config : ScanConfig) (hchanges : config.delimiterChanges = true)
    {changes : List DelimiterPair} {last : DelimiterPair} {name : List Char}
    (hlast : changes.getLast? = some last) (husable : ∀ p ∈ changes, p.Usable)
    (hname : IsNameBefore last.closing name) (hdot : last.closing.head? ≠ some '.') :
    parse config false (String.ofList (charsOf (chainPieces .builtin name changes))) =
        { tokens := tokensFrom 0 (chainPieces .builtin name changes)
          issues := []
          openTags := []
          openSections := [] } ∧
      (run config false
        (String.ofList (charsOf (chainPieces .builtin name changes)))).scanner.state.delimiters =
          { opening := .ofText (String.ofList last.opening)
            closing := .ofText (String.ofList last.closing)
            previousClosing := .builtin } := by
  have hpair : changes.getLastD .builtin = last := by
    rw [List.getLastD_eq_getLast?, hlast]
    rfl
  generalize hpieces : chainPieces .builtin name changes = pieces
  have hstart : (Run.start (.new config) false (String.ofList (charsOf pieces))).HasRead config []
      (charsOf (chainPieces .builtin name changes) ++ []) {} := by
    rw [hpieces, List.append_nil]
    exact Run.hasRead_start config _
  obtain ⟨read, hread, hbehind⟩ :=
    @Run.HasRead.exists_chain _ config [] name [] {} .builtin changes 0
    hstart hchanges spelled_builtin usable_builtin husable (hpair ▸ hname) (hpair ▸ hdot)
  rw [foldl_inForce hlast, hpieces, List.nil_append] at hbehind
  -- behind the value the text is at its end and no element is open
  have hend := hbehind.documentFrom_end
  rw [← hread] at hend
  exact ⟨hend.outcome_finish, congrArg ScanState.delimiters hend.state⟩

/-- Three changes: to delimiters that begin with `<`, to one that opens and closes, and to two of
which one begins with the other. -/
def changesOfThree : List DelimiterPair :=
  [⟨"<%".toList, "%>".toList⟩, ⟨"|".toList, "|".toList⟩, ⟨"[".toList, "[[".toList⟩]

/-- The directives of `changesOfThree` are read, and a value behind them. -/
theorem parse_chain_changesOfThree :
    (∀ p ∈ changesOfThree, p.Usable) ∧
      String.ofList (charsOf (chainPieces .builtin "name".toList changesOfThree)) =
        "\x7B\x7B=<% %>=\x7D\x7D<%=| |=%>|=[ [[=|[name[[" ∧
      parse {} false
          (String.ofList (charsOf (chainPieces .builtin "name".toList changesOfThree))) =
        { tokens := tokensFrom 0 (chainPieces .builtin "name".toList changesOfThree)
          issues := []
          openTags := []
          openSections := [] } := by
  have husable : ∀ p ∈ changesOfThree, p.Usable := by decide +kernel
  have hname : IsNameBefore "[[".toList "name".toList := by decide +kernel
  exact ⟨husable, by decide +kernel, (parse_chain {} rfl rfl husable hname (by decide +kernel)).1⟩

end TemplateScan.Document
