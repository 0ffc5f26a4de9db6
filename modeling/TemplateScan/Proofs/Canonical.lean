import TemplateScan.Proofs.Document.MustacheScan
import TemplateScan.Proofs.Document.Separation
import TemplateScan.Proofs.Replay

/-!
# Canonical states

What a scanner puts into its state has been read off a text, so it has the form that the recognizers
let through: no name is empty, no name of a section and no delimiter has a blank in it, and a tag is
the one that its name denotes.  Whatever is asked of a scanner from the beginning of a document on,
its state stays of this form.

* `Tag.IsCanonical`, `IsBlankless`, `Delimiter.IsCanonical`: the forms of what a state consists of.
* `Lexing.read_isCanonical`: every finding carries something of this form.
* `ScanState.IsCanonical.apply`: one token keeps a state canonical.
* `ScanState.IsReached`: the states that any scans and resets lead to; `isCanonical_performAll`:
  they are canonical.
* `ScanState.forms_of_isReached`: what this says of the names and the delimiters.
-/

namespace TemplateScan

open Text Markup Mustache

/-! ## Forms -/

/-- The tag that its own name denotes. -/
def Markup.Tag.IsCanonical (tag : Tag) : Prop :=
  tag.name ≠ "" ∧ Tag.ofName tag.name = tag

/-- A name without blanks. -/
def IsBlankless (name : String) : Prop :=
  name ≠ "" ∧ ∀ c ∈ name.toList, isBlank c = false

/-- The built-in delimiter, or one that a directive can set. -/
def Mustache.Delimiter.IsCanonical : Delimiter → Prop
  | .builtin => True
  | .custom text _ => Document.IsDelimiterText text.toList

/-- Nothing in the state but what can have been read off a text. -/
structure ScanState.IsCanonical (s : ScanState) : Prop where
  tags : ∀ tag ∈ s.tags.toList, tag.IsCanonical
  sections : ∀ name ∈ s.sections.toList, IsBlankless name
  opening : s.delimiters.opening.IsCanonical
  closing : s.delimiters.closing.IsCanonical
  previousClosing : s.delimiters.previousClosing.IsCanonical

/-- What a finding carries has the form that it has in a canonical state. -/
def Finding.IsCanonical : Finding → Prop
  | .startTag tag => tag.IsCanonical
  | .sectionStart name => IsBlankless name
  | .newOpening spelling | .newClosing spelling => Document.IsDelimiterText spelling.toList
  | _ => True

/-! ## Tags -/

namespace Markup.Tag

variable {tag tag' : Tag}

/-- Canonical tags are told apart by their names. -/
theorem IsCanonical.eq_iff (hcanonical : tag.IsCanonical) (hcanonical' : tag'.IsCanonical) :
    tag = tag' ↔ tag.name = tag'.name := by
  constructor
  · exact congrArg name
  · intro hname
    rw [← hcanonical.2, ← hcanonical'.2, hname]

/-- A canonical tag is custom only if no element of HTML has its name. -/
theorem IsCanonical.name_ne {text : String} (hcanonical : (custom text).IsCanonical) (e : Element) :
    e.name ≠ text := by
  rintro rfl
  have hofName := hcanonical.2
  rw [show (custom e.name).name = (known e).name from rfl, ofName_name_known] at hofName
  cases hofName

/-- A tag made of a name has it as its own. -/
theorem isCanonical_ofName {text : String} (hne : text ≠ "") : (ofName text).IsCanonical := by
  rw [IsCanonical, name_ofName]
  exact ⟨hne, rfl⟩

end Markup.Tag

/-! ## Findings -/

namespace Lexing

theorem upperName_ne {text : List Char} (htext : text ≠ []) : upperName text ≠ "" := by
  obtain ⟨c, rest, rfl⟩ := List.exists_cons_of_ne_nil htext
  rw [upperName, ne_eq, String.ofList_eq_empty_iff, uppercaseAll, List.flatMap_cons,
    List.append_eq_nil_iff]
  exact fun hnil => uppercase_ne_nil c hnil.1

theorem isCanonical_tagOf {text : List Char} (htext : text ≠ []) : (tagOf text).IsCanonical :=
  Tag.isCanonical_ofName (upperName_ne htext)

section Recognizers

variable {ahead : List Char}

/-- The characters up to a blank or `=` make a delimiter, if there are any. -/
theorem isDelimiterText_takeWhile
    (hne : ahead.takeWhile (fun c => !(isBlank c || c == '=')) ≠ []) :
    Document.IsDelimiterText
      (String.ofList (ahead.takeWhile fun c => !(isBlank c || c == '='))).toList := by
  rw [String.toList_ofList]
  refine ⟨hne, ?_⟩
  intro c hc
  simpa using List.mem_takeWhile_imp hc

theorem isCanonical_newOpening : (newOpening ahead).finding.IsCanonical := by
  rw [newOpening]
  split
  · trivial
  · next htext =>
    rw [Bool.or_eq_true, not_or, List.isEmpty_iff] at htext
    exact isDelimiterText_takeWhile htext.1

theorem isCanonical_newClosing : (newClosing ahead).finding.IsCanonical := by
  rw [newClosing]
  split
  · trivial
  · next htext =>
    rw [Bool.or_eq_true, not_or, List.isEmpty_iff] at htext
    exact isDelimiterText_takeWhile htext.1

theorem isCanonical_sectionStart (d : Delimiters) : (sectionStart d ahead).finding.IsCanonical := by
  rw [sectionStart]
  split
  · trivial
  · next hname =>
    rw [List.isEmpty_iff] at hname
    refine ⟨?_, ?_⟩
    · rwa [ne_eq, String.ofList_eq_empty_iff]
    · rw [String.toList_ofList]
      intro c hc
      have hclass := List.mem_takeWhile_imp hc
      simp only [Bool.not_eq_true', Bool.or_eq_false_iff] at hclass
      exact hclass.1

/-- A finding that is not made of a part of a mustache tag carries at most a tag. -/
theorem isCanonical_of_mustachePart?_eq_none {config : ScanConfig} {s : ScanState}
    {valid : TokenSet} {finding : Finding} {text : List Char}
    (hnone : mustachePart? config s valid ahead = none) (htells : finding.Tells s text)
    (hadmitted : finding.Admitted valid) : finding.IsCanonical := by
  have hcontains := contains_of_mustachePart?_eq_none hnone
  simp only [List.forall_mem_cons] at hcontains
  cases finding with
  | startTag tag =>
    obtain ⟨htext, rfl⟩ := htells
    exact isCanonical_tagOf htext
  | newOpening | newClosing | sectionStart => simp_all [Finding.Admitted]
  | _ => trivial

/-- A part of a mustache tag carries only what it is made of. -/
theorem isCanonical_mustachePart? {config : ScanConfig} {s : ScanState} {valid : TokenSet}
    {r : Reading} (hpart : mustachePart? config s valid ahead = some r) :
    r.finding.IsCanonical := by
  have hdelimiter (finding : Finding) (literal : List Char) (hfinding : finding.IsCanonical) :
      (delimiter finding literal ahead).finding.IsCanonical := by
    rw [delimiter]
    split
    · exact hfinding
    · trivial
  -- only new delimiters and names of sections put something into the state
  rw [mustachePart?] at hpart
  split at hpart
  · obtain rfl := Option.some.inj hpart
    split
    · exact isCanonical_newOpening
    · trivial
  split at hpart
  · obtain rfl := Option.some.inj hpart
    split
    · exact isCanonical_newClosing
    · trivial
  split at hpart
  · obtain rfl := Option.some.inj hpart
    exact hdelimiter _ _ trivial
  split at hpart
  · obtain rfl := Option.some.inj hpart
    rw [mustacheComment]
    split <;> trivial
  split at hpart
  · obtain rfl := Option.some.inj hpart
    rw [identifier]
    split <;> trivial
  split at hpart
  · obtain rfl := Option.some.inj hpart
    exact isCanonical_sectionStart s.delimiters
  split at hpart
  · obtain rfl := Option.some.inj hpart
    rw [sectionEnd]
    split
    · trivial
    · split <;> trivial
  split at hpart
  · obtain rfl := Option.some.inj hpart
    exact hdelimiter _ _ trivial
  · cases hpart

end Recognizers

/-- Whatever is found carries only what can be in a canonical state. -/
theorem read_isCanonical (config : ScanConfig) (s : ScanState) (valid : TokenSet)
    (ahead : List Char) : (read config s valid ahead).finding.IsCanonical := by
  rw [read]
  split
  · -- raw text carries nothing
    rw [rawText]
    split <;> trivial
  dsimp only
  generalize ahead.drop (ahead.takeWhile isBlank).length = ahead
  have hholds := @holds_atToken s valid ahead config
  cases hpart : mustachePart? config s valid ahead with
  | some reading =>
    rw [atToken, hpart]
    exact isCanonical_mustachePart? hpart
  | none => exact isCanonical_of_mustachePart?_eq_none hpart hholds.tells hholds.admitted

end Lexing

/-! ## States -/

theorem Nesting.mem_of_mem_pop {α : Type} {scopes : Nesting α} {scope : α}
    (hscope : scope ∈ scopes.pop.toList) : scope ∈ scopes.toList := by
  rw [toList, List.mem_reverse] at hscope ⊢
  exact List.mem_of_mem_tail hscope

theorem Mustache.Delimiter.isCanonical_ofText {text : String}
    (htext : Document.IsDelimiterText text.toList) : (ofText text).IsCanonical := by
  rw [ofText]
  split
  · trivial
  · exact htext

namespace ScanState

theorem isCanonical_fresh : fresh.IsCanonical where
  tags := by
    intro tag htag
    cases htag
  sections := by
    intro name hname
    cases hname
  opening := trivial
  closing := trivial
  previousClosing := trivial

/-- A token whose finding carries something canonical keeps the state canonical. -/
theorem IsCanonical.apply {s : ScanState} {finding : Finding} (hs : s.IsCanonical)
    (hfinding : finding.IsCanonical) : (finding.apply s).IsCanonical := by
  have hpush {α : Type} {P : α → Prop} {scopes : Nesting α} {scope : α}
      (hscopes : ∀ x ∈ scopes.toList, P x) (hscope : P scope) :
      ∀ x ∈ (scopes.push scope).toList, P x := by
    rw [Nesting.toList_push, List.forall_mem_append]
    exact ⟨hscopes, List.forall_mem_singleton.mpr hscope⟩
  cases finding with
  | startTag tag => exact { hs with tags := hpush hs.tags hfinding }
  | endTag | selfClosing | implicitEnd =>
    exact { hs with tags := fun tag htag => hs.tags tag (Nesting.mem_of_mem_pop htag) }
  | sectionStart name => exact { hs with sections := hpush hs.sections hfinding }
  | sectionEnd =>
    exact { hs with
      sections := fun name hname => hs.sections name (Nesting.mem_of_mem_pop hname) }
  | newOpening spelling => exact { hs with opening := Delimiter.isCanonical_ofText hfinding }
  | newClosing spelling =>
    -- the delimiter in force before was canonical, too
    exact { hs with
      closing := Delimiter.isCanonical_ofText hfinding
      previousClosing := hs.closing }
  | directiveEnd => exact { hs with previousClosing := trivial }
  | _ => exact hs

end ScanState

/-! ## Scanners -/

/-- What can be asked of a scanner: a scan with some settings, or to begin again. -/
inductive ScannerAction where
  | scan (config : ScanConfig) (request : ScanRequest)
  | reset

namespace Scanner

/-- The scanner after an action. -/
def perform (s : Scanner) : ScannerAction → Scanner
  | .scan config request => { s with config }.answer request
  | .reset => s.reset

/-- The scanner after some actions, one after the other. -/
def performAll (s : Scanner) (actions : List ScannerAction) : Scanner :=
  actions.foldl perform s

theorem isCanonical_perform {s : Scanner} (hs : s.state.IsCanonical) (action : ScannerAction) :
    (s.perform action).state.IsCanonical := by
  cases action with
  | scan config request => exact hs.apply (Lexing.read_isCanonical _ _ _ _)
  | reset => exact ScanState.isCanonical_fresh

theorem isCanonical_performAll {s : Scanner} (hs : s.state.IsCanonical)
    (actions : List ScannerAction) : (s.performAll actions).state.IsCanonical := by
  induction actions generalizing s with
  | nil => exact hs
  | cons action actions ih => exact ih (isCanonical_perform hs action)

end Scanner

/-- A state that a scanner has after some actions from the beginning of a document on. -/
def ScanState.IsReached (s : ScanState) : Prop :=
  ∃ config actions, s = ((Scanner.new config).performAll actions).state

namespace ScanState

theorem IsReached.isCanonical {s : ScanState} (hs : s.IsReached) : s.IsCanonical := by
  obtain ⟨config, actions, rfl⟩ := hs
  exact Scanner.isCanonical_performAll isCanonical_fresh actions

/-- **Reachable states are canonical.**  Whatever scans of whatever texts and whatever resets a
scanner has gone through since the beginning of a document: every open element has a name and is the
tag that its name denotes, so that names tell the open elements apart, none is custom that HTML has
a name for, and none that HTML has a name for is stored as a custom one; every open section has a
name without blanks; and every delimiter that is not the built-in one is a text without blanks and
`=`. -/
theorem forms_of_isReached {s : ScanState} (hs : s.IsReached) :
    (∀ tag ∈ s.tags.toList, tag.name ≠ "" ∧ Tag.ofName tag.name = tag) ∧
      (∀ tag ∈ s.tags.toList, ∀ tag' ∈ s.tags.toList, tag = tag' ↔ tag.name = tag'.name) ∧
      (∀ e, .known e ∈ s.tags.toList → (Tag.known e).byte ≠ Tag.customByte) ∧
      (∀ name, .custom name ∈ s.tags.toList → ∀ e : Element, e.name ≠ name) ∧
      (∀ name ∈ s.sections.toList, name ≠ "" ∧ ∀ c ∈ name.toList, isBlank c = false) ∧
      ∀ slot ∈ [s.delimiters.opening, s.delimiters.closing, s.delimiters.previousClosing],
        ∀ text text_ne, slot = .custom text text_ne →
          text ≠ "" ∧ ∀ c ∈ text.toList, isBlank c = false ∧ c ≠ '=' := by
  have hcanonical := hs.isCanonical
  refine ⟨hcanonical.tags, ?_, ?_, ?_, hcanonical.sections, ?_⟩
  · intro tag htag tag' htag'
    exact (hcanonical.tags tag htag).eq_iff (hcanonical.tags tag' htag')
  · intro e _
    exact Snapshot.byte_ne_customByte e
  · intro name hname
    exact (hcanonical.tags _ hname).name_ne
  · have hform {slot : Delimiter} (hslot : slot.IsCanonical) (text : String) (text_ne : text ≠ "")
        (htext : slot = .custom text text_ne) :
        text ≠ "" ∧ ∀ c ∈ text.toList, isBlank c = false ∧ c ≠ '=' := by
      subst htext
      exact ⟨text_ne, hslot.2⟩
    simp only [List.forall_mem_cons, List.not_mem_nil, false_imp_iff, implies_true, and_true]
    exact ⟨hform hcanonical.opening, hform hcanonical.closing, hform hcanonical.previousClosing⟩

end ScanState

/-- A scan at the beginning of a text, for a token of one kind. -/
def ScannerAction.scanStart (config : ScanConfig) (text : String) (kind : TokenKind) :
    ScannerAction :=
  .scan config ⟨text.toList, .singleton kind, .start text.toList, Place.isIn_start _⟩

/-- Scans before and after a reset, of which one may not set a delimiter and another one may. -/
def variedActions : List ScannerAction :=
  [.scanStart {} "p>" .startTagName, .reset, .scanStart {} "div>" .startTagName,
    .scanStart {} "x-a>" .startTagName, .scanStart {} " é b" .mustacheSectionName,
    .scanStart { delimiterChanges := false } "[[ " .mustacheSetStartDelimiter,
    .scanStart {} "<% %>=" .mustacheSetStartDelimiter]

/-- The state that `variedActions` lead to has something of each sort. -/
def ScanState.varied : ScanState where
  tags := .ofList [.known .div, .custom "X-A"]
  sections := .ofList ["é"]
  delimiters := { opening := .ofText "<%" }

theorem ScanState.forms_of_varied :
    varied.IsReached ∧ (∀ tag ∈ varied.tags.toList, tag.name ≠ "" ∧ Tag.ofName tag.name = tag) ∧
      ∀ name ∈ varied.sections.toList, name ≠ "" ∧ ∀ c ∈ name.toList, isBlank c = false := by
  have hreached : varied.IsReached := ⟨{}, variedActions, by decide +kernel⟩
  obtain ⟨htags, -, -, -, hsections, -⟩ := forms_of_isReached hreached
  exact ⟨hreached, htags, hsections⟩

end TemplateScan
