import TemplateScan.Proofs.Document.Order
import TemplateScan.Proofs.Host.Reading
import TemplateScan.Proofs.Lexing.Overflow

/-!
# Reading a document is safe and ends

A host that reads a document by bytes does what the run does that reads it by characters.  So no
step of it is a fault but for two reasons: no buffer is as large as the snapshots ask for, or a
count that is checked goes over.

* `comes_document`: with a buffer for the snapshots, a host comes to what the run comes to.
* `readWith_of_noRoom`: without one, nothing is read.
* `document_cases`: the document is read step by step, unless one of the two faults is due
  (`Fault.IsDue`).
* `readWith_agrees`: what comes of it is what comes of the run.
* `readWith_inOrder`: what is found comes in order.
* `readWith_completes`: each step that goes on gets closer to the end, and so does each step of the
  inner loops.
-/

namespace TemplateScan.Document

open Text TokenSet Lexing

/-! ## Counts -/

namespace Run

variable {text : List Char} {r last : Run}

/-- Where the dashes of a text can be counted, no count goes over in it. -/
theorem Walks.overflowed_eq_false (hwalk : Walks r last) (hfit : DashesFit text)
    (hover : r.IsOver text) (hr : r.overflowed = false) : last.overflowed = false := by
  have hboth : last.IsOver text ∧ last.overflowed = false := by
    refine hwalk.keeps (P := fun r => r.IsOver text ∧ r.overflowed = false) ?_ ⟨hover, hr⟩
    rintro r next hmove ⟨hover, hr⟩
    refine ⟨hmove.isOver hover, ?_⟩
    cases hmove with
    | advance | toEnd | raise => exact hr
    | scan =>
      -- what a scan reads is a stretch of the text, so its dashes can be counted too
      obtain ⟨before, hsplit, -⟩ := hover.place
      have hahead : DashesFit r.place.ahead :=
        hfit.of_isInfix (List.IsSuffix.isInfix ⟨before, hsplit.symm⟩)
      rw [overflowed_scan, hr, Bool.false_or]
      exact overflowed_read _ _ _ hahead
  exact hboth.2

end Run

/-! ## Hosts and runs -/

namespace Host

variable {text : String} {checked : Bool} {h : Host text} {r : Run}

theorem follows_start (scanner : Scanner) (checkpoint checked : Bool) (text : String)
    (hroom : checkpoint = true → scanner.config.capacity ≤ maxBufferBytes) :
    Follows checked (.start scanner checkpoint checked text) (.start scanner checkpoint text) where
  isOver := Run.isOver_start scanner checkpoint text
  pos := rfl
  scanner := rfl
  checkpoint := rfl
  checks := rfl
  tokens := rfl
  issues := rfl
  trace := rfl
  room := hroom
  spared := Bool.and_false _

theorem Follows.finish (hf : Follows checked h r) : Follows checked h.finish r.finish :=
  { hf with
    isOver := ⟨hf.isOver.size, hf.isOver.place⟩
    trace := by
      show _ :: h.trace = _ :: r.trace
      rw [hf.trace, hf.tokens, hf.issues, hf.scanner] }

theorem Follows.outcome_eq (hf : Follows checked h r) : h.outcome = r.outcome := by
  rw [Host.outcome, Run.outcome, hf.tokens, hf.issues, hf.scanner]

/-- Where no count goes over that is checked, there is a result. -/
theorem Comes.exists_ok {α : Type} {last : Run} {Q : α → Prop} {x : Except Fault α}
    (hx : Comes checked last Q x) (hcounts : checked = true → last.overflowed = false) :
    ∃ a, x = .ok a ∧ Q a := by
  rcases hx.cases with ⟨a, ha, -, hQ⟩ | ⟨-, hover⟩
  · exact ⟨a, ha, hQ⟩
  · obtain ⟨hchecked, hover⟩ := Bool.and_eq_true_iff.mp hover
    rw [hcounts hchecked] at hover
    cases hover

end Host

section ReadWith

variable (scanner : Scanner) (checkpoint checked : Bool) (text : String)

/-- A host comes to what the run comes to, as long as there is a buffer for the snapshots. -/
theorem comes_document (hroom : checkpoint = true → scanner.config.capacity ≤ maxBufferBytes) :
    Host.Comes checked (runWith scanner checkpoint text)
      (fun last => Host.Follows checked last.finish (runWith scanner checkpoint text))
      (Host.start scanner checkpoint checked text).document := by
  have hdocument := (Host.follows_start scanner checkpoint checked text hroom).document.1
  exact hdocument.mono fun _ hlast => hlast.finish

theorem overflowed_runWith (hfit : DashesFit text.toList) :
    (runWith scanner checkpoint text).overflowed = false :=
  (Run.acts_document.walks _).overflowed_eq_false hfit
    (Run.isOver_start scanner checkpoint text) rfl

/-- Without a buffer for the snapshots, the first scan is a fault. -/
theorem documentStep_of_noRoom (hnoRoom : maxBufferBytes < scanner.config.capacity) :
    Host.documentStep (.start scanner true checked text, 0) = .error .capacityOverflow := by
  have hhere : (Host.start scanner true checked text).here = .ok (Boundary.start text) := by
    have hseek : (Host.start scanner true checked text).near.seek?
        (Host.start scanner true checked text).pos = some (.start text) :=
      Boundary.seek?_offset (.start text) (.start text)
    rw [Host.here, hseek]
  have hscan : ∀ {h : Host text}, h.scanner = scanner → h.checkpoint = true → ∀ valid,
      h.scan valid = .error .capacityOverflow := by
    intro h hscanner hcheckpoint valid
    rw [Host.scan, Host.beforeScan, if_pos hcheckpoint, Host.roundTrip, hscanner, resize,
      if_pos hnoRoom]
    rfl
  -- blanks are passed over without a scan, so the first scan is the one for content
  have hcontent : (Host.start scanner true checked text).content (0 < 0) =
      .error .capacityOverflow := by
    rw [Host.content, Host.skipBlanks, Host.takeWhile, hhere, ok_bind]
    change (Host.scan _ _ >>= _) = _
    rw [hscan rfl rfl]
    rfl
  rw [Host.documentStep, hcontent]
  rfl

theorem document_of_noRoom (hnoRoom : maxBufferBytes < scanner.config.capacity) :
    (Host.start scanner true checked text).document = .error .capacityOverflow := by
  rw [Host.document, repeatStep_eq_bind, documentStep_of_noRoom scanner checked text hnoRoom]
  rfl

theorem readWith_of_noRoom (hnoRoom : maxBufferBytes < scanner.config.capacity) :
    readWith scanner true checked text = .error .capacityOverflow := by
  rw [readWith, document_of_noRoom scanner checked text hnoRoom]
  rfl

/-- What the text and the settings of a host tell of a fault: snapshots of a capacity that no buffer
has, or, where it is checked that no count goes over, more dashes in a row than can be counted. -/
def Fault.IsDue : Fault → Prop
  | .capacityOverflow => checkpoint = true ∧ maxBufferBytes < scanner.config.capacity
  | .countOverflow => checked = true ∧ ¬DashesFit text.toList
  | _ => False

/-- Where the dashes that can be counted let no count go over, the fault of one that has is due. -/
theorem Host.Comes.isDue {α : Type} {last : Run} {Q : α → Prop} {x : Except Fault α}
    (hx : Comes checked last Q x) (hcounts : DashesFit text.toList → last.overflowed = false)
    {fault : Fault} (hfault : x = .error fault) : fault.IsDue scanner checkpoint checked text := by
  rcases hx.cases with ⟨a, hok, -⟩ | ⟨herror, hover⟩
  · cases hok.symm.trans hfault
  · obtain rfl := Except.error.inj (herror.symm.trans hfault)
    obtain ⟨hchecked, hover⟩ := Bool.and_eq_true_iff.mp hover
    refine ⟨hchecked, fun hfit => ?_⟩
    rw [hcounts hfit] at hover
    cases hover

/-- A host reads what the run reads, step by step closer to the end, unless a fault is due. -/
theorem document_cases :
    Completes Host.Closer Host.documentStep (.start scanner checkpoint checked text, 0)
        (Host.start scanner checkpoint checked text).document ∧
      ((∃ last : Host text, readWith scanner checkpoint checked text = .ok last.finish ∧
          Host.Follows checked last.finish (runWith scanner checkpoint text)) ∨
        ∃ fault, readWith scanner checkpoint checked text = .error fault ∧
          fault.IsDue scanner checkpoint checked text) := by
  by_cases hnoRoom : checkpoint = true ∧ maxBufferBytes < scanner.config.capacity
  · obtain ⟨rfl, hless⟩ := hnoRoom
    refine ⟨?_, Or.inr ⟨_, readWith_of_noRoom scanner checked text hless, rfl, hless⟩⟩
    rw [document_of_noRoom scanner checked text hless]
    exact .fault (documentStep_of_noRoom scanner checked text hless)
  have hroom : checkpoint = true → scanner.config.capacity ≤ maxBufferBytes :=
    fun hcheckpoint => Nat.le_of_not_lt fun hless => hnoRoom ⟨hcheckpoint, hless⟩
  refine ⟨(Host.follows_start scanner checkpoint checked text hroom).document.2, ?_⟩
  have hcomes := comes_document scanner checkpoint checked text hroom
  rcases hcomes.cases with ⟨last, hread, -, hlast⟩ | ⟨hfault, -⟩
  · exact Or.inl ⟨last, by rw [readWith, hread]; rfl, hlast⟩
  · refine Or.inr ⟨.countOverflow, by rw [readWith, hfault]; rfl, ?_⟩
    exact hcomes.isDue _ _ _ _ (overflowed_runWith scanner checkpoint text) hfault

/-- **A host agrees with a run.**  Unless a fault is due, what a host knows of a document, what has
happened in the reading and the scanner that it leaves are those of the run. -/
theorem readWith_agrees :
    (∃ h, readWith scanner checkpoint checked text = .ok h ∧
        h.outcome = (runWith scanner checkpoint text).outcome ∧
        h.events = (runWith scanner checkpoint text).events ∧
        h.scanner = (runWith scanner checkpoint text).scanner) ∨
      ∃ fault, readWith scanner checkpoint checked text = .error fault ∧
        fault.IsDue scanner checkpoint checked text := by
  rcases (document_cases scanner checkpoint checked text).2 with ⟨last, hread, hf⟩ | hfault
  · exact Or.inl ⟨_, hread, hf.outcome_eq, congrArg List.reverse hf.trace, hf.scanner⟩
  · exact Or.inr hfault

end ReadWith

/-! ## Safety -/

/-- **Reading a document is safe and its tokens come in order.**  Whatever the scanner and whatever
the text, with snapshots before the scans or without, the document is read unless a fault is due: a
host looks at the text and scans at character boundaries only, no token ends before it begins, and
the tokens and the issues that are found come in order. -/
theorem readWith_inOrder (scanner : Scanner) (checkpoint checked : Bool) (text : String) :
    (∃ h, readWith scanner checkpoint checked text = .ok h ∧ h.outcome.InOrder text) ∨
      ∃ fault, readWith scanner checkpoint checked text = .error fault ∧
        fault.IsDue scanner checkpoint checked text := by
  rcases readWith_agrees scanner checkpoint checked text with ⟨h, hread, houtcome, -⟩ | hfault
  · refine Or.inl ⟨h, hread, ?_⟩
    rw [houtcome]
    exact inOrder_runWith scanner checkpoint text
  · exact Or.inr hfault

/-- No buffer is as large as a capacity of 2⁶³ bytes asks for. -/
theorem readWith_not_inOrder :
    ¬∀ (scanner : Scanner) (checkpoint checked : Bool) (text : String),
      ∃ h, readWith scanner checkpoint checked text = .ok h ∧ h.outcome.InOrder text := by
  intro hall
  obtain ⟨h, hread, -⟩ := hall (.new { capacity := maxBufferBytes + 1 }) true true "x"
  rw [readWith_of_noRoom _ _ _ (by decide)] at hread
  cases hread

/-! ## Ends -/

namespace Host

variable {text : String}

/-- A host is at a character boundary, and there is a buffer for the snapshots. -/
structure Sound (h : Host text) : Prop where
  boundary : IsBoundary text.toList h.pos
  room : h.checkpoint = true → h.scanner.config.capacity ≤ maxBufferBytes

/-- Such a host follows a run. -/
theorem Sound.exists_follows {h : Host text} (hsound : h.Sound) :
    ∃ r : Run, Follows h.checked h r ∧ r.overflowed = false := by
  obtain ⟨p, hp, hoffset⟩ := hsound.boundary
  -- the run at the boundary, in which no count has gone over yet
  let r : Run := {
    size := text.utf8ByteSize
    checkpoint := h.checkpoint
    place := p
    scanner := h.scanner
    tokens := h.tokens
    issues := h.issues
    trace := h.trace }
  refine ⟨r, ?_, rfl⟩
  exact {
    isOver := ⟨(Utf8.byteLength_toList text).symm, hp⟩
    pos := hoffset.symm
    scanner := rfl
    checkpoint := rfl
    checks := rfl
    tokens := rfl
    issues := rfl
    trace := rfl
    room := hsound.room
    spared := Bool.and_false _ }

end Host

/-- **Reading a document ends.**  Whatever the scanner and whatever the text, with snapshots before
the scans or without, the steps of a host through the document come to an end: each step that goes
on gets further, or stays where it is and closes an element.  From wherever a host is, so do its
steps through the attributes of a tag and those of a path, each of which gets further.  What they
end with is a result, unless a fault is due. -/
theorem readWith_completes (scanner : Scanner) (checkpoint checked : Bool) (text : String) :
    (Completes Host.Closer Host.documentStep (.start scanner checkpoint checked text, 0)
        (Host.start scanner checkpoint checked text).document ∧
      ∀ fault, readWith scanner checkpoint checked text = .error fault →
        fault.IsDue scanner checkpoint checked text) ∧
      ∀ h : Host text, h.Sound →
        (Completes Host.Further Host.attributeStep h h.attributes ∧
          Completes Host.Further Host.pathStep h h.path) ∧
          ∀ fault, h.attributes = .error fault ∨ h.path = .error fault →
            fault.IsDue h.scanner h.checkpoint h.checked text := by
  constructor
  · obtain ⟨hcompletes, hcases⟩ := document_cases scanner checkpoint checked text
    refine ⟨hcompletes, fun fault hfault => ?_⟩
    rcases hcases with ⟨last, hread, -⟩ | ⟨due, hread, hdue⟩
    · cases hread.symm.trans hfault
    · obtain rfl := Except.error.inj (hread.symm.trans hfault)
      exact hdue
  · intro h hsound
    obtain ⟨r, hf, hr⟩ := hsound.exists_follows
    obtain ⟨hattributes, hattributesEnd⟩ := hf.attributes_completes
    obtain ⟨hpath, hpathEnd⟩ := hf.path_completes
    have hcounts : ∀ {last : Run}, Run.Walks r last → DashesFit text.toList →
        last.overflowed = false :=
      fun hwalk hfit => hwalk.overflowed_eq_false hfit hf.isOver hr
    refine ⟨⟨hattributesEnd, hpathEnd⟩, ?_⟩
    rintro fault (hfault | hfault)
    · exact hattributes.isDue _ _ _ _ (hcounts (Run.procedure_attributes.walks r)) hfault
    · exact hpath.isDue _ _ _ _ (hcounts ((Run.acts_path (p := Unrestricted)).walks r)) hfault

/-- The rest of a tag with a mustache tag among its attributes, and its content. -/
def restOfTag : String :=
  " class='a' \x7b\x7bb.c\x7d\x7d>x</p>"

/-- The loops over attributes and over a path come to an end on it, with results. -/
theorem readWith_completes_restOfTag :
    (Host.start (.new {}) true true restOfTag).Sound ∧ DashesFit restOfTag.toList ∧
      Completes Host.Further Host.attributeStep (.start (.new {}) true true restOfTag)
        (Host.start (.new {}) true true restOfTag).attributes ∧
      Completes Host.Further Host.pathStep (.start (.new {}) true true restOfTag)
        (Host.start (.new {}) true true restOfTag).path ∧
      ∀ fault, (Host.start (.new {}) true true restOfTag).attributes ≠ .error fault ∧
        (Host.start (.new {}) true true restOfTag).path ≠ .error fault := by
  have hsound : (Host.start (.new {}) true true restOfTag).Sound :=
    ⟨(Place.isIn_start _).isBoundary, fun _ => by decide⟩
  have hfit : DashesFit restOfTag.toList := dashesFit_of_length (by decide)
  obtain ⟨⟨hattributes, hpath⟩, hdue⟩ :=
    (readWith_completes (.new {}) true true restOfTag).2 _ hsound
  have hnoFault : ∀ fault : Fault, ¬fault.IsDue (.new {}) true true restOfTag := by
    intro fault hfault
    cases fault with
    | capacityOverflow => exact absurd hfault.2 (by decide)
    | countOverflow => exact hfault.2 hfit
    | _ => exact hfault
  refine ⟨hsound, hfit, hattributes, hpath, fun fault => ⟨?_, ?_⟩⟩
  · exact fun hfault => hnoFault fault (hdue fault (Or.inl hfault))
  · exact fun hfault => hnoFault fault (hdue fault (Or.inr hfault))

/-- With a capacity of 2⁶³ bytes, the first step through a document is a fault. -/
theorem readWith_not_completes :
    ¬∀ (scanner : Scanner) (checkpoint checked : Bool) (text : String),
      ∃ last, readWith scanner checkpoint checked text = .ok last.finish ∧
        Completes Host.Closer Host.documentStep (.start scanner checkpoint checked text, 0)
          (.ok last) := by
  intro hall
  obtain ⟨last, hread, -⟩ := hall (.new { capacity := maxBufferBytes + 1 }) true true "x"
  rw [readWith_of_noRoom _ _ _ (by decide)] at hread
  cases hread

end TemplateScan.Document
