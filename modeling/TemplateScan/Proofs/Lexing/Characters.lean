import TemplateScan.Lexing.ElementName
import TemplateScan.Text.Blank

/-!
# Characters and runs of them

Names are runs of characters of a class, ended by one that is not of it.  No blank is of the class
of tag names, so a name is never passed over with the blanks before it.  A text whose ASCII
upper-case form is made of letters is a tag name, and the tag that it denotes is that of the
upper-case form.
-/

namespace TemplateScan.Lexing

open Text Markup

/-! ## Runs -/

theorem takeWhile_eq_nil {inClass : Char → Bool} {rest : List Char}
    (hrest : rest.head?.all (!inClass ·) = true) : rest.takeWhile inClass = [] := by
  cases rest with
  | nil => rfl
  | cons c later => simp_all

/-- A run ends where the first character comes that is not of the class. -/
theorem takeWhile_append_stop {inClass : Char → Bool} {run rest : List Char}
    (hrun : ∀ c ∈ run, inClass c = true) (hrest : rest.head?.all (!inClass ·) = true) :
    (run ++ rest).takeWhile inClass = run := by
  rw [List.takeWhile_append_of_pos hrun, takeWhile_eq_nil hrest, List.append_nil]

/-- The text ahead is a run of characters of a class, and what does not begin with one. -/
theorem exists_takeWhile_append (inClass : Char → Bool) (ahead : List Char) :
    ∃ rest, ahead = ahead.takeWhile inClass ++ rest ∧ rest.head?.all (!inClass ·) = true := by
  refine ⟨ahead.dropWhile inClass, List.takeWhile_append_dropWhile.symm, ?_⟩
  have hstop := List.head?_dropWhile_not inClass ahead
  cases hhead : (ahead.dropWhile inClass).head? with
  | none => rfl
  | some c =>
    rw [hhead] at hstop
    simpa using hstop

/-- What holds of all characters of a name holds of the first one ahead. -/
theorem head?_all_append {name rest : List Char} {p : Char → Bool} (hne : name ≠ [])
    (hall : ∀ c ∈ name, p c = true) : (name ++ rest).head?.all p = true := by
  obtain ⟨c, more, rfl⟩ := List.exists_cons_of_ne_nil hne
  exact hall c (List.mem_cons_self ..)

/-! ## Characters of names -/

/-- The characters of ASCII are few enough to be tried. -/
theorem forall_ascii {P : Char → Prop} (hall : ∀ n < 0x80, P (Char.ofNat n)) {c : Char}
    (hc : c.toNat < 0x80) : P c := by
  rw [← Char.ofNat_toNat c]
  exact hall _ hc

theorem exists_range_of_inRanges {ranges : List (Nat × Nat)} {n : Nat}
    (h : inRanges ranges n = true) : ∃ range ∈ ranges, range.1 ≤ n ∧ n ≤ range.2 := by
  induction ranges with
  | nil => cases h
  | cons range later ih =>
    simp only [inRanges, Bool.and_eq_true, Bool.or_eq_true, decide_eq_true_eq] at h
    obtain ⟨hfirst, hlast | hlater⟩ := h
    · exact ⟨range, List.mem_cons_self .., hfirst, hlast⟩
    · obtain ⟨found, hmem, hbounds⟩ := ih hlater
      exact ⟨found, List.mem_cons_of_mem _ hmem, hbounds⟩

/-- No blank may stand in a tag name. -/
theorem isNameChar_of_isBlank {c : Char} (hblank : isBlank c = true) : isNameChar c = false := by
  -- the blanks are few enough to be listed
  obtain ⟨range, hmem, hfirst, hlast⟩ := exists_range_of_inRanges hblank
  have hlisted : c.toNat ∈ blankRanges.flatMap fun range =>
      List.range' range.1 (range.2 + 1 - range.1) := by
    rw [List.mem_flatMap]
    refine ⟨range, hmem, ?_⟩
    rw [List.mem_range'_1]
    omega
  have hnone : ∀ n ∈ blankRanges.flatMap fun range => List.range' range.1 (range.2 + 1 - range.1),
      isNameChar (Char.ofNat n) = false := by
    decide +kernel
  rw [← Char.ofNat_toNat c]
  exact hnone _ hlisted

theorem not_isBlank_of_isNameChar {c : Char} (hc : isNameChar c = true) : isBlank c = false := by
  cases hblank : isBlank c with
  | false => rfl
  | true =>
    rw [isNameChar_of_isBlank hblank] at hc
    cases hc

/-! ## Upper and lower case -/

theorem toNat_lt_of_toUpper {c : Char} (h : c.toUpper.toNat < 0x80) : c.toNat < 0x80 := by
  unfold Char.toUpper at h
  split at h
  · next hlower =>
    have hle : c.toNat ≤ 0x7A := hlower.2
    omega
  · exact h

/-- What has the upper-case form of a mark is the mark. -/
theorem eq_of_toUpper {mark c : Char} (hmark : mark.toNat < 0x80)
    (hall : ∀ n < 0x80, (Char.ofNat n).toUpper = mark → Char.ofNat n = mark)
    (hc : c.toUpper = mark) : c = mark := by
  have hlt : c.toNat < 0x80 := toNat_lt_of_toUpper (by rwa [hc])
  exact forall_ascii (P := fun c => c.toUpper = mark → c = mark) hall hlt hc

theorem eq_angle_of_toUpper {c : Char} (hc : c.toUpper = '<') : c = '<' :=
  eq_of_toUpper (by decide) (by decide +kernel) hc

theorem eq_slash_of_toUpper {c : Char} (hc : c.toUpper = '/') : c = '/' :=
  eq_of_toUpper (by decide) (by decide +kernel) hc

theorem isNameChar_of_isUpper_toUpper {c : Char} (hc : c.toUpper.isUpper = true) :
    isNameChar c = true ∧ uppercase c = [c.toUpper] := by
  -- a letter of ASCII comes from one
  have hupper : c.toUpper.toNat < 0x80 := by
    unfold Char.isUpper at hc
    rw [decide_eq_true_eq] at hc
    have hle : c.toUpper.toNat ≤ 0x5A := hc.2
    omega
  have hlt := toNat_lt_of_toUpper hupper
  have hname : c.toUpper.isUpper = true → isNameChar c = true :=
    forall_ascii (P := fun c => c.toUpper.isUpper = true → isNameChar c = true)
      (by decide +kernel) hlt
  exact ⟨hname hc, by rw [uppercase, if_pos hlt]⟩

section Name

variable {name : List Char} {upper : String}

theorem isNameChar_of_map_toUpper (hname : name.map Char.toUpper = upper.toList)
    (hupper : upper.toList.all Char.isUpper = true) : ∀ c ∈ name, isNameChar c = true := by
  intro c hc
  have hmem : c.toUpper ∈ upper.toList := by
    rw [← hname]
    exact List.mem_map_of_mem hc
  exact (isNameChar_of_isUpper_toUpper (List.all_eq_true.mp hupper _ hmem)).1

theorem tagOf_of_map_toUpper (hname : name.map Char.toUpper = upper.toList)
    (hupper : upper.toList.all Char.isUpper = true) : tagOf name = .ofName upper := by
  have hcase : uppercaseAll name = name.map Char.toUpper := by
    have hsingle : ∀ c ∈ name, uppercase c = [c.toUpper] := by
      intro c hc
      have hmem : c.toUpper ∈ upper.toList := by
        rw [← hname]
        exact List.mem_map_of_mem hc
      exact (isNameChar_of_isUpper_toUpper (List.all_eq_true.mp hupper _ hmem)).2
    rw [uppercaseAll, List.map_eq_flatMap, List.flatMap_def, List.flatMap_def,
      List.map_congr_left hsingle]
  rw [tagOf, upperName, hcase, hname, String.ofList_toList]

end Name

end TemplateScan.Lexing
