import TemplateScan.Proofs.Lexing.Characters
import TemplateScan.Text.Quoted

/-!
# Listed text reads back

A listed character is told by its beginning: a backslash, the letter behind it and, for a control,
two digits in braces.  So the characters of a listed text can be taken off one by one, up to the
quote that ends it, and two texts that are listed alike are the same.  All that is written is
printable.

* `takeListed?_append`: listed text begins with what its first character is listed as.
* `listed_inj`: a text is known by its listed form.
* `isPrintable_of_mem_listed`: no control is in a listed text.
-/

namespace TemplateScan.Text

/-- Neither a control nor the delete character. -/
def IsPrintable (c : Char) : Prop :=
  ' ' ≤ c ∧ c ≠ '\x7F'

instance (c : Char) : Decidable (IsPrintable c) :=
  inferInstanceAs (Decidable (' ' ≤ c ∧ c ≠ '\x7F'))

/-! ## Reading -/

/-- The value of an upper-case hexadecimal digit. -/
def digitValue (digit : Char) : Nat :=
  if digit ≤ '9' then digit.toNat - 0x30 else digit.toNat - 0x37

/-- The character that an escape of one letter stands for. -/
def escapedBy : Char → Char
  | 'n' => '\n'
  | 'r' => '\r'
  | 't' => '\t'
  | letter => letter

/-- The character that listed text begins with, and what is behind it; `none` at a quote, which ends
the text. -/
def takeListed? : List Char → Option (Char × List Char)
  | '\\' :: 'u' :: '\x7B' :: high :: low :: '\x7D' :: rest =>
    some (Char.ofNat (16 * digitValue high + digitValue low), rest)
  | '\\' :: letter :: rest => some (escapedBy letter, rest)
  | c :: rest => if c = '"' then none else some (c, rest)
  | [] => none

/-- The two digits of a control give its number. -/
theorem ofNat_digitValue {c : Char} (hc : c < ' ' ∨ c = '\x7F') :
    Char.ofNat (16 * digitValue (Nat.digitChar (c.toNat / 16)).toUpper +
      digitValue (Nat.digitChar (c.toNat % 16)).toUpper) = c := by
  have hlt : c.toNat < 0x80 := by
    rcases hc with hcontrol | rfl
    · have hbelow : c.toNat < ' '.toNat := hcontrol
      exact Nat.lt_trans hbelow (by decide)
    · decide
  exact Lexing.forall_ascii (P := fun c =>
    Char.ofNat (16 * digitValue (Nat.digitChar (c.toNat / 16)).toUpper +
      digitValue (Nat.digitChar (c.toNat % 16)).toUpper) = c) (by decide +kernel) hlt

/-- Listed text begins with what its first character is listed as. -/
theorem takeListed?_append (c : Char) (rest : List Char) :
    takeListed? (listedChar c ++ rest) = some (c, rest) := by
  rw [listedChar]
  split
  · next heq =>
    subst heq
    rfl
  split
  · next heq =>
    subst heq
    rfl
  split
  · next heq =>
    subst heq
    rfl
  split
  · next heq =>
    subst heq
    rfl
  split
  · next heq =>
    subst heq
    rfl
  split
  · next hcontrol =>
    have hvalue := ofNat_digitValue (c := c) (by simpa using hcontrol)
    simp [takeListed?, hvalue]
  · -- a character that is listed as itself is neither a backslash nor a quote
    next hbackslash hquote _ _ _ _ =>
    rw [List.singleton_append]
    unfold takeListed?
    split <;> simp_all

/-- Listed text that goes on with a quote is known up to it. -/
theorem listedChar_inj {chars chars' rest rest' : List Char}
    (heq : chars.flatMap listedChar ++ '"' :: rest = chars'.flatMap listedChar ++ '"' :: rest') :
    chars = chars' := by
  -- a quote is never listed as itself, so reading stops at the first one in both texts alike
  have hquote (rest : List Char) : takeListed? ('"' :: rest) = none := rfl
  have hread := congrArg takeListed? heq
  induction chars generalizing chars' with
  | nil =>
    cases chars' with
    | nil => rfl
    | cons d later =>
      simp only [List.flatMap_cons, List.flatMap_nil, List.append_assoc, List.nil_append, hquote,
        takeListed?_append] at hread
      cases hread
  | cons c chars ih =>
    cases chars' with
    | nil =>
      simp only [List.flatMap_cons, List.flatMap_nil, List.append_assoc, List.nil_append, hquote,
        takeListed?_append] at hread
      cases hread
    | cons d later =>
      simp only [List.flatMap_cons, List.append_assoc, takeListed?_append, Option.some.injEq,
        Prod.mk.injEq] at hread
      obtain ⟨rfl, hlater⟩ := hread
      rw [ih hlater (congrArg takeListed? hlater)]

/-- A text is known by its listed form. -/
theorem listed_inj {chars chars' : List Char} : listed chars = listed chars' ↔ chars = chars' := by
  constructor
  · intro heq
    exact listedChar_inj (List.cons.inj heq).2
  · rintro rfl
    rfl

/-! ## Printing -/

theorem listedChar_of_le {c : Char} (hc : 0x80 ≤ c.toNat) : listedChar c = [c] := by
  have hne (d : Char) (hd : d.toNat < 0x80) : c ≠ d := by
    rintro rfl
    omega
  have hspace : ¬c < ' ' := fun hlt => by
    have hbelow : c.toNat < ' '.toNat := hlt
    exact absurd (Nat.lt_trans hbelow (by decide)) (Nat.not_lt.mpr hc)
  simp [listedChar, hne, hspace]

theorem isPrintable_of_mem_listedChar {c d : Char} (hd : d ∈ listedChar c) : IsPrintable d := by
  rcases Nat.lt_or_ge c.toNat 0x80 with hlt | hle
  · have hall : (listedChar c).all (fun d => decide (IsPrintable d)) = true :=
      Lexing.forall_ascii
        (P := fun c => (listedChar c).all (fun d => decide (IsPrintable d)) = true)
        (by decide +kernel) hlt
    exact of_decide_eq_true (List.all_eq_true.mp hall d hd)
  · rw [listedChar_of_le hle, List.mem_singleton] at hd
    subst hd
    refine ⟨?_, ?_⟩
    · show ' '.toNat ≤ d.toNat
      exact Nat.le_trans (by decide) hle
    · rintro rfl
      exact absurd hle (by decide)

/-- No control is in a listed text. -/
theorem isPrintable_of_mem_listed {c : Char} {chars : List Char} (hc : c ∈ listed chars) :
    IsPrintable c := by
  simp only [listed, List.cons_append, List.mem_cons, List.mem_append, List.mem_flatMap,
    List.not_mem_nil, or_false] at hc
  rcases hc with rfl | ⟨d, -, hmem⟩ | rfl
  · decide
  · exact isPrintable_of_mem_listedChar hmem
  · decide

end TemplateScan.Text
