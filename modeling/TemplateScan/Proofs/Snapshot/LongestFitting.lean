import Mathlib.Data.Nat.Find
import TemplateScan.Snapshot.Encoding

/-!
# What fits into a snapshot

Two parts of a snapshot are cut to a budget: a name to the bytes that its length can tell of, and a
nesting to the bytes that the other parts leave.  Both are cut to the longest beginning that fits.

* `longestFitting`: the longest beginning of a list that fits, said without going through the list.
* `clip_eq_longestFitting`, `fill_eq_longestFitting`: the two ways of cutting keep just this
  beginning.
-/

namespace TemplateScan.Snapshot

open Text

/-! ## The longest beginning that fits -/

section LongestFitting

variable {α : Type} {size : α → Nat} {budget : Nat} {xs ys : List α}

/-- The bytes that the members of a list take together. -/
def totalSize (size : α → Nat) (xs : List α) : Nat :=
  xs.foldr (fun x bytes => size x + bytes) 0

@[simp] theorem totalSize_nil : totalSize size [] = 0 := rfl

@[simp] theorem totalSize_cons (x : α) :
    totalSize size (x :: xs) = size x + totalSize size xs := rfl

/-- The longest beginning of a list whose members take at most `budget` bytes together. -/
def longestFitting (size : α → Nat) (budget : Nat) (xs : List α) : List α :=
  xs.take (Nat.findGreatest (fun n => totalSize size (xs.take n) ≤ budget) xs.length)

theorem longestFitting_isPrefix (size : α → Nat) (budget : Nat) (xs : List α) :
    longestFitting size budget xs <+: xs :=
  List.take_prefix _ _

theorem totalSize_longestFitting_le (size : α → Nat) (budget : Nat) (xs : List α) :
    totalSize size (longestFitting size budget xs) ≤ budget := by
  have hzero : totalSize size (xs.take 0) ≤ budget := by simp
  exact Nat.findGreatest_spec (P := fun n => totalSize size (xs.take n) ≤ budget)
    (Nat.zero_le _) hzero

/-- No longer beginning fits. -/
theorem isPrefix_longestFitting (hpre : ys <+: xs) (hfits : totalSize size ys ≤ budget) :
    ys <+: longestFitting size budget xs := by
  -- both are cut from the front, so it is enough to compare how long they are
  rw [List.prefix_iff_eq_take] at hpre
  rw [hpre] at hfits ⊢
  refine List.take_prefix_take_left (Nat.le_findGreatest ?_ hfits)
  have hlen := congrArg List.length hpre
  rw [List.length_take] at hlen
  omega

/-- The longest beginning that fits is known by what it does. -/
theorem longestFitting_unique (hpre : ys <+: xs) (hfits : totalSize size ys ≤ budget)
    (hlongest : ∀ zs, zs <+: xs → totalSize size zs ≤ budget → zs <+: ys) :
    longestFitting size budget xs = ys := by
  -- each begins with the other
  have hle := hlongest _ (longestFitting_isPrefix size budget xs)
    (totalSize_longestFitting_le size budget xs)
  exact hle.eq_of_length_le (isPrefix_longestFitting hpre hfits).length_le

@[simp] theorem longestFitting_nil : longestFitting size budget [] = [] := by
  simp [longestFitting]

/-- A member that fits is kept, and what it leaves is the budget of those behind it. -/
theorem longestFitting_cons_of_le {x : α} (hx : size x ≤ budget) :
    longestFitting size budget (x :: xs) = x :: longestFitting size (budget - size x) xs := by
  have hrest := totalSize_longestFitting_le size (budget - size x) xs
  refine longestFitting_unique ?_ ?_ ?_
  · exact List.cons_prefix_cons.mpr ⟨rfl, longestFitting_isPrefix _ _ _⟩
  · rw [totalSize_cons]
    omega
  · -- any other beginning has the member first, and behind it what fits into the rest of the budget
    intro zs hzs hfits
    rcases List.prefix_cons_iff.mp hzs with rfl | ⟨later, rfl, hlater⟩
    · exact List.nil_prefix
    · rw [totalSize_cons] at hfits
      exact List.cons_prefix_cons.mpr ⟨rfl, isPrefix_longestFitting hlater (by omega)⟩

/-- A first member that does not fit leaves nothing. -/
theorem longestFitting_cons_of_lt {x : α} (hx : budget < size x) :
    longestFitting size budget (x :: xs) = [] := by
  refine longestFitting_unique List.nil_prefix (Nat.zero_le _) ?_
  intro zs hzs hfits
  rcases List.prefix_cons_iff.mp hzs with rfl | ⟨later, rfl, -⟩
  · exact List.nil_prefix
  · rw [totalSize_cons] at hfits
    omega

/-- A list that fits as a whole is kept as a whole. -/
theorem longestFitting_eq_self (hfits : totalSize size xs ≤ budget) :
    longestFitting size budget xs = xs :=
  longestFitting_unique List.prefix_rfl hfits fun _ hzs _ => hzs

theorem length_longestFitting_take_le (size : α → Nat) (budget most : Nat) (xs : List α) :
    (longestFitting size budget (xs.take most)).length ≤ min xs.length most := by
  have hle := (longestFitting_isPrefix size budget (xs.take most)).length_le
  rwa [List.length_take, Nat.min_comm] at hle

end LongestFitting

section Map

variable {α β : Type} {size : α → Nat} {size' : β → Nat} {f : α → β}

/-- Members that take as much as those that they stand for take as much together. -/
theorem totalSize_map (hsize : ∀ x, size' (f x) = size x) (xs : List α) :
    totalSize size' (xs.map f) = totalSize size xs := by
  induction xs with
  | nil => rfl
  | cons x xs ih => rw [List.map_cons, totalSize_cons, totalSize_cons, hsize, ih]

/-- Of members that take as much as those that they stand for, as many fit. -/
theorem longestFitting_map (hsize : ∀ x, size' (f x) = size x) (budget : Nat) (xs : List α) :
    longestFitting size' budget (xs.map f) = (longestFitting size budget xs).map f := by
  refine longestFitting_unique ?_ ?_ ?_
  · exact (longestFitting_isPrefix _ _ _).map f
  · rw [totalSize_map hsize]
    exact totalSize_longestFitting_le _ _ _
  · intro zs hzs hfits
    obtain ⟨ys, hys, rfl⟩ := List.prefix_map_iff.mp hzs
    rw [totalSize_map hsize] at hfits
    exact (isPrefix_longestFitting hys hfits).map f

end Map

/-! ## Names -/

/-- A text is cut to the longest beginning that fits into the room. -/
theorem clipTo_eq_longestFitting (room : Nat) (cs : List Char) :
    clipTo room cs = longestFitting Char.utf8Size room cs := by
  induction cs generalizing room with
  | nil => rw [clipTo, longestFitting_nil]
  | cons c rest ih =>
    by_cases hc : c.utf8Size ≤ room
    · rw [clipTo, if_pos hc, ih, longestFitting_cons_of_le hc]
    · rw [clipTo, if_neg hc, longestFitting_cons_of_lt (Nat.lt_of_not_le hc)]

theorem totalSize_utf8Size (cs : List Char) : totalSize Char.utf8Size cs = Utf8.byteLength cs :=
  rfl

theorem clip_eq_longestFitting (name : String) :
    clip name = longestFitting Char.utf8Size maxNameBytes name.toList :=
  clipTo_eq_longestFitting _ _

theorem clipTo_isPrefix (room : Nat) (cs : List Char) : clipTo room cs <+: cs := by
  rw [clipTo_eq_longestFitting]
  exact longestFitting_isPrefix _ _ _

theorem byteLength_clipTo_le (room : Nat) (cs : List Char) :
    Utf8.byteLength (clipTo room cs) ≤ room := by
  rw [clipTo_eq_longestFitting, ← totalSize_utf8Size]
  exact totalSize_longestFitting_le _ _ _

theorem byteLength_clip_le (name : String) : Utf8.byteLength (clip name) ≤ maxNameBytes :=
  byteLength_clipTo_le _ _

/-- A name that is short enough is kept. -/
theorem clip_eq_toList {name : String} (hshort : Utf8.byteLength name.toList ≤ maxNameBytes) :
    clip name = name.toList := by
  rw [clip_eq_longestFitting]
  exact longestFitting_eq_self hshort

/-! ## Nestings -/

/-- The entries taken of a nesting are those of the longest beginning that fits. -/
theorem fill_eq_longestFitting {α : Type} {entryOf : α → List UInt8} {size : α → Nat}
    (hsize : ∀ scope, (entryOf scope).length = size scope) (taken : List (List UInt8))
    (budget : Nat) (scopes : List α) :
    fill entryOf taken budget scopes =
      (taken.reverse ++ (longestFitting size budget scopes).map entryOf,
        budget - totalSize size (longestFitting size budget scopes)) := by
  induction scopes generalizing taken budget with
  | nil => simp [fill]
  | cons scope later ih =>
    rw [fill, hsize]
    by_cases hscope : size scope ≤ budget
    · rw [if_pos hscope, ih, longestFitting_cons_of_le hscope]
      simp [Nat.sub_sub]
    · rw [if_neg hscope, longestFitting_cons_of_lt (Nat.lt_of_not_le hscope)]
      simp

end TemplateScan.Snapshot
