/-
The distance of two texts is the least number of edits that turn one into the other. `apart` is that
number by recursion on both texts: no single edit changes it by more than one, and a way of reaching it
can be read off it. The row in use holds it cell by cell: after some characters of the first text, the
cells are their distances from the growing beginnings of the second one, all read backwards.
-/
import Mathlib.Order.Bounds.Basic
import Mathlib.Order.MinMax
import RtlAtlas.Search.Distance

namespace RtlAtlas.Search

/-! ## Edits -/

/-- One character is put in, taken out or exchanged. -/
inductive Edit : List Char → List Char → Prop
  | putIn (xs ys : List Char) (c : Char) : Edit (xs ++ ys) (xs ++ c :: ys)
  | takeOut (xs ys : List Char) (c : Char) : Edit (xs ++ c :: ys) (xs ++ ys)
  | exchange (xs ys : List Char) (c d : Char) : Edit (xs ++ c :: ys) (xs ++ d :: ys)

/-- A number of edits, one after the other. -/
inductive Edits : Nat → List Char → List Char → Prop
  | done (xs : List Char) : Edits 0 xs xs
  | next {n : Nat} {xs ys zs : List Char} : Edit xs ys → Edits n ys zs → Edits (n + 1) xs zs

section Edits

variable {m n : Nat} {xs ys zs : List Char}

theorem Edit.symm (h : Edit xs ys) : Edit ys xs := by
  cases h with
  | putIn xs ys c => exact .takeOut xs ys c
  | takeOut xs ys c => exact .putIn xs ys c
  | exchange xs ys c d => exact .exchange xs ys d c

theorem Edit.cons (c : Char) (h : Edit xs ys) : Edit (c :: xs) (c :: ys) := by
  cases h with
  | putIn xs ys d => exact .putIn (c :: xs) ys d
  | takeOut xs ys d => exact .takeOut (c :: xs) ys d
  | exchange xs ys d e => exact .exchange (c :: xs) ys d e

theorem Edit.reverse (h : Edit xs ys) : Edit xs.reverse ys.reverse := by
  cases h with
  | putIn xs ys c => simpa using Edit.putIn ys.reverse xs.reverse c
  | takeOut xs ys c => simpa using Edit.takeOut ys.reverse xs.reverse c
  | exchange xs ys c d => simpa using Edit.exchange ys.reverse xs.reverse c d

theorem Edits.cons (c : Char) (h : Edits n xs ys) : Edits n (c :: xs) (c :: ys) := by
  induction h with
  | done xs => exact .done _
  | next hedit _ ih => exact .next (hedit.cons c) ih

theorem Edits.reverse (h : Edits n xs ys) : Edits n xs.reverse ys.reverse := by
  induction h with
  | done xs => exact .done _
  | next hedit _ ih => exact .next hedit.reverse ih

theorem Edits.trans (h : Edits m xs ys) (h' : Edits n ys zs) : Edits (m + n) xs zs := by
  induction h with
  | done xs => rwa [Nat.zero_add]
  | next hedit _ ih =>
    rw [Nat.add_right_comm]
    exact .next hedit (ih h')

theorem Edits.symm (h : Edits n xs ys) : Edits n ys xs := by
  induction h with
  | done xs => exact .done xs
  | next hedit _ ih => exact ih.trans (.next hedit.symm (.done _))

theorem edits_zero_iff : Edits 0 xs ys ↔ xs = ys := by
  constructor
  · intro h
    cases h
    rfl
  · rintro rfl
    exact .done xs

theorem edits_reverse_iff : Edits n xs.reverse ys.reverse ↔ Edits n xs ys := by
  refine ⟨fun h => ?_, Edits.reverse⟩
  simpa using h.reverse

end Edits

/-! ## The least number of edits -/

/-- How far two texts are apart: what it takes to make their heads alike, and then the rest. -/
def apart : List Char → List Char → Nat
  | [], ys => ys.length
  | x :: xs, [] => xs.length + 1
  | x :: xs, y :: ys =>
    min (min (apart xs (y :: ys) + 1) (apart (x :: xs) ys + 1)) (apart xs ys + if x == y then 0 else 1)

@[simp] theorem apart_nil_left (ys : List Char) : apart [] ys = ys.length := by rw [apart]

@[simp] theorem apart_nil_right (xs : List Char) : apart xs [] = xs.length := by
  cases xs with
  | nil => exact apart_nil_left []
  | cons x xs => rw [apart, List.length_cons]

theorem apart_self (xs : List Char) : apart xs xs = 0 := by
  induction xs with
  | nil => exact apart_nil_left []
  | cons x xs ih => simp [apart, ih]

theorem apart_le_max (xs ys : List Char) : apart xs ys ≤ max xs.length ys.length := by
  fun_induction apart xs ys with
  | case1 ys => simp
  | case2 x xs => simp
  | case3 x xs y ys _ _ ih =>
    simp only [List.length_cons]
    split <;> omega

theorem apart_cons_left_le (c : Char) (xs zs : List Char) : apart (c :: xs) zs ≤ apart xs zs + 1 := by
  cases zs with
  | nil => simp
  | cons z zs => rw [apart]; omega

theorem apart_cons_right_le (c : Char) (xs zs : List Char) : apart xs (c :: zs) ≤ apart xs zs + 1 := by
  cases xs with
  | nil => simp
  | cons x xs => rw [apart]; omega

theorem apart_le_cons_left (c : Char) (xs zs : List Char) : apart xs zs ≤ apart (c :: xs) zs + 1 := by
  induction zs with
  | nil => simp; omega
  | cons z zs ih =>
    have hput := apart_cons_right_le z xs zs
    rw [apart]
    omega

/-- Texts that are nearly equally far from all others stay so with a head in front, if the heads are
equal or the texts are. -/
theorem apart_cons_le_cons {c d : Char} {xs ys : List Char}
    (hrest : ∀ zs, apart xs zs ≤ apart ys zs + 1) (hheads : c = d ∨ xs = ys) (zs : List Char) :
    apart (c :: xs) zs ≤ apart (d :: ys) zs + 1 := by
  induction zs with
  | nil => simpa using hrest []
  | cons z zs ih =>
    have hboth := hrest zs
    have hfirst := hrest (z :: zs)
    rw [apart, apart]
    rcases hheads with rfl | rfl
    · omega
    · split <;> split <;> omega

/-- One edit brings a text nearer to another one by one at most. -/
theorem Edit.apart_le {xs ys : List Char} (h : Edit xs ys) (zs : List Char) :
    apart xs zs ≤ apart ys zs + 1 := by
  have hfront : ∀ (front : List Char) {xs ys : List Char}, (∀ zs, apart xs zs ≤ apart ys zs + 1) →
      ∀ zs, apart (front ++ xs) zs ≤ apart (front ++ ys) zs + 1 := by
    intro front xs ys hrest
    induction front with
    | nil => exact hrest
    | cons c front ih => exact apart_cons_le_cons ih (Or.inl rfl)
  cases h with
  | putIn xs ys c => exact hfront xs (apart_le_cons_left c ys) zs
  | takeOut xs ys c => exact hfront xs (apart_cons_left_le c ys) zs
  | exchange xs ys c d =>
    exact hfront xs (apart_cons_le_cons (fun _ => Nat.le_succ _) (Or.inr rfl)) zs

theorem Edits.apart_le {n : Nat} {xs ys : List Char} (h : Edits n xs ys) (zs : List Char) :
    apart xs zs ≤ apart ys zs + n := by
  induction h with
  | done xs => exact Nat.le_refl _
  | next hedit _ ih =>
    have hone := hedit.apart_le zs
    omega

/-- Characters are put in one by one. -/
theorem edits_nil_left (ys : List Char) : Edits ys.length [] ys := by
  induction ys with
  | nil => exact .done []
  | cons y ys ih => exact .next (.putIn [] [] y) (ih.cons y)

theorem edits_apart (xs ys : List Char) : Edits (apart xs ys) xs ys := by
  fun_induction apart xs ys with
  | case1 ys => exact edits_nil_left ys
  | case2 x xs => exact (edits_nil_left (x :: xs)).symm
  | case3 x xs y ys takeOut putIn both =>
    rcases min_choice (min (apart xs (y :: ys) + 1) (apart (x :: xs) ys + 1))
      (apart xs ys + if x == y then 0 else 1) with h | h
    · rw [h]
      rcases min_choice (apart xs (y :: ys) + 1) (apart (x :: xs) ys + 1) with h | h
      · rw [h]
        exact .next (.takeOut [] xs x) takeOut
      · rw [h]
        exact .next (.putIn [] (x :: xs) y) (putIn.cons y)
    · rw [h]
      split
      · rename_i heq
        rw [beq_iff_eq.1 heq]
        exact both.cons y
      · exact .next (.exchange [] xs x y) (both.cons y)

theorem isLeast_apart (xs ys : List Char) : IsLeast {n | Edits n xs ys} (apart xs ys) := by
  refine ⟨edits_apart xs ys, ?_⟩
  intro n h
  have hle := h.apart_le ys
  rwa [apart_self, Nat.zero_add] at hle

/-! ## The row -/

/-- How far a text is from the beginnings of a second one that go on after `before`; both are read
backwards. -/
def rowFrom (xs : List Char) : (before ys : List Char) → List Nat
  | _, [] => []
  | before, y :: ys => apart xs (y :: before) :: rowFrom xs (y :: before) ys

/-- How far a text, read backwards, is from all beginnings of a second one. -/
def rowOf (xs ys : List Char) : List Nat := apart xs [] :: rowFrom xs [] ys

/-- The cell to the left is of the new row already, and the diagonal one still of the old row. -/
theorem stepRow_rowFrom (x : Char) (xs : List Char) : ∀ before ys : List Char,
    stepRow x (apart (x :: xs) before) (apart xs before) ys (rowFrom xs before ys) =
      rowFrom (x :: xs) before ys
  | before, [] => rfl
  | before, y :: ys => by
    have hentry : apart (x :: xs) (y :: before) =
        min (min (apart xs (y :: before) + 1) (apart (x :: xs) before + 1))
          (apart xs before + if x == y then 0 else 1) := by rw [apart]
    rw [rowFrom, stepRow, rowFrom, ← hentry]
    exact congrArg _ (stepRow_rowFrom x xs (y :: before) ys)

theorem nextRow_rowOf (x : Char) (xs ys : List Char) :
    nextRow ys (rowOf xs ys) x = rowOf (x :: xs) ys := by
  have hfirst : apart xs [] + 1 = apart (x :: xs) [] := by simp
  show (apart xs [] + 1) :: stepRow x (apart xs [] + 1) (apart xs []) ys (rowFrom xs [] ys) = _
  rw [hfirst, stepRow_rowFrom, rowOf]

theorem foldl_nextRow (ys : List Char) : ∀ more xs : List Char,
    more.foldl (nextRow ys) (rowOf xs ys) = rowOf (more.reverse ++ xs) ys
  | [], xs => rfl
  | x :: more, xs => by
    rw [List.foldl_cons, nextRow_rowOf, foldl_nextRow ys more, List.reverse_cons, List.append_assoc]
    rfl

theorem rowFrom_nil : ∀ before ys : List Char,
    rowFrom [] before ys = List.range' (before.length + 1) ys.length
  | before, [] => rfl
  | before, y :: ys => by
    rw [rowFrom, rowFrom_nil, apart_nil_left, List.length_cons, List.length_cons, List.range'_succ]

theorem rowOf_nil (ys : List Char) : rowOf [] ys = List.range (ys.length + 1) := by
  rw [rowOf, rowFrom_nil, apart_nil_left, List.range_eq_range', List.range'_succ]
  rfl

/-- The last cell is for the whole second text. -/
theorem getLastD_rowFrom (xs : List Char) : ∀ before ys : List Char,
    (rowFrom xs before ys).getLastD (apart xs before) = apart xs (ys.reverse ++ before)
  | before, [] => rfl
  | before, y :: ys => by
    rw [rowFrom, List.getLastD_cons, getLastD_rowFrom, List.reverse_cons, List.append_assoc]
    rfl

theorem editDistance_eq (xs ys : List Char) :
    editDistance xs ys = apart xs.reverse ys.reverse := by
  unfold editDistance
  rw [← rowOf_nil, foldl_nextRow, rowOf, List.getLastD_cons, getLastD_rowFrom, List.append_nil,
    List.append_nil]

/-! ## The distance -/

theorem isLeast_editDistance (xs ys : List Char) :
    IsLeast {n | Edits n xs ys} (editDistance xs ys) := by
  have hleast := isLeast_apart xs.reverse ys.reverse
  simp only [edits_reverse_iff] at hleast
  rwa [editDistance_eq]

theorem editDistance_eq_zero_iff {xs ys : List Char} : editDistance xs ys = 0 ↔ xs = ys := by
  obtain ⟨hreached, hleast⟩ := isLeast_editDistance xs ys
  constructor
  · intro h
    rw [h] at hreached
    exact edits_zero_iff.1 hreached
  · intro h
    exact Nat.le_zero.1 (hleast (edits_zero_iff.2 h))

/-- The distance of two texts is the least number of characters to put in, take out or exchange one
after the other to turn one text into the other. So it is a metric, and at most the length of the
longer text. -/
theorem editDistance_least (xs ys : List Char) :
    IsLeast {n | Edits n xs ys} (editDistance xs ys) ∧
    (editDistance xs ys = 0 ↔ xs = ys) ∧
    editDistance xs ys = editDistance ys xs ∧
    (∀ zs, editDistance xs zs ≤ editDistance xs ys + editDistance ys zs) ∧
    editDistance xs ys ≤ max xs.length ys.length := by
  obtain ⟨hreached, hleast⟩ := isLeast_editDistance xs ys
  refine ⟨⟨hreached, hleast⟩, editDistance_eq_zero_iff, ?_, ?_, ?_⟩
  · obtain ⟨hreached', hleast'⟩ := isLeast_editDistance ys xs
    exact Nat.le_antisymm (hleast hreached'.symm) (hleast' hreached.symm)
  · intro zs
    exact (isLeast_editDistance xs zs).2 (hreached.trans (isLeast_editDistance ys zs).1)
  · rw [editDistance_eq]
    simpa using apart_le_max xs.reverse ys.reverse

example : editDistance "kitten".toList "sitting".toList = 3 := by decide

end RtlAtlas.Search
