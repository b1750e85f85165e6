/-
The orders in which paths and symbols are listed. A list sorted by a total preorder that ties only
equal members does not depend on the order it had before; paths from the root are never tied, and
symbols are tied only when file, line and name agree.
-/
import Mathlib.Data.List.Nodup
import RtlAtlas.Proofs.Path.Text

namespace RtlAtlas

/-! ## Sorting by a comparison -/

section Sorting

variable {α : Type} (cmp : α → α → Ordering) [Std.TransCmp cmp]

theorem isLE_total (a b : α) : ((cmp a b).isLE || (cmp b a).isLE) = true := by
  rw [Bool.or_eq_true]
  cases h : cmp a b with
  | gt =>
    rw [Std.OrientedCmp.gt_iff_lt] at h
    simp [h]
  | _ => simp

theorem pairwise_mergeSort_isLE (l : List α) :
    (l.mergeSort fun a b => (cmp a b).isLE).Pairwise fun a b => (cmp a b).isLE = true :=
  List.pairwise_mergeSort (fun _ _ _ => Std.TransCmp.isLE_trans) (isLE_total cmp) l

/-- Sorted, a list of which no two members are tied is in strict order. -/
theorem pairwise_lt_mergeSort {l : List α} (h : l.Pairwise fun a b => cmp a b ≠ .eq) :
    (l.mergeSort fun a b => (cmp a b).isLE).Pairwise fun a b => cmp a b = .lt := by
  have hperm := List.mergeSort_perm l fun a b => (cmp a b).isLE
  have hapart : (l.mergeSort fun a b => (cmp a b).isLE).Pairwise fun a b => cmp a b ≠ .eq := by
    refine (hperm.pairwise_iff ?_).2 h
    intro a b hab heq
    exact hab (Std.OrientedCmp.eq_symm heq)
  refine (hapart.and (pairwise_mergeSort_isLE cmp l)).imp ?_
  rintro a b ⟨hne, hle⟩
  cases hord : cmp a b with
  | lt => rfl
  | eq => exact absurd hord hne
  | gt => simp [hord] at hle

/-- Sorted together with their places, tied members stay in the order of their places. -/
theorem pairwise_mergeSort_zipIdx (l : List α) :
    (l.zipIdx.mergeSort (List.zipIdxLE fun a b => (cmp a b).isLE)).Pairwise fun x y =>
      cmp x.1 y.1 = .lt ∨ cmp x.1 y.1 = .eq ∧ x.2 < y.2 := by
  have hplaces : l.zipIdx.Pairwise fun x y => x.2 ≠ y.2 := by
    rw [← List.pairwise_map (R := (· ≠ ·)), List.zipIdx_map_snd]
    exact List.nodup_range'
  have hperm := List.mergeSort_perm l.zipIdx (List.zipIdxLE fun a b => (cmp a b).isLE)
  have hapart := (hperm.pairwise_iff fun {x y} => Ne.symm).2 hplaces
  have hsorted : (l.zipIdx.mergeSort (List.zipIdxLE fun a b => (cmp a b).isLE)).Pairwise
      fun x y => List.zipIdxLE (fun a b => (cmp a b).isLE) x y = true :=
    List.pairwise_mergeSort (List.zipIdxLE_trans fun _ _ _ => Std.TransCmp.isLE_trans)
      (List.zipIdxLE_total (isLE_total cmp)) l.zipIdx
  refine (hapart.and hsorted).imp ?_
  rintro ⟨a, m⟩ ⟨b, n⟩ ⟨hne, hle⟩
  unfold List.zipIdxLE at hle
  cases hord : cmp a b with
  | lt => exact Or.inl rfl
  | eq =>
    have heq : cmp b a = .eq := Std.OrientedCmp.eq_symm hord
    simp only [hord, heq, Ordering.isLE_eq, if_true, decide_eq_true_eq] at hle
    exact Or.inr ⟨rfl, Nat.lt_of_le_of_ne hle hne⟩
  | gt => simp [hord] at hle

/-- Sorting by one comparison what a second one has put in strict order gives a list in the order of
the first, and where that has ties, of the second. -/
theorem pairwise_mergeSort_then (cmp' : α → α → Ordering) {l : List α}
    (h : l.Pairwise fun a b => cmp' a b = .lt) :
    (l.mergeSort fun a b => (cmp a b).isLE).Pairwise fun a b => (cmp a b).then (cmp' a b) = .lt := by
  rw [← List.mergeSort_zipIdx, List.pairwise_map]
  refine (pairwise_mergeSort_zipIdx cmp l).imp_of_mem ?_
  rintro ⟨a, m⟩ ⟨b, n⟩ ha hb hab
  obtain ⟨hm, hma⟩ := List.getElem?_eq_some_iff.1
    (List.mk_mem_zipIdx_iff_getElem?.1 (List.mem_mergeSort.1 ha))
  obtain ⟨hn, hnb⟩ := List.getElem?_eq_some_iff.1
    (List.mk_mem_zipIdx_iff_getElem?.1 (List.mem_mergeSort.1 hb))
  rcases hab with hlt | ⟨heq, hplaces⟩
  · simp [hlt]
  · have hbefore := List.pairwise_iff_getElem.1 h m n hm hn hplaces
    rw [hma, hnb] at hbefore
    simp [heq, hbefore]

theorem eq_of_isLE_isLE {a b : α} (h : (cmp a b).isLE = true) (h' : (cmp b a).isLE = true) :
    cmp a b = .eq := by
  have hswap : cmp b a = (cmp a b).swap := Std.OrientedCmp.eq_swap
  rw [hswap] at h'
  cases hc : cmp a b <;> simp_all

/-- Two sorted lists of the same members are equal, when only equal members are tied. -/
theorem eq_of_perm_of_sorted {l l' : List α} (h : l.Perm l')
    (hl : l.Pairwise fun a b => (cmp a b).isLE = true)
    (hl' : l'.Pairwise fun a b => (cmp a b).isLE = true)
    (hties : ∀ a ∈ l, ∀ b ∈ l, cmp a b = .eq → a = b) : l = l' :=
  h.eq_of_pairwise (fun a b ha hb h1 h2 =>
    hties a ha b (h.mem_iff.2 hb) (eq_of_isLE_isLE cmp h1 h2)) hl hl'

theorem mergeSort_eq_of_perm {l l' : List α} (h : l.Perm l')
    (hties : ∀ a ∈ l, ∀ b ∈ l, cmp a b = .eq → a = b) :
    (l.mergeSort fun a b => (cmp a b).isLE) = l'.mergeSort fun a b => (cmp a b).isLE := by
  have hp := List.mergeSort_perm l fun a b => (cmp a b).isLE
  have hp' := List.mergeSort_perm l' fun a b => (cmp a b).isLE
  refine eq_of_perm_of_sorted cmp ((hp.trans h).trans hp'.symm) (pairwise_mergeSort_isLE cmp l)
    (pairwise_mergeSort_isLE cmp l') fun a ha b hb => ?_
  exact hties a (hp.mem_iff.1 ha) b (hp.mem_iff.1 hb)

end Sorting

/-! ## Paths by their components -/

namespace Path

instance : Std.TransCmp ordByParts := inferInstanceAs (Std.TransCmp (compareOn components))

/-- Paths from the root are tied only with themselves. -/
theorem eq_of_ordByParts_eq {p q : Path} (hp : p.anchor = .root) (hq : q.anchor = .root)
    (h : ordByParts p q = .eq) : p = q := by
  have hc : p.components = q.components := Std.LawfulEqCmp.eq_of_compare h
  obtain ⟨pa, pp⟩ := p
  obtain ⟨qa, qp⟩ := q
  simp only at hp hq
  subst hp hq
  simpa [components, isAbsolute] using hc

theorem perm_sortByParts (ps : List Path) : (sortByParts ps).Perm ps := List.mergeSort_perm ps _

theorem mem_sortByParts {ps : List Path} {p : Path} : p ∈ sortByParts ps ↔ p ∈ ps :=
  (perm_sortByParts ps).mem_iff

theorem pairwise_sortByParts (ps : List Path) :
    (sortByParts ps).Pairwise fun p q => (ordByParts p q).isLE = true :=
  pairwise_mergeSort_isLE ordByParts ps

theorem sortByParts_eq_of_perm {ps qs : List Path} (h : ps.Perm qs)
    (hroot : ∀ p ∈ ps, p.anchor = .root) : sortByParts ps = sortByParts qs :=
  mergeSort_eq_of_perm ordByParts h fun p hp q hq => eq_of_ordByParts_eq (hroot p hp) (hroot q hq)

end Path

/-! ## Symbols by file, line and name -/

namespace Symbol

instance : Std.TransCmp Symbol.ord :=
  inferInstanceAs (Std.TransCmp (compareLex (compareOn fun s : Symbol => s.file.text)
    (compareLex (compareOn fun s : Symbol => s.line) (compareOn fun s : Symbol => s.name))))

theorem ord_eq_iff {a b : Symbol} :
    Symbol.ord a b = .eq ↔ a.file.text = b.file.text ∧ a.line = b.line ∧ a.name = b.name := by
  unfold Symbol.ord
  rw [Ordering.then_eq_eq, Ordering.then_eq_eq, Std.LawfulEqCmp.compare_eq_iff_eq,
    Std.LawfulEqCmp.compare_eq_iff_eq, Std.LawfulEqCmp.compare_eq_iff_eq]

/-- No two of the symbols stand at the same place with the same name. -/
def Apart (symbols : List Symbol) : Prop :=
  ∀ a ∈ symbols, ∀ b ∈ symbols, Symbol.ord a b = .eq → a = b

theorem perm_sort (symbols : List Symbol) : (sort symbols).Perm symbols := List.mergeSort_perm symbols _

theorem mem_sort {symbols : List Symbol} {s : Symbol} : s ∈ sort symbols ↔ s ∈ symbols :=
  (perm_sort symbols).mem_iff

theorem sort_eq_of_perm {symbols others : List Symbol} (h : symbols.Perm others)
    (hapart : Apart symbols) : sort symbols = sort others :=
  mergeSort_eq_of_perm Symbol.ord h hapart

end Symbol

end RtlAtlas
