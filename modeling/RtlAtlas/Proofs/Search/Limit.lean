/-
A limit on matches is applied twice: to those on disk, in the order in which the files are looked
through, and again to all of them, sorted by file and line. A larger limit loses no match and keeps
the order; but it lets matches in before others that were shown already, unless each match on disk is
come across no later than its place among all matches, sorted.
-/
import Mathlib.Data.List.Perm.Subperm
import Mathlib.Data.List.Sort
import RtlAtlas.Proofs.Search.Scan

namespace RtlAtlas.Search

namespace LineMatch

/-- A match is listed before another. -/
def Before (a b : LineMatch) : Prop := LineMatch.ord a b = .lt

instance (a b : LineMatch) : Decidable (Before a b) := inferInstanceAs (Decidable (_ = _))

/-- The place of a match among some: how many of them are listed before it. -/
def rankIn (ms : List LineMatch) (m : LineMatch) : Nat := ms.countP fun a => decide (Before a m)

variable {a b m : LineMatch} {ms ns : List LineMatch}

theorem not_before_self (m : LineMatch) : ¬Before m m := by
  intro h
  have hself : LineMatch.ord m m = .eq := Std.ReflCmp.compare_self
  rw [Before, hself] at h
  cases h

theorem Before.asymm (h : Before a b) : ¬Before b a := by
  intro h'
  have hgt : LineMatch.ord a b = .gt := Std.OrientedCmp.gt_iff_lt.2 h'
  rw [Before, hgt] at h
  cases h

instance : Std.Antisymm Before := ⟨fun _ _ h h' => absurd h' h.asymm⟩

theorem Apart.nodup (h : Apart ms) : ms.Nodup := by
  refine List.Pairwise.imp (fun {a b} hne heq => ?_) h
  subst heq
  exact hne Std.ReflCmp.compare_self

/-- Matches that follow each other strictly differ. -/
theorem nodup_of_pairwise (h : ms.Pairwise Before) : ms.Nodup := by
  refine List.Pairwise.imp (fun {a b} hab heq => ?_) h
  subst heq
  exact not_before_self a hab

theorem rankIn_cons (a : LineMatch) (ms : List LineMatch) (m : LineMatch) :
    rankIn (a :: ms) m = rankIn ms m + if Before a m then 1 else 0 := by
  rw [rankIn, List.countP_cons, rankIn]
  simp only [decide_eq_true_eq]

theorem rankIn_append (ms ns : List LineMatch) (m : LineMatch) :
    rankIn (ms ++ ns) m = rankIn ms m + rankIn ns m := List.countP_append

theorem rankIn_eq_zero (h : ∀ a ∈ ms, ¬Before a m) : rankIn ms m = 0 := by
  refine List.countP_eq_zero.2 fun a ha => ?_
  simpa using h a ha

theorem rankIn_perm (h : ms.Perm ns) (m : LineMatch) : rankIn ms m = rankIn ns m := h.countP_eq _

theorem rankIn_lt_length (h : m ∈ ms) : rankIn ms m < ms.length := by
  refine Nat.lt_of_le_of_ne List.countP_le_length fun heq => ?_
  have hall := List.countP_eq_length.1 heq m h
  exact not_before_self m (by simpa using hall)

/-- Among sorted matches, the first ones are those of the lowest places. -/
theorem mem_take_iff : ∀ {ms : List LineMatch} {n : Nat}, ms.Pairwise Before →
    (m ∈ ms.take n ↔ m ∈ ms ∧ rankIn ms m < n)
  | [], n, _ => by simp
  | a :: ms, 0, _ => by simp
  | a :: ms, n + 1, h => by
    obtain ⟨hfirst, hrest⟩ := List.pairwise_cons.1 h
    rw [List.take_succ_cons, List.mem_cons, List.mem_cons, rankIn_cons, mem_take_iff hrest]
    constructor
    · rintro (rfl | ⟨hm, hrank⟩)
      · refine ⟨.inl rfl, ?_⟩
        rw [rankIn_eq_zero fun b hb => (hfirst b hb).asymm, if_neg (not_before_self _)]
        omega
      · refine ⟨.inr hm, ?_⟩
        rw [if_pos (hfirst m hm)]
        omega
    · rintro ⟨rfl | hm, hrank⟩
      · exact .inl rfl
      · rw [if_pos (hfirst m hm)] at hrank
        exact .inr ⟨hm, by omega⟩

theorem mem_take_sort (h : Apart ms) {n : Nat} : m ∈ (sort ms).take n ↔ m ∈ ms ∧ rankIn ms m < n := by
  rw [mem_take_iff (pairwise_sort h), (perm_sort ms).mem_iff, rankIn_perm (perm_sort ms)]

end LineMatch

/-! ## Both cuts -/

open LineMatch

/-- The matches shown up to a limit, of those on disk as they are come across and those in memory. -/
def shownUpTo (disk memory : List LineMatch) (limit : Nat) : List LineMatch :=
  (sort (disk.take limit ++ memory)).take limit

section Cuts

variable {disk memory : List LineMatch} {m : LineMatch} {limit limit' : Nat}

theorem apart_take (h : Apart (disk ++ memory)) (n : Nat) : Apart (disk.take n ++ memory) :=
  h.sublist ((List.take_sublist n disk).append_right memory)

theorem mem_shownUpTo (h : Apart (disk ++ memory)) : m ∈ shownUpTo disk memory limit ↔
    (m ∈ disk.take limit ∨ m ∈ memory) ∧ rankIn (disk.take limit ++ memory) m < limit := by
  rw [shownUpTo, mem_take_sort (apart_take h limit), List.mem_append]

theorem pairwise_shownUpTo (h : Apart (disk ++ memory)) (limit : Nat) :
    (shownUpTo disk memory limit).Pairwise Before :=
  (pairwise_sort (apart_take h limit)).sublist (List.take_sublist limit _)

theorem length_shownUpTo (disk memory : List LineMatch) (limit : Nat) :
    (shownUpTo disk memory limit).length = min limit (disk.length + memory.length) := by
  rw [shownUpTo, List.length_take, (perm_sort _).length_eq, List.length_append, List.length_take]
  omega

/-- Letting in more matches from the disk moves a match that is shown back by no more than these. -/
theorem rankIn_take_le (disk memory : List LineMatch) (h : limit ≤ limit') (m : LineMatch) :
    rankIn (disk.take limit' ++ memory) m ≤
      rankIn (disk.take limit ++ memory) m + (limit' - limit) := by
  have hsplit : disk.take limit' = disk.take limit ++ (disk.drop limit).take (limit' - limit) := by
    rw [← List.take_add, Nat.add_sub_cancel' h]
  have hmore : rankIn ((disk.drop limit).take (limit' - limit)) m ≤ limit' - limit :=
    List.countP_le_length.trans (List.length_take_le _ _)
  rw [hsplit, rankIn_append, rankIn_append, rankIn_append]
  omega

/-- A larger limit loses no match and keeps the order. -/
theorem shownUpTo_sublist (h : Apart (disk ++ memory)) (hle : limit ≤ limit') :
    (shownUpTo disk memory limit).Sublist (shownUpTo disk memory limit') := by
  have hsubset : shownUpTo disk memory limit ⊆ shownUpTo disk memory limit' := by
    intro m hm
    obtain ⟨hmem, hrank⟩ := (mem_shownUpTo h).1 hm
    refine (mem_shownUpTo h).2 ⟨hmem.imp_left fun hd => ?_, ?_⟩
    · exact (List.take_prefix_take_left hle).subset hd
    · have := rankIn_take_le disk memory hle m
      omega
  exact List.sublist_of_subperm_of_pairwise
    (List.subperm_of_subset (nodup_of_pairwise (pairwise_shownUpTo h limit)) hsubset)
    (pairwise_shownUpTo h limit) (pairwise_shownUpTo h limit')

/-- No match on disk is come across later than its place among all matches. -/
def InTime (disk memory : List LineMatch) : Prop :=
  ∀ m ∈ disk, disk.idxOf m ≤ rankIn (disk ++ memory) m

/-- If matches are come across in time, the ones shown are the first ones of all. -/
theorem shownUpTo_eq_take (h : Apart (disk ++ memory)) (htime : InTime disk memory) (limit : Nat) :
    shownUpTo disk memory limit = (sort (disk ++ memory)).take limit := by
  have hsorted : ((sort (disk ++ memory)).take limit).Pairwise Before :=
    (pairwise_sort h).sublist (List.take_sublist limit _)
  have hsubset : (sort (disk ++ memory)).take limit ⊆ shownUpTo disk memory limit := by
    intro m hm
    obtain ⟨hmem, hrank⟩ := (mem_take_sort h).1 hm
    have hfewer : rankIn (disk.take limit ++ memory) m ≤ rankIn (disk ++ memory) m :=
      ((List.take_sublist limit disk).append_right memory).countP_le
    refine (mem_shownUpTo h).2 ⟨(List.mem_append.1 hmem).imp_left fun hd => ?_, by omega⟩
    have := htime m hd
    exact (List.mem_take_iff_idxOf_lt hd).2 (by omega)
  have hlength : (shownUpTo disk memory limit).length ≤ ((sort (disk ++ memory)).take limit).length := by
    rw [length_shownUpTo, List.length_take, (perm_sort _).length_eq, List.length_append]
  have hperm := (List.subperm_of_subset (nodup_of_pairwise hsorted) hsubset).perm_of_length_le hlength
  exact hperm.symm.eq_of_pairwise' (pairwise_shownUpTo h limit) hsorted

/-- Smaller limits cut the tail only, exactly if matches are come across in time. -/
theorem shownUpTo_prefix_iff (h : Apart (disk ++ memory)) :
    (∀ limit limit', 1 ≤ limit → limit ≤ limit' →
      shownUpTo disk memory limit <+: shownUpTo disk memory limit') ↔ InTime disk memory := by
  constructor
  · intro hprefix m hm
    have hmem : m ∈ disk ++ memory := List.mem_append_left memory hm
    have hlt := rankIn_lt_length hmem
    have hlast := hprefix (rankIn (disk ++ memory) m + 1) (disk ++ memory).length (by omega) (by omega)
    have hall : shownUpTo disk memory (disk ++ memory).length = sort (disk ++ memory) := by
      have hdisk : disk.take (disk ++ memory).length = disk :=
        List.take_of_length_le (by rw [List.length_append]; omega)
      rw [shownUpTo, hdisk, List.take_of_length_le (perm_sort _).length_eq.le]
    rw [hall] at hlast
    have hshown : m ∈ shownUpTo disk memory (rankIn (disk ++ memory) m + 1) := by
      rw [List.prefix_iff_eq_take.1 hlast, length_shownUpTo,
        Nat.min_eq_left (by rw [← List.length_append]; omega)]
      exact (mem_take_sort h).2 ⟨hmem, by omega⟩
    rcases ((mem_shownUpTo h).1 hshown).1 with hd | hmemory
    · have := (List.mem_take_iff_idxOf_lt hm).1 hd
      omega
    · exact absurd hmemory (List.disjoint_of_nodup_append h.nodup hm)
  · intro htime limit limit' _ hle
    rw [shownUpTo_eq_take h htime, shownUpTo_eq_take h htime]
    exact List.take_prefix_take_left hle

/-- Matches that are come across by file and line are in time. -/
theorem inTime_of_pairwise (h : disk.Pairwise Before) : InTime disk memory := by
  intro m hm
  have hplace : rankIn disk m = disk.idxOf m := by
    have hnodup := nodup_of_pairwise h
    by_contra hne
    have hiff : ∀ n, disk.idxOf m < n ↔ rankIn disk m < n := fun n => by
      rw [← List.mem_take_iff_idxOf_lt hm, mem_take_iff h, and_iff_right hm]
    have h1 := (hiff (disk.idxOf m + 1)).1 (by omega)
    have h2 := (hiff (rankIn disk m + 1)).2 (by omega)
    omega
  rw [rankIn_append, hplace]
  omega

end Cuts

end RtlAtlas.Search
