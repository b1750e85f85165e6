/-
How deep the hierarchy is below a module. The search finds the length of the longest chain from the
module, in circles too, because it leaves out just the modules on the way. Without circles a longest
chain goes on until it comes to a leaf, so below the top-level modules it is as long as the critical
path.
-/
import Mathlib.Order.Bounds.Basic
import RtlAtlas.Proofs.Graph.Circle
import RtlAtlas.Proofs.Graph.Critical

namespace RtlAtlas.Graph

open OrderedMap

variable {g : Graph}

/-- The greatest of some numbers and zero. -/
theorem isGreatest_foldl_max (ns : List Nat) : IsGreatest {n | n = 0 ∨ n ∈ ns} (ns.foldl max 0) := by
  rw [List.foldl_max]
  cases hmax : ns.max? with
  | none =>
    obtain rfl := List.max?_eq_none_iff.1 hmax
    exact ⟨Or.inl rfl, by rintro n (rfl | hn) <;> simp_all⟩
  | some top =>
    obtain ⟨htop, hle⟩ := List.max?_eq_some_iff.1 hmax
    rw [Option.getD_some, Nat.zero_max]
    refine ⟨Or.inr htop, ?_⟩
    rintro n (rfl | hn)
    · exact Nat.zero_le _
    · exact hle n hn

theorem depthFrom_succ (g : Graph) (fuel : Nat) (passed : List String) (name : String) :
    g.depthFrom (fuel + 1) passed name =
      (((g.childrenOf name).filter (· ∉ name :: passed)).map
        (g.depthFrom fuel (name :: passed))).foldl max 0 + 1 := by
  rw [List.foldl_map, List.foldl_filter]
  simp only [depthFrom, List.contains_iff_mem]
  refine congrArg (· + 1) (List.foldl_ext _ _ _ fun deepest child _ => ?_)
  by_cases h : child ∈ name :: passed <;> simp [h]

/-- Below the modules above it, the search finds the length of a longest trail from a module. -/
theorem isGreatest_depthFrom (hg : g.WF) : ∀ {fuel : Nat} {passed : List String} {name : String},
    g.Above fuel passed → name ∈ g.names → name ∉ passed →
    IsGreatest {n | ∃ ms, g.Trail (fun _ => True) passed name ms ∧ ms.length = n}
      (g.depthFrom fuel passed name)
  | 0, passed, name, habove, hname, hoff => absurd (habove.mem_of_zero hname) hoff
  | fuel + 1, passed, name, habove, hname, hoff => by
    rw [depthFrom_succ]
    obtain ⟨hmem, hle⟩ := isGreatest_foldl_max
      (((g.childrenOf name).filter (· ∉ name :: passed)).map (g.depthFrom fuel (name :: passed)))
    have hchild : ∀ c ∈ g.childrenOf name, c ∉ name :: passed →
        IsGreatest {n | ∃ ms, g.Trail (fun _ => True) (name :: passed) c ms ∧ ms.length = n}
          (g.depthFrom fuel (name :: passed) c) :=
      fun c hc hfree => isGreatest_depthFrom hg (habove.cons hname hoff) (hg.known _ _ hc) hfree
    constructor
    · -- The longest chain below the deepest child, with the name in front, has that length.
      rcases hmem with hzero | hmem
      · exact ⟨[name], .stop hoff trivial, by rw [hzero]; rfl⟩
      · obtain ⟨c, hc, hdepth⟩ := List.mem_map.1 hmem
        obtain ⟨hc, hfree⟩ := List.mem_filter.1 hc
        obtain ⟨ms, hms, hlength⟩ := (hchild c hc (by simpa using hfree)).1
        exact ⟨name :: ms, .go hoff hc hms, by rw [List.length_cons, hlength, hdepth]⟩
    · rintro _ ⟨ms, hms, rfl⟩
      cases hms with
      | stop _ _ => exact Nat.le_add_left 1 _
      | @go _ _ c ms _ hc hrest =>
        have hlength := (hchild c hc hrest.notMem).2 ⟨ms, hrest, rfl⟩
        have hdepth := hle (Or.inr (List.mem_map.2 ⟨c, List.mem_filter.2 ⟨hc, by simpa using hrest.notMem⟩,
          rfl⟩))
        exact Nat.succ_le_succ (Nat.le_trans hlength hdepth)

/-- The depth of a module is the length of a longest chain from it. -/
theorem isGreatest_depth (hg : g.WF) {name : String} (hname : name ∈ g.names) :
    IsGreatest {n | ∃ ms, g.Chain ms ∧ ms.head? = some name ∧ ms.length = n} (g.depth name) := by
  rw [depth, if_pos (mem_names_iff.2 hname)]
  obtain ⟨⟨ms, hms, hlength⟩, hle⟩ := isGreatest_depthFrom hg (above_nil g) hname List.not_mem_nil
  constructor
  · obtain ⟨hchain, hhead, -, -⟩ := trail_iff.1 hms
    exact ⟨ms, hchain, hhead, hlength⟩
  · rintro n ⟨ns, hchain, hhead, hn⟩
    obtain ⟨rest, rfl⟩ := List.head?_eq_some_iff.1 hhead
    exact hle ⟨_, hchain.trail hhead List.getLast?_cons trivial, hn⟩

/-! ## Without circles -/

/-- Without circles a chain goes on to every child of its last module. -/
theorem Chain.concat (hacyclic : g.Acyclic) {ms : List String} (h : g.Chain ms) {p c : String}
    (hlast : ms.getLast? = some p) (hc : g.Edge p c) : g.Chain (ms ++ [c]) := by
  have hoff : c ∉ ms := by
    intro hmem
    obtain ⟨front, back, rfl⟩ := List.append_of_mem hmem
    refine hacyclic (c :: back) (circle_of_edge h.linked.right_of_append ?_ rfl hc)
    rwa [List.getLast?_append_of_ne_nil _ (List.cons_ne_nil _ _)] at hlast
  refine ⟨isChain_concat h.linked hlast hc, ?_⟩
  exact (List.perm_append_singleton c ms).nodup_iff.2 (List.nodup_cons.2 ⟨hoff, h.nodup⟩)

/-- Without circles a longest chain from a top-level module ends at a leaf. -/
theorem exists_fullChain (hg : g.WF) (hacyclic : g.Acyclic) {top : String} (htop : top ∈ g.topLevel) :
    ∃ ms, g.FullChain ms ∧ ms.length = g.depth top := by
  obtain ⟨⟨ms, hchain, hhead, hlength⟩, hle⟩ := isGreatest_depth hg (List.mem_of_mem_filter htop)
  obtain ⟨rest, rfl⟩ := List.head?_eq_some_iff.1 hhead
  refine ⟨_, (fullChain_iff hg).2 ⟨top, htop, hchain.trail hhead List.getLast?_cons ?_⟩, hlength⟩
  by_contra hinner
  obtain ⟨c, hc⟩ := List.exists_mem_of_ne_nil _ hinner
  have hlonger := hle ⟨_, hchain.concat hacyclic List.getLast?_cons hc, rfl, rfl⟩
  rw [List.length_append, List.length_singleton] at hlonger
  omega

theorem length_criticalPath (hg : g.WF) (hacyclic : g.Acyclic) :
    g.criticalPath.length = (g.topLevel.map g.depth).foldl max 0 := by
  obtain ⟨hmem, hle⟩ := isGreatest_foldl_max (g.topLevel.map g.depth)
  apply Nat.le_antisymm
  · by_cases hsome : ∃ ms, g.FullChain ms
    · obtain ⟨ms, hms⟩ := hsome
      obtain ⟨hchain, ⟨top, htop, hhead⟩, -⟩ := (best_criticalPath hg hms).holds
      have hdepth := (isGreatest_depth hg (List.mem_of_mem_filter htop)).2 ⟨_, hchain, hhead, rfl⟩
      exact Nat.le_trans hdepth (hle (Or.inr (List.mem_map_of_mem htop)))
    · rw [criticalPath_eq_nil hg fun ms hms => hsome ⟨ms, hms⟩]
      exact Nat.zero_le _
  · rcases hmem with hzero | hmem
    · rw [hzero]
      exact Nat.zero_le _
    · obtain ⟨top, htop, hdepth⟩ := List.mem_map.1 hmem
      obtain ⟨ms, hms, hlength⟩ := exists_fullChain hg hacyclic htop
      rw [← hdepth, ← hlength]
      rcases (best_criticalPath hg hms).better ms hms with rfl | hahead
      · exact Nat.le_refl _
      · exact hahead.length_le

/-- The depth of a module is the number of modules on a longest chain from it, in circles too, and a name
that is no module has none. Without circles the critical path has as many modules as the deepest of the
top-level modules is deep, and none if there are no modules. -/
theorem depth_eq_longest (hg : g.WF) :
    (∀ m ∈ g.names,
      IsGreatest {n | ∃ ms, g.Chain ms ∧ ms.head? = some m ∧ ms.length = n} (g.depth m)) ∧
    (∀ m, m ∉ g.names → g.depth m = 0) ∧
    (g.Acyclic → g.criticalPath.length = (g.topLevel.map g.depth).foldl max 0) := by
  refine ⟨fun m hm => isGreatest_depth hg hm, fun m hm => ?_, length_criticalPath hg⟩
  rw [depth, if_neg fun h => hm (mem_names_iff.1 h)]

/-- Two top-level modules, below one of which two ways of unequal length lead to a module. -/
def shared : Graph :=
  design [("r", ["s"]), ("s", []), ("t", ["a", "b"]), ("a", ["c"]), ("b", ["d"]), ("d", ["c"]), ("c", [])]

/-- In circles the longest chain from `t` has five modules; without circles it is as long as the
critical path. -/
theorem depth_eq_longest_shared :
    IsGreatest {n | ∃ ms, entwined.Chain ms ∧ ms.head? = some "t" ∧ ms.length = n} 5 ∧
    entwined.depth "u" = 0 ∧
    shared.criticalPath = ["t", "b", "d", "c"] ∧ shared.topLevel.map shared.depth = [2, 4] ∧
    shared.criticalPath.length = (shared.topLevel.map shared.depth).foldl max 0 := by
  have hdepth : entwined.depth "t" = 5 := by decide +kernel
  have hnone : shared.cycles 1 = [] := by decide +kernel
  obtain ⟨hmember, hunknown, -⟩ := depth_eq_longest (wf_design _)
  refine ⟨?_, hunknown "u" (by decide +kernel), by decide +kernel, by decide +kernel, ?_⟩
  · rw [← hdepth]
    exact hmember "t" (by decide +kernel)
  · exact (depth_eq_longest (wf_design _)).2.2 (acyclic_of_cycles_eq_nil (wf_design _) (by decide) hnone)

end RtlAtlas.Graph
