/-
The critical path. Below the modules on the way down, the search finds the best trail to a leaf: a
longer one is better, and of equally long ones the one that a depth-first search comes to earlier. One
step takes the best of the trails through each child, which leave out the modules on the way; the whole
search takes the best over the top-level modules, where nothing is left out.
-/
import RtlAtlas.Graph.Chain
import RtlAtlas.Proofs.Graph.Chain

namespace RtlAtlas.Graph

open OrderedMap

variable {g : Graph}

/-- A chain from a top-level module to a leaf. -/
structure FullChain (g : Graph) (ms : List String) : Prop where
  chain : g.Chain ms
  starts : ∃ top ∈ g.topLevel, ms.head? = some top
  ends : ∃ leaf ∈ g.leaves, ms.getLast? = some leaf

instance (ms : List String) : Decidable (g.FullChain ms) :=
  decidable_of_iff (g.Chain ms ∧ (∃ top ∈ g.topLevel, ms.head? = some top) ∧
    ∃ leaf ∈ g.leaves, ms.getLast? = some leaf)
    ⟨fun ⟨hchain, hstarts, hends⟩ => ⟨hchain, hstarts, hends⟩, fun h => ⟨h.chain, h.starts, h.ends⟩⟩

/-- A module without children. -/
def Childless (g : Graph) (m : String) : Prop := g.childrenOf m = []

/-- A chain is ahead of another if it is longer, or as long and earlier in depth-first order. -/
def Ahead (g : Graph) (options ms ns : List String) : Prop :=
  ns.length < ms.length ∨ ns.length = ms.length ∧ g.Earlier options ms ns

theorem Ahead.length_le {options ms ns : List String} (h : g.Ahead options ms ns) :
    ns.length ≤ ms.length := by
  rcases h with h | ⟨h, -⟩ <;> omega

theorem Ahead.cons {m : String} {ms ns : List String} (options : List String)
    (h : g.Ahead (g.childrenOf m) ms ns) : g.Ahead options (m :: ms) (m :: ns) := by
  rcases h with h | ⟨hlength, h⟩
  · exact Or.inl (Nat.succ_lt_succ h)
  · exact Or.inr ⟨congrArg Nat.succ hlength, h.cons options⟩

/-! ## The longer of two -/

/-- Of two searches whose chains come one after the other, the longer answer is the best of both. -/
theorem Finds.longer {options : List String} {P Q : List String → Prop} {x y : Option (List String)}
    (hx : Finds (g.Ahead options) P x) (hy : Finds (g.Ahead options) Q y)
    (hPQ : ∀ ms ns, P ms → Q ns → g.Earlier options ms ns) :
    Finds (g.Ahead options) (fun ms => P ms ∨ Q ms) (longer x y) := by
  cases x with
  | none => exact hy.congr fun ms => (or_iff_right (hx ms)).symm
  | some a =>
    cases y with
    | none => exact Finds.congr hx fun ms => (or_iff_left (hy ms)).symm
    | some b =>
      show Finds _ _ (if a.length < b.length then some b else some a)
      split
      · rename_i hlt
        refine ⟨Or.inr hy.holds, ?_⟩
        rintro ms (hms | hms)
        · -- `a` and what it is ahead of are shorter than `b`
          refine Or.inr (Or.inl ?_)
          rcases hx.better ms hms with rfl | ha
          · exact hlt
          · exact Nat.lt_of_le_of_lt ha.length_le hlt
        · exact hy.better ms hms
      · rename_i hle
        refine ⟨Or.inl hx.holds, ?_⟩
        rintro ms (hms | hms)
        · exact hx.better ms hms
        · have hlength : ms.length ≤ a.length := by
            rcases hy.better ms hms with rfl | hb
            · omega
            · have := hb.length_le; omega
          right
          rcases Nat.lt_or_eq_of_le hlength with hlt | heq
          · exact Or.inl hlt
          · exact Or.inr ⟨heq, hPQ _ _ hx.holds hms⟩

/-- Options tried in turn, each of which the search knows the best chain of, give the best of all. -/
theorem finds_foldl_longer {options : List String} {P : String → List String → Prop}
    {search : String → Option (List String)} :
    ∀ {os : List String} {R : List String → Prop} {best : Option (List String)},
      Finds (g.Ahead options) R best → (∀ o ∈ os, Finds (g.Ahead options) (P o) (search o)) →
      (∀ o ∈ os, ∀ ms ns, R ms → P o ns → g.Earlier options ms ns) →
      (os.Pairwise fun o o' => ∀ ms ns, P o ms → P o' ns → g.Earlier options ms ns) →
      Finds (g.Ahead options) (fun ms => R ms ∨ ∃ o ∈ os, P o ms)
        (os.foldl (fun best o => longer best (search o)) best)
  | [], R, best, hbest, _, _, _ => hbest.congr fun ms => by simp
  | o :: os, R, best, hbest, hsearch, hfirst, hpairwise => by
    obtain ⟨ho, hos⟩ := List.pairwise_cons.1 hpairwise
    have hnext : Finds (g.Ahead options) (fun ms => R ms ∨ P o ms) (longer best (search o)) :=
      hbest.longer (hsearch o List.mem_cons_self) (hfirst o List.mem_cons_self)
    have hlast := finds_foldl_longer hnext (fun o' ho' => hsearch o' (List.mem_cons_of_mem _ ho')) ?_ hos
    · rw [List.foldl_cons]
      refine hlast.congr fun ms => ?_
      simp only [List.exists_mem_cons_iff, or_assoc]
    · rintro o' ho' ms ns (hms | hms) hns
      · exact hfirst o' (List.mem_cons_of_mem _ ho') ms ns hms hns
      · exact ho o' ho' ms ns hms hns

/-! ## Down to a leaf -/

theorem longestFrom_succ (g : Graph) (fuel : Nat) (passed : List String) (name : String) :
    g.longestFrom (fuel + 1) passed name =
      if g.childrenOf name = [] then some [name]
      else ((g.childrenOf name).foldl (fun best child => longer best
        (if child ∈ name :: passed then none else g.longestFrom fuel (name :: passed) child)) none).map
          (name :: ·) := by
  simp only [longestFrom, List.isEmpty_iff, List.contains_iff_mem]
  refine ite_congr rfl (fun _ => rfl) fun _ => congrArg (Option.map _) ?_
  refine List.foldl_ext _ _ _ fun best child _ => ?_
  split
  · cases best <;> rfl
  · rfl

/-- Below the modules above it, the search finds the best trail from a module to a leaf. -/
theorem finds_longestFrom (hg : g.WF) : ∀ {fuel : Nat} {passed : List String} {name : String}
    (options : List String), g.Above fuel passed → name ∈ g.names → name ∉ passed →
    Finds (g.Ahead options) (g.Trail g.Childless passed name)
      (g.longestFrom fuel passed name)
  | 0, passed, name, options, habove, hname, hoff => absurd (habove.mem_of_zero hname) hoff
  | fuel + 1, passed, name, options, habove, hname, hoff => by
    rw [longestFrom_succ]
    split
    · -- a leaf: its only trail is itself
      rename_i hleaf
      refine ⟨.stop hoff hleaf, ?_⟩
      rintro ms hms
      cases hms with
      | stop _ _ => exact Or.inl rfl
      | @go _ _ c _ _ hc _ =>
        have hnone : c ∈ [] := hleaf ▸ hc
        cases hnone
    · -- a trail goes on with a child; by induction each child off the way finds its best one
      rename_i hinner
      have hbelow := habove.cons hname hoff
      have hchild : ∀ c ∈ g.childrenOf name, Finds (g.Ahead (g.childrenOf name))
          (g.Trail g.Childless (name :: passed) c)
          (if c ∈ name :: passed then none else g.longestFrom fuel (name :: passed) c) := by
        intro c hc
        split
        · rename_i hpassed
          exact fun ms hms => hms.notMem hpassed
        · rename_i hfree
          exact finds_longestFrom hg _ hbelow (hg.known _ _ hc) hfree
      have hbest := finds_foldl_longer finds_none hchild
        (fun _ _ _ _ h => h.elim) (pairwise_earlier (hg.nodup name) fun _ _ h => h.exists_cons)
      -- the best of them, with the module in front
      refine (hbest.cons fun ms ns h => h.cons options).congr fun ms => ?_
      rw [Trail.iff_go _ hinner]
      simp only [false_or, hoff, not_false_eq_true, true_and]

theorem fullChain_iff (hg : g.WF) {ms : List String} : g.FullChain ms ↔
    ∃ top ∈ g.topLevel, g.Trail g.Childless [] top ms := by
  constructor
  · rintro ⟨hchain, ⟨top, htop, hhead⟩, leaf, hleaf, hlast⟩
    have hnone : g.Childless leaf := List.isEmpty_iff.1 (List.mem_filter.1 hleaf).2
    exact ⟨top, htop, hchain.trail hhead hlast hnone⟩
  · rintro ⟨top, htop, htrail⟩
    obtain ⟨hchain, hhead, ⟨leaf, hlast, hnone⟩, -⟩ := trail_iff.1 htrail
    have hknown : leaf ∈ g.names :=
      hg.known_of_trail htrail (List.mem_of_mem_filter htop) (List.mem_of_getLast? hlast)
    exact ⟨hchain, ⟨top, htop, hhead⟩, leaf, List.mem_filter.2 ⟨hknown, List.isEmpty_iff.2 hnone⟩, hlast⟩

/-- The critical path is what the search finds over the top-level modules. -/
theorem exists_criticalPath (hg : g.WF) : ∃ found : Option (List String),
    g.criticalPath = found.getD [] ∧ Finds (g.Ahead g.topLevel) g.FullChain found := by
  have htop : ∀ top ∈ g.topLevel, Finds (g.Ahead g.topLevel) (g.Trail g.Childless [] top)
      (g.longestFrom (g.nodes.size + 1) [] top) :=
    fun top htop => finds_longestFrom hg _ (above_nil g) (List.mem_of_mem_filter htop) List.not_mem_nil
  have hfound := finds_foldl_longer finds_none htop (fun _ _ _ _ h => h.elim)
    (pairwise_earlier (hg.unique.filter _) fun _ _ h => h.exists_cons)
  exact ⟨_, rfl, hfound.congr fun ms => by rw [false_or, fullChain_iff hg]⟩

theorem best_criticalPath (hg : g.WF) {ms : List String} (h : g.FullChain ms) :
    Best (g.Ahead g.topLevel) g.FullChain g.criticalPath := by
  obtain ⟨found, hcritical, hfound⟩ := exists_criticalPath hg
  cases found with
  | none => exact absurd h (hfound ms)
  | some best => exact hcritical ▸ hfound

theorem criticalPath_eq_nil (hg : g.WF) (h : ∀ ms, ¬g.FullChain ms) : g.criticalPath = [] := by
  obtain ⟨found, hcritical, hfound⟩ := exists_criticalPath hg
  cases found with
  | none => exact hcritical
  | some best => exact absurd hfound.holds (h best)

/-- Among the chains from a top-level module to a leaf, whatever circles the modules run in, the critical
path is one that no other is longer than, and of those as long as it, the one that a depth-first search
comes to first: top-level modules in the order of the modules, then children in the order of the edges.
Without any such chain it is empty. -/
theorem criticalPath_ahead (hg : g.WF) :
    ((∃ ms, g.FullChain ms) → Best (g.Ahead g.topLevel) g.FullChain g.criticalPath) ∧
    ((∀ ms, ¬g.FullChain ms) → g.criticalPath = []) :=
  ⟨fun ⟨_, hms⟩ => best_criticalPath hg hms, criticalPath_eq_nil hg⟩

/-- What lies below `y` depends on whether `x` is above it, and below `x` on whether `y` is. -/
def entwined : Graph :=
  design [("t", ["y", "z"]), ("y", ["x", "m", "n"]), ("z", ["x"]), ("x", ["y", "l"]), ("l", []),
    ("m", []), ("n", [])]

/-- The longest chain comes down to `y` by way of `x`, and turns to `m` before `n`. In a ring there is no
top-level module, so that nothing is found. -/
theorem criticalPath_ahead_entwined :
    Best (entwined.Ahead entwined.topLevel) entwined.FullChain ["t", "z", "x", "y", "m"] ∧
    (design [("a", ["b"]), ("b", ["a"])]).criticalPath = [] := by
  have hsome : ∃ ms, entwined.FullChain ms := ⟨["t", "y", "m"], by decide +kernel⟩
  have hpath : entwined.criticalPath = ["t", "z", "x", "y", "m"] := by decide +kernel
  have hring : (design [("a", ["b"]), ("b", ["a"])]).topLevel = [] := by decide +kernel
  constructor
  · rw [← hpath]
    exact (criticalPath_ahead (wf_design _)).1 hsome
  · refine (criticalPath_ahead (wf_design _)).2 ?_
    rintro ms ⟨-, ⟨top, htop, -⟩, -⟩
    rw [hring] at htop
    cases htop

end RtlAtlas.Graph
