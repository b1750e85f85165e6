/-
The tree of instances and the search for a way down agree on what lies below a module; and where there
are no circles, everything lies below some top-level module: going up from a module to one that
instantiates it goes up in the order of the settled modules, and ends only at a top-level module.
-/
import RtlAtlas.Proofs.Graph.Cycle
import RtlAtlas.Proofs.Graph.Tree

namespace RtlAtlas.Graph

open OrderedMap

variable {g : Graph}

/-- Without circles every module lies below a top-level one. -/
theorem exists_topLevel_below (hg : g.WF) {done : List String} (hs : g.Settled [] done)
    (hall : g.names ⊆ done) {m : String} (hm : m ∈ g.names) : ∃ top ∈ g.topLevel, g.Below [] top m := by
  induction hn : done.idxOf m using Nat.strong_induction_on generalizing m with
  | _ n ih =>
    cases hparents : g.parentsOf m with
    | nil => exact ⟨m, List.mem_filter.2 ⟨hm, by rw [hparents]; rfl⟩, .here List.not_mem_nil⟩
    | cons p ps =>
      have hedge : m ∈ g.childrenOf p := (hg.mirrored p m).1 (hparents ▸ List.mem_cons_self)
      have hp : p ∈ g.names := hg.known_parent hedge
      obtain ⟨circle, hcircle, -⟩ | ⟨-, hlt⟩ := hs.closes_or_later (hall hp) hedge
      · cases hcircle
      obtain ⟨top, htop, hbelow⟩ := ih _ (hn ▸ hlt) hp rfl
      exact ⟨top, htop, hbelow.trans (.down List.not_mem_nil hedge (.here List.not_mem_nil))⟩

/-- In a graph that is built, in place of whatever a graph held, a tree that may be as deep as there
are modules shows just the modules that a way down leads to; and if no circle is found, a way down
from some top-level module leads to every module, so the trees of these show all of them. -/
theorem tree_shows_iff_route (before : Graph) (ms : List ModuleDef) (is : List Instance) :
    before.rebuild ms is = .ok (build ms is) ∧
    (∀ root ∈ (build ms is).names, ∀ m ∈ (build ms is).names, ∀ maxDepth : Int,
      ((build ms is).nodes.size : Int) ≤ maxDepth →
      ∃ t, (build ms is).tree? root maxDepth = some t ∧
        (t.Shows m ↔ ((build ms is).route? root m).isSome = true)) ∧
    (∀ limit : Int, 1 ≤ limit → (build ms is).cycles limit = [] → ∀ m ∈ (build ms is).names,
      ∃ top ∈ (build ms is).topLevel, ((build ms is).route? top m).isSome = true ∧
        ∀ maxDepth : Int, ((build ms is).nodes.size : Int) ≤ maxDepth →
          ∃ t, (build ms is).tree? top maxDepth = some t ∧ t.Shows m) := by
  have hw : (build ms is).WF := (wf_build ms is).1
  have hi : (build ms is).Instantiates := instantiates_build ms is
  refine ⟨rebuild_eq before ms is, fun root hroot m hm maxDepth hdepth => ?_,
    fun limit hlimit hcycles m hm => ?_⟩
  · obtain ⟨t, ht, hshows⟩ := tree?_shows_iff hi hroot hdepth
    exact ⟨t, ht, (hshows m).trans (isSome_route?_iff hw hroot hm).symm⟩
  · have hfew : (((build ms is).cycles limit).length : Int) < limit := by
      rw [hcycles]
      exact hlimit
    obtain ⟨done, hsettled, hall⟩ := exists_settled hw hfew
    rw [hcycles] at hsettled
    obtain ⟨top, htop, hbelow⟩ := exists_topLevel_below hw hsettled hall hm
    have hknown : top ∈ (build ms is).names := List.mem_of_mem_filter htop
    refine ⟨top, htop, (isSome_route?_iff hw hknown hm).2 hbelow, fun maxDepth hdepth => ?_⟩
    obtain ⟨t, ht, hshows⟩ := tree?_shows_iff hi hknown hdepth
    exact ⟨t, ht, (hshows m).2 hbelow⟩

/-- Three modules in one file, where the first instantiates the second twice and the second
instantiates the third and a type without a definition. -/
def chained : List ModuleDef × List Instance :=
  let file : Path := ⟨.root, ["r", "a.v"]⟩
  ([⟨"top", file, 1, 4, []⟩, ⟨"mid", file, 5, 8, []⟩, ⟨"low", file, 9, 10, []⟩],
    [⟨"u", "mid", file, 2, [], .empty⟩, ⟨"v", "mid", file, 3, [], .empty⟩,
      ⟨"w", "low", file, 6, [], .empty⟩, ⟨"x", "cell", file, 7, [], .empty⟩])

/-- The tree of the first of the three modules shows the last one, as there is a way down, but the tree
of the last does not show the first; and the last lies below the first, the only top-level module. -/
theorem tree_shows_iff_route_chained :
    (build chained.1 chained.2).topLevel = ["top"] ∧
    (∃ t, (build chained.1 chained.2).tree? "top" 3 = some t ∧ t.Shows "low") ∧
    (∃ t, (build chained.1 chained.2).tree? "low" 3 = some t ∧ ¬t.Shows "top") ∧
    ∃ top ∈ (build chained.1 chained.2).topLevel,
      ((build chained.1 chained.2).route? top "low").isSome = true := by
  obtain ⟨-, hagree, hcover⟩ := tree_shows_iff_route .empty chained.1 chained.2
  refine ⟨by decide +kernel, ?_, ?_, ?_⟩
  · obtain ⟨t, ht, hshows⟩ := hagree "top" (by decide +kernel) "low" (by decide +kernel) 3 (by decide +kernel)
    exact ⟨t, ht, hshows.2 (by decide +kernel)⟩
  · obtain ⟨t, ht, hshows⟩ := hagree "low" (by decide +kernel) "top" (by decide +kernel) 3 (by decide +kernel)
    exact ⟨t, ht, fun h => absurd (hshows.1 h) (by decide +kernel)⟩
  · obtain ⟨top, htop, hway, -⟩ := hcover 1 (by decide) (by decide +kernel) "low" (by decide +kernel)
    exact ⟨top, htop, hway⟩

end RtlAtlas.Graph
