/-
Saving a graph and loading it again. Nodes, edges, undefined types and flows come back in the order
they had, and every module has the parents it had; but the parents are listed in the order of the
nodes, not in the order in which instances made them. So a graph comes back as it was exactly when its
parents already stand in that order, and there is a graph whose parents do not.
-/
import RtlAtlas.Proofs.Graph.Content
import RtlAtlas.Proofs.Store.GraphRows
import RtlAtlas.Proofs.Store.Reload

namespace RtlAtlas

open OrderedMap Table RtlAtlas.Graph

/-- The snapshot with a graph in place of its own. -/
def Snapshot.withGraph (s : Snapshot) (g : Graph) : Snapshot := { s with graph := some g }

theorem Snapshot.graph?_replace {g : Graph} (hg : g.WF) (s : Snapshot) (time : String) (d : Database) :
    ((s.withGraph g).replace time d).graph? = .ok (some { g with parents := g.parentsInOrder }) := by
  have hkey := Snapshot.get?_hasGraph (s.withGraph g) time d
  obtain ⟨hrows, -⟩ := Database.graph_rows (d := (s.withGraph g).replace time d) hg rfl rfl rfl rfl
  unfold Database.graph?
  rw [hkey]
  show Except.map some ((s.withGraph g).replace time d).graph = _
  rw [hrows]
  rfl

/-- Parents stand in the order of the nodes when the whole map of parents does. -/
theorem Graph.parentsInOrder_eq_iff {g : Graph} (hg : g.WF) : g.parentsInOrder = g.parents ↔
    ∀ c, g.parentsOf c = g.names.filter fun p => (g.childrenOf p).contains c := by
  constructor
  · intro h c
    rw [← idsAt_parentsInOrder hg c, h]
    rfl
  · intro h
    have hkeys : g.parentsInOrder.keys = g.parents.keys := by
      rw [hg.parentKeys]
      unfold parentsInOrder OrderedMap.keys
      rw [List.map_map]
      exact List.map_id _
    have hunique : g.parentsInOrder.Unique := by
      unfold OrderedMap.Unique
      rw [hkeys]
      exact hg.uniqueParents
    exact ext_idsAt hunique hkeys fun c => (idsAt_parentsInOrder hg c).trans (h c).symm

/-- A graph that was built and saved loads as it was but for the order of parents: each module has the
parents it had, in the order of the nodes. It loads just as it was exactly if they had that order. -/
theorem Snapshot.graph_reloaded (s : Snapshot) (ms : List ModuleDef) (is : List Instance)
    (time : String) (old : Database) :
    let g := build ms is
    let loaded := ((s.withGraph g).replace time old).graph?
    loaded = .ok (some { g with parents := g.parentsInOrder }) ∧
      (∀ c, (idsAt g.parentsInOrder c).Perm (g.parentsOf c)) ∧
      (loaded = .ok (some g) ↔
        ∀ c, g.parentsOf c = g.names.filter fun p => (g.childrenOf p).contains c) := by
  intro g loaded
  obtain ⟨hw, -⟩ := wf_build ms is
  have hloaded : loaded = .ok (some { g with parents := g.parentsInOrder }) :=
    Snapshot.graph?_replace hw s time old
  refine ⟨hloaded, fun c => ?_, ?_⟩
  · have hnodup : (g.parentsOf c).Nodup := (taken_foldl ms is).2.nodupParents c
    have hnames : g.names.Nodup := hw.unique
    -- neither list repeats a parent, so they need only have the same ones
    rw [idsAt_parentsInOrder hw, List.perm_ext_iff_of_nodup (hnames.filter _) hnodup]
    intro p
    rw [List.mem_filter, List.contains_iff_mem, hw.mirrored]
    exact ⟨fun hp => hp.2, fun hp => ⟨hw.known_parent hp, hp⟩⟩
  · rw [← parentsInOrder_eq_iff hw, hloaded]
    constructor
    · intro h
      have hsame : ({ g with parents := g.parentsInOrder } : Graph) = g := by
        injection h with h
        injection h
      exact congrArg Graph.parents hsame
    · intro h
      rw [h]

/-- A file of two modules, and two files that each instantiate the first of them: one from a new
module, one from a second definition of the other. -/
def crossed : List ModuleDef × List Instance :=
  let a := Path.ofString "/repo/a.v"
  let b := Path.ofString "/repo/b.v"
  let c := Path.ofString "/repo/c.v"
  ([⟨"c", a, 1, 2, []⟩, ⟨"b", a, 3, 4, []⟩, ⟨"a", b, 1, 3, []⟩, ⟨"b", c, 1, 3, []⟩],
    [⟨"u", "c", b, 2, [], .empty⟩, ⟨"v", "c", c, 2, [], .empty⟩])

/-- The parents of a module may come back in another order. -/
theorem Snapshot.graph_reloaded_crossed :
    let g := build crossed.1 crossed.2
    let s : Snapshot := ⟨Path.ofString "/repo", [], crossed.1, crossed.2, [], some g⟩
    g.parentsOf "c" = ["a", "b"] ∧
      ((s.replace "" .empty).graph?.toOption.map fun h => h.map (·.parentsOf "c")) =
        some (some ["b", "a"]) ∧
      (s.replace "" .empty).graph? ≠ .ok (some g) := by
  intro g s
  have hbefore : g.parentsOf "c" = ["a", "b"] := by decide +kernel
  have hafter : ((s.replace "" .empty).graph?.toOption.map fun h => h.map (·.parentsOf "c")) =
      some (some ["b", "a"]) := by decide +kernel
  refine ⟨hbefore, hafter, fun h => ?_⟩
  rw [h] at hafter
  have hsame : g.parentsOf "c" = ["b", "a"] := Option.some.inj (Option.some.inj hafter)
  rw [hbefore] at hsame
  exact absurd hsame (by decide)

end RtlAtlas
