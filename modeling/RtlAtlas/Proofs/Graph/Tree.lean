/-
What the tree of instances shows. A tree that may be as deep as there are modules shows, as a node
with a definition, just the modules that lie below its root: every module of it lies below the root
because instances make edges, and on a way down that never comes back to a module the tree is neither
cut off nor closed early.
-/
import RtlAtlas.Graph.Tree
import RtlAtlas.Proofs.Graph.Chain
import RtlAtlas.Proofs.Graph.Content
import RtlAtlas.Proofs.Graph.Route

namespace RtlAtlas

/-- A tree shows a module if one of its nodes is an instance of the module and has a definition. -/
def Tree.Shows (t : Tree) (module : String) : Prop :=
  ∃ node ∈ t.flatten, node.module = module ∧ node.resolved = true

theorem Tree.flattenAll_eq : ∀ ts : List Tree, Tree.flattenAll ts = ts.flatMap Tree.flatten
  | [] => by rw [Tree.flattenAll, List.flatMap_nil]
  | t :: ts => by rw [Tree.flattenAll, Tree.flattenAll_eq ts, List.flatMap_cons]

/-- A tree shows the module at its root, and what the trees below it show. -/
theorem Tree.shows_iff {module name : String} {inst : Option String} {depth : Nat} {resolved : Bool}
    {children : List Tree} : (⟨name, inst, depth, resolved, children⟩ : Tree).Shows module ↔
      (name = module ∧ resolved = true) ∨ ∃ t ∈ children, t.Shows module := by
  unfold Tree.Shows
  rw [Tree.flatten, Tree.flattenAll_eq]
  simp only [List.mem_cons, List.mem_flatMap, or_and_right, exists_or, exists_eq_left]
  refine or_congr Iff.rfl ⟨?_, ?_⟩
  · rintro ⟨node, ⟨t, ht, hnode⟩, hshown⟩
    exact ⟨t, ht, node, hnode, hshown⟩
  · rintro ⟨t, ht, node, hnode, hshown⟩
    exact ⟨node, ⟨t, ht, hnode⟩, hshown⟩

namespace Graph

open OrderedMap Table

/-- The instances in the nodes of a graph and its edges belong together: from a module an edge leads
to just the modules that it has an instance of. -/
def Instantiates (g : Graph) : Prop :=
  ∀ p n, g.node? p = some n → ∀ c, c ∈ g.childrenOf p ↔
    ∃ i ∈ n.instances, i.moduleType = c ∧ c ∈ g.names

theorem resolvedIn_moduleType (ms : List ModuleDef) (i : Instance) :
    (resolvedIn ms i).moduleType = i.moduleType := by
  unfold resolvedIn resolveInstance
  split <;> rfl

theorem instantiates_build (ms : List ModuleDef) (is : List Instance) :
    (build ms is).Instantiates := by
  intro p n hn c
  obtain ⟨-, htaken⟩ := taken_foldl ms is
  have hnode : (ms.find? fun m => m.name == p).map (fullNode ms is) = some n :=
    (htaken.node?_eq p).symm.trans hn
  obtain ⟨m, hm, rfl⟩ := Option.map_eq_some_iff.1 hnode
  have hname : m.name = p := by simpa using List.find?_some hm
  refine (htaken.children p c).trans ?_
  subst hname
  constructor
  · rintro ⟨i, hi, hparent, htype, hc⟩
    refine ⟨resolvedIn ms i, List.mem_map.2 ⟨i, List.mem_filter.2 ⟨hi, ?_⟩, rfl⟩, ?_, hc⟩
    · rw [hparent, beq_self_eq_true]
    · rw [resolvedIn_moduleType, htype]
  · rintro ⟨j, hj, htype, hc⟩
    obtain ⟨i, hi, rfl⟩ := List.mem_map.1 hj
    obtain ⟨hi, hparent⟩ := List.mem_filter.1 hi
    exact ⟨i, hi, beq_iff_eq.1 hparent, resolvedIn_moduleType ms i ▸ htype, hc⟩

variable {g : Graph}

theorem mem_sortInstances {is : List Instance} {i : Instance} : i ∈ sortInstances is ↔ i ∈ is :=
  (List.mergeSort_perm is _).mem_iff

/-- The root of a tree has a definition if the tree shows anything, and all that it shows lies below
the root. -/
theorem below_of_shows (hg : g.Instantiates) {maxDepth : Int} {m : String} :
    ∀ {fuel : Nat} {passed : List String} {name : String} {inst : Option String} {depth : Nat},
      (g.treeFrom maxDepth fuel passed name inst depth).Shows m → name ∈ g.names ∧ g.Below [] name m
  | 0, passed, name, inst, depth, h => by
    rw [treeFrom, Tree.shows_iff] at h
    obtain ⟨rfl, hknown⟩ | ⟨t, ht, -⟩ := h
    · exact ⟨mem_names_iff.1 hknown, .here List.not_mem_nil⟩
    · cases ht
  | fuel + 1, passed, name, inst, depth, h => by
    rw [treeFrom] at h
    split at h
    · obtain ⟨-, hfalse⟩ | ⟨t, ht, -⟩ := Tree.shows_iff.1 h
      · cases hfalse
      · cases ht
    · rename_i n hn
      have hname : name ∈ g.names := mem_keys_of_get? hn
      refine ⟨hname, ?_⟩
      split at h
      · obtain ⟨rfl, -⟩ | ⟨t, ht, -⟩ := Tree.shows_iff.1 h
        · exact .here List.not_mem_nil
        · cases ht
      · obtain ⟨rfl, -⟩ | ⟨t, ht, hshows⟩ := Tree.shows_iff.1 h
        · exact .here List.not_mem_nil
        · obtain ⟨i, hi, rfl⟩ := List.mem_map.1 ht
          obtain ⟨htype, hbelow⟩ := below_of_shows hg hshows
          exact .down List.not_mem_nil
            ((hg _ _ hn _).2 ⟨i, mem_sortInstances.1 hi, rfl, htype⟩) hbelow

/-- A module that lies below another one, off the way passed so far, is shown by the tree of the
second: the way so far leaves depth for it, because it holds no module twice. -/
theorem shows_of_below (hg : g.Instantiates) {maxDepth : Int}
    (hdepth : (g.nodes.size : Int) ≤ maxDepth) {m : String} :
    ∀ {fuel : Nat} {passed : List String} {name : String} (inst : Option String),
      g.Above fuel passed → name ∈ g.names → g.Below passed name m →
      (g.treeFrom maxDepth fuel passed name inst passed.length).Shows m
  | 0, passed, name, inst, habove, hname, h => absurd (habove.mem_of_zero hname) h.notMem
  | fuel + 1, passed, name, inst, habove, hname, h => by
    have hentered := habove.cons hname h.notMem
    obtain ⟨n, hn⟩ := exists_get?_iff.2 hname
    have hopen : ¬(decide (maxDepth ≤ (passed.length : Int)) || passed.contains name) = true := by
      have hlength : passed.length + 1 ≤ g.nodes.size := length_le_size hentered.nodup hentered.known
      have hfar : ¬maxDepth ≤ (passed.length : Int) := by omega
      simp [hfar, h.notMem]
    rw [treeFrom, show g.node? name = some n from hn]
    simp only
    rw [if_neg hopen, Tree.shows_iff]
    rcases h.cases_child with rfl | ⟨c, hc, hbelow⟩
    · exact Or.inl ⟨rfl, rfl⟩
    · obtain ⟨i, hi, rfl, hknown⟩ := (hg _ _ hn c).1 hc
      refine Or.inr ⟨_, List.mem_map.2 ⟨i, mem_sortInstances.2 hi, rfl⟩, ?_⟩
      exact shows_of_below hg hdepth (some i.name) hentered hknown hbelow

/-- A tree that may be as deep as there are modules shows what lies below its root. -/
theorem tree?_shows_iff (hg : g.Instantiates) {root : String} (hroot : root ∈ g.names)
    {maxDepth : Int} (hdepth : (g.nodes.size : Int) ≤ maxDepth) : ∃ t, g.tree? root maxDepth = some t ∧
      ∀ m, t.Shows m ↔ g.Below [] root m := by
  refine ⟨_, if_pos (mem_names_iff.2 hroot), fun m => ⟨fun h => (below_of_shows hg h).2, fun h => ?_⟩⟩
  exact shows_of_below hg hdepth none (above_nil g) hroot h

end Graph

end RtlAtlas
