/-
The tree of instances as the bounded unfolding of the hierarchy. A way down the hierarchy is a chain of
instances, each with its place among those of the module it belongs to; it may end at a module that it
has been at before, or at one without a definition, but goes on from neither. The branches of a tree are
such ways, each of them once, up to the greatest depth: they stand in the order of the instances' lines,
and places where lines are equal. What each node tells is read off the way that ends at it.
-/
import Mathlib.Data.List.Infix
import RtlAtlas.Proofs.Graph.Tree
import RtlAtlas.Proofs.Order

namespace RtlAtlas

/-! ## Going through a tree -/

theorem Tree.walk_eq (ts : List Tree) : Tree.walk ts = Tree.flattenAll ts := by
  induction ts using Tree.walk.induct with
  | case1 => rw [Tree.walk, Tree.flattenAll]
  | case2 t ts ih =>
    obtain ⟨module, inst, depth, resolved, children⟩ := t
    rw [Tree.walk, ih, Tree.flattenAll_eq, Tree.flattenAll_eq, List.flatMap_append, List.flatMap_cons,
      Tree.flatten, Tree.flattenAll_eq, List.cons_append]

theorem Tree.iterate_eq (t : Tree) : t.iterate = t.flatten := by
  rw [Tree.iterate, Tree.walk_eq, Tree.flattenAll, Tree.flattenAll, List.append_nil]

theorem Tree.flatten_eq_cons (t : Tree) : t.flatten = t :: t.underRoot := by
  cases t
  rw [Tree.flatten, Tree.underRoot]

mutual

theorem Tree.length_flatten : ∀ t : Tree, t.flatten.length = t.size
  | ⟨_, _, _, _, children⟩ => by
    rw [Tree.flatten, Tree.size, List.length_cons, Tree.length_flattenAll children, Nat.add_comm]

theorem Tree.length_flattenAll : ∀ ts : List Tree, (Tree.flattenAll ts).length = Tree.sizeAll ts
  | [] => rfl
  | t :: ts => by
    rw [Tree.flattenAll, Tree.sizeAll, List.length_append, t.length_flatten,
      Tree.length_flattenAll ts]

end

/-! ## Branches -/

mutual

/-- The ways from the root of a tree down to its nodes, in the order of the nodes. -/
def Tree.branches : Tree → List (List Tree)
  | t@⟨_, _, _, _, children⟩ => [t] :: (Tree.branchesAll children).map (t :: ·)

def Tree.branchesAll : List Tree → List (List Tree)
  | [] => []
  | t :: ts => t.branches ++ Tree.branchesAll ts

end

theorem Tree.branchesAll_eq : ∀ ts : List Tree, Tree.branchesAll ts = ts.flatMap Tree.branches
  | [] => by rw [Tree.branchesAll, List.flatMap_nil]
  | t :: ts => by rw [Tree.branchesAll, Tree.branchesAll_eq ts, List.flatMap_cons]

theorem getLast?_cons_of_some {α : Type} {l : List α} {a b : α} (h : l.getLast? = some b) :
    (a :: l).getLast? = l.getLast? := by
  rw [List.getLast?_cons, h, Option.getD_some]

mutual

/-- A branch ends at its node. -/
theorem Tree.branches_last : ∀ t : Tree, t.branches.map List.getLast? = t.flatten.map some
  | ⟨module, inst, depth, resolved, children⟩ => by
    have hbelow := Tree.branchesAll_last children
    rw [Tree.branches, Tree.flatten, List.map_cons, List.map_cons, List.map_map, ← hbelow]
    refine congrArg₂ _ rfl (List.map_congr_left fun branch hbranch => ?_)
    obtain ⟨t, -, ht⟩ := List.mem_map.1 (hbelow ▸ List.mem_map_of_mem (f := List.getLast?) hbranch)
    exact getLast?_cons_of_some ht.symm

theorem Tree.branchesAll_last :
    ∀ ts : List Tree, (Tree.branchesAll ts).map List.getLast? = (Tree.flattenAll ts).map some
  | [] => rfl
  | t :: ts => by
    rw [Tree.branchesAll, Tree.flattenAll, List.map_append, List.map_append, t.branches_last,
      Tree.branchesAll_last ts]

end

/-- What a node of a tree tells by itself. -/
structure Tree.Label where
  module : String
  inst : Option String
  depth : Nat
  resolved : Bool
  deriving DecidableEq, Repr

def Tree.label (t : Tree) : Tree.Label := ⟨t.module, t.inst, t.depth, t.resolved⟩

namespace Graph

open OrderedMap

/-! ## Ways down the hierarchy -/

/-- An instance, with its place among the instances of the module that it belongs to. -/
abbrev Placed := Instance × Nat

/-- The order of the instances of one module: by line, and by place where lines are equal. -/
def Placed.Before (x y : Placed) : Prop :=
  x.1.line < y.1.line ∨ x.1.line = y.1.line ∧ x.2 < y.2

/-- The modules that a chain of instances leaves: the one it starts at, and the types of all its
instances but the last. -/
def owners (root : String) : List Placed → List String
  | [] => []
  | i :: is => root :: owners i.1.moduleType is

/-- The module that a chain of instances ends at. -/
def target (root : String) (is : List Placed) : String :=
  (is.getLast?.map (·.1.moduleType)).getD root

/-- A module has an instance at a place. -/
def Owns (g : Graph) (module : String) (i : Placed) : Prop :=
  ∃ n, g.node? module = some n ∧ n.instances[i.2]? = some i.1

/-- A way down the hierarchy: each of its instances belongs to the module it has come to, and it leaves
no module twice. -/
structure Descent (g : Graph) (root : String) (is : List Placed) : Prop where
  owned : List.Forall₂ g.Owns (owners root is) is
  distinct : (owners root is).Nodup

/-- What the node at the end of a way down tells, if the way starts at `module`, the type of `inst`,
which lies at `depth`. -/
def labelFrom (g : Graph) (module : String) (inst : Option String) (depth : Nat) (is : List Placed) :
    Tree.Label :=
  ⟨target module is, (is.getLast?.map (·.1.name)).or inst, depth + is.length,
    g.contains (target module is)⟩

/-- The instances of a module in their order, with their places. -/
def placedInstances (n : Node) : List Placed :=
  n.instances.zipIdx.mergeSort (List.zipIdxLE fun a b => (compare a.line b.line).isLE)

/-- The ways down from a module that go on as the tree does. -/
def descentsFrom (g : Graph) (maxDepth : Int) : Nat → List String → String → Nat → List (List Placed)
  | 0, _, _, _ => [[]]
  | fuel + 1, passed, module, depth =>
    match g.node? module with
    | none => [[]]
    | some n =>
      if maxDepth ≤ depth || passed.contains module then [[]]
      else
        [] :: (placedInstances n).flatMap fun i =>
          (descentsFrom g maxDepth fuel (module :: passed) i.1.moduleType (depth + 1)).map (i :: ·)

variable {g : Graph} {maxDepth : Int}

/-! ### Instances in their order -/

theorem map_fst_placedInstances (n : Node) :
    (placedInstances n).map (·.1) = sortInstances n.instances := by
  rw [placedInstances, List.mergeSort_zipIdx, sortInstances]

theorem mem_placedInstances {n : Node} {i : Placed} :
    i ∈ placedInstances n ↔ n.instances[i.2]? = some i.1 := by
  rw [placedInstances, List.mem_mergeSort, ← List.mk_mem_zipIdx_iff_getElem?]

theorem pairwise_placedInstances (n : Node) : (placedInstances n).Pairwise Placed.Before := by
  have : Std.TransCmp (fun a b : Instance => compare a.line b.line) :=
    inferInstanceAs (Std.TransCmp (compareOn fun i : Instance => i.line))
  refine (pairwise_mergeSort_zipIdx (fun a b : Instance => compare a.line b.line) n.instances).imp ?_
  rintro x y (hlt | ⟨heq, hplace⟩)
  · exact Or.inl (Int.compare_eq_lt.1 hlt)
  · exact Or.inr ⟨Int.compare_eq_eq.1 heq, hplace⟩

/-! ### Extending a way at its start -/

theorem target_cons (module : String) (i : Placed) (is : List Placed) :
    target module (i :: is) = target i.1.moduleType is := by
  unfold target
  cases h : is.getLast? with
  | none => simp [List.getLast?_cons, h]
  | some j => simp [List.getLast?_cons, h]

theorem labelFrom_cons (module : String) (inst : Option String) (depth : Nat) (i : Placed)
    (is : List Placed) : g.labelFrom module inst depth (i :: is) =
      g.labelFrom i.1.moduleType (some i.1.name) (depth + 1) is := by
  unfold labelFrom
  rw [target_cons, List.length_cons, Nat.add_right_comm, Nat.add_assoc]
  cases h : is.getLast? with
  | none => simp [List.getLast?_cons, h]
  | some j => simp [List.getLast?_cons, h]

theorem descent_nil (module : String) : g.Descent module [] := ⟨.nil, List.nodup_nil⟩

/-- A way down that avoids some modules starts with an instance of its first module, which is then one
of those to be avoided. -/
theorem descent_cons_iff {passed : List String} {module : String} {i : Placed} {is : List Placed} :
    (g.Descent module (i :: is) ∧ ∀ m ∈ owners module (i :: is), m ∉ passed) ↔
      module ∉ passed ∧ g.Owns module i ∧
        g.Descent i.1.moduleType is ∧ ∀ m ∈ owners i.1.moduleType is, m ∉ module :: passed := by
  rw [owners]
  constructor
  · rintro ⟨⟨howned, hdistinct⟩, havoid⟩
    rw [owners] at howned hdistinct
    obtain ⟨hi, hrest⟩ := List.forall₂_cons.1 howned
    obtain ⟨hoff, hnodup⟩ := List.nodup_cons.1 hdistinct
    refine ⟨havoid module List.mem_cons_self, hi, ⟨hrest, hnodup⟩, fun m hm => ?_⟩
    rw [List.mem_cons, not_or]
    exact ⟨fun heq => hoff (heq ▸ hm), havoid m (List.mem_cons_of_mem _ hm)⟩
  · rintro ⟨hmodule, hi, ⟨hrest, hnodup⟩, havoid⟩
    refine ⟨⟨.cons hi hrest, List.nodup_cons.2 ⟨fun hm => ?_, hnodup⟩⟩, ?_⟩
    · exact havoid module hm List.mem_cons_self
    · intro m hm
      rcases List.mem_cons.1 hm with rfl | hm
      · exact hmodule
      · exact fun hp => havoid m hm (List.mem_cons_of_mem _ hp)

/-! ## The tree and the ways down -/

/-- A node without anything below it ends a way down that goes nowhere. -/
theorem branches_leaf {module : String} {inst : Option String} {depth : Nat} {resolved : Bool}
    (h : g.contains module = resolved) :
    (⟨module, inst, depth, resolved, []⟩ : Tree).branches.map (List.map Tree.label) =
      [[]].map fun is => is.inits.map (g.labelFrom module inst depth) := by
  subst h
  rfl

/-- The branches of a node are the node alone, and those below it with the node in front. -/
theorem branches_node {module : String} {inst : Option String} {depth : Nat}
    (h : g.contains module = true) (is : List Placed) (below : Placed → Tree)
    (ways : Placed → List (List Placed))
    (hbelow : ∀ i ∈ is, (below i).branches.map (List.map Tree.label) =
      (ways i).map fun js => js.inits.map (g.labelFrom i.1.moduleType (some i.1.name) (depth + 1))) :
    (⟨module, inst, depth, true, is.map below⟩ : Tree).branches.map (List.map Tree.label) =
      ([] :: is.flatMap fun i => (ways i).map (i :: ·)).map fun js =>
        js.inits.map (g.labelFrom module inst depth) := by
  have hhead : (⟨module, inst, depth, true⟩ : Tree.Label) = g.labelFrom module inst depth [] := by
    unfold labelFrom
    rw [show target module [] = module from rfl, h]
    rfl
  rw [Tree.branches, Tree.branchesAll_eq, List.map_cons, List.map_cons, List.map_map]
  refine congrArg₂ _ ?_ ?_
  · exact congrArg (fun label => [label]) hhead
  · -- Each branch of a child is the child's label in front of a way's labels, one level further down.
    rw [List.flatMap_map, List.map_flatMap, List.map_flatMap]
    refine List.flatMap_congr fun i hi => ?_
    have hfront : (below i).branches.map (List.map Tree.label ∘ fun branch =>
          (⟨module, inst, depth, true, is.map below⟩ : Tree) :: branch) =
        ((below i).branches.map (List.map Tree.label)).map
          fun labels => g.labelFrom module inst depth [] :: labels := by
      rw [List.map_map, ← hhead]
      rfl
    rw [hfront, hbelow i hi, List.map_map, List.map_map]
    refine List.map_congr_left fun js _ => ?_
    simp only [Function.comp_apply, List.inits_cons, List.map_cons, List.map_map]
    refine congrArg₂ _ rfl (List.map_congr_left fun start _ => ?_)
    exact (labelFrom_cons module inst depth i start).symm

/-- The branches of a tree tell what lies on the ways down, step by step. -/
theorem branches_treeFrom : ∀ (fuel : Nat) (passed : List String) (module : String)
    (inst : Option String) (depth : Nat),
    (g.treeFrom maxDepth fuel passed module inst depth).branches.map (List.map Tree.label) =
      (g.descentsFrom maxDepth fuel passed module depth).map fun is =>
        is.inits.map (g.labelFrom module inst depth)
  | 0, passed, module, inst, depth => branches_leaf rfl
  | fuel + 1, passed, module, inst, depth => by
    have hcontains : g.contains module = (g.node? module).isSome := contains_eq_isSome _ _
    rw [treeFrom, descentsFrom]
    cases hn : g.node? module with
    | none =>
      rw [hn] at hcontains
      exact branches_leaf hcontains
    | some n =>
      rw [hn] at hcontains
      simp only
      split
      · exact branches_leaf hcontains
      · rw [← map_fst_placedInstances, List.map_map]
        exact branches_node hcontains (placedInstances n) _ _ fun i _ =>
          branches_treeFrom fuel (module :: passed) i.1.moduleType (some i.1.name) (depth + 1)

theorem nil_mem_descentsFrom (fuel : Nat) (passed : List String) (module : String) (depth : Nat) :
    [] ∈ g.descentsFrom maxDepth fuel passed module depth := by
  cases fuel with
  | zero => exact List.mem_cons_self
  | succ fuel =>
    rw [descentsFrom]
    split
    · exact List.mem_cons_self
    · split
      · exact List.mem_cons_self
      · exact List.mem_cons_self

/-- A way down that the tree goes starts with an instance of a known module that was not passed, above
the greatest depth. -/
theorem cons_mem_descentsFrom {fuel : Nat} {passed : List String} {module : String} {depth : Nat}
    {i : Placed} {is : List Placed} :
    i :: is ∈ g.descentsFrom maxDepth (fuel + 1) passed module depth ↔
      module ∉ passed ∧ (depth : Int) < maxDepth ∧ g.Owns module i ∧
        is ∈ g.descentsFrom maxDepth fuel (module :: passed) i.1.moduleType (depth + 1) := by
  rw [descentsFrom]
  unfold Owns
  cases hn : g.node? module with
  | none => simp
  | some n =>
    simp only
    split
    · -- the module was passed or is too deep: only the empty descent is left
      rename_i hclosed
      rw [Bool.or_eq_true, decide_eq_true_eq, List.contains_iff_mem] at hclosed
      constructor
      · intro h
        simp at h
      · rintro ⟨hoff, hlt, -⟩
        rcases hclosed with hdeep | hpassed
        · omega
        · exact absurd hpassed hoff
    · rename_i hopen
      -- an instance of it, and a descent from the type of that
      rw [Bool.or_eq_true, decide_eq_true_eq, List.contains_iff_mem, not_or, Int.not_le] at hopen
      constructor
      · intro h
        rcases List.mem_cons.1 h with h | h
        · cases h
        · obtain ⟨j, hj, h⟩ := List.mem_flatMap.1 h
          obtain ⟨js, hjs, heq⟩ := List.mem_map.1 h
          cases heq
          exact ⟨hopen.2, hopen.1, ⟨n, rfl, mem_placedInstances.1 hj⟩, hjs⟩
      · rintro ⟨-, -, ⟨m, hm, hi⟩, his⟩
        cases hm
        exact List.mem_cons_of_mem _ (List.mem_flatMap.2
          ⟨i, mem_placedInstances.2 hi, List.mem_map.2 ⟨is, his, rfl⟩⟩)

/-- The ways down that the tree goes are those that leave no module that was passed, up to the greatest
depth: where fuel runs out, all modules have been passed. -/
theorem mem_descentsFrom {is : List Placed} : ∀ {fuel : Nat} {passed : List String} {module : String}
    {depth : Nat}, g.Above fuel passed → (depth : Int) ≤ maxDepth →
      (is ∈ g.descentsFrom maxDepth fuel passed module depth ↔
        (g.Descent module is ∧ ∀ m ∈ owners module is, m ∉ passed) ∧
          (depth : Int) + is.length ≤ maxDepth) := by
  induction is with
  | nil =>
    intro fuel passed module depth _ hdepth
    refine iff_of_true (nil_mem_descentsFrom fuel passed module depth) ⟨⟨descent_nil module, ?_⟩, ?_⟩
    · intro m hm
      cases hm
    · simpa using hdepth
  | cons i is ih =>
    intro fuel passed module depth habove hdepth
    rw [descent_cons_iff]
    have hknown : g.Owns module i → module ∈ g.names := fun ⟨n, hn, _⟩ => mem_keys_of_get? hn
    cases fuel with
    | zero =>
      -- a module that owns an instance is known, so it has been passed
      refine iff_of_false (fun h => ?_) ?_
      · simp [descentsFrom] at h
      · rintro ⟨⟨hoff, hi, -⟩, -⟩
        exact hoff (habove.mem_of_zero (hknown hi))
    | succ fuel =>
      rw [cons_mem_descentsFrom, List.length_cons]
      constructor
      · rintro ⟨hoff, hlt, hi, his⟩
        obtain ⟨hrest, hlength⟩ :=
          (ih (habove.cons (hknown hi) hoff) (by push_cast; omega)).1 his
        refine ⟨⟨hoff, hi, hrest⟩, ?_⟩
        push_cast at hlength ⊢
        omega
      · rintro ⟨⟨hoff, hi, hrest⟩, hlength⟩
        push_cast at hlength
        refine ⟨hoff, by omega, hi, (ih (habove.cons (hknown hi) hoff) ?_).2 ⟨hrest, ?_⟩⟩
        · push_cast
          omega
        · push_cast
          omega

/-- The tree comes to the ways down in their order, so to none of them twice. -/
theorem pairwise_descentsFrom : ∀ (fuel : Nat) (passed : List String) (module : String) (depth : Nat),
    (g.descentsFrom maxDepth fuel passed module depth).Pairwise (List.Lex Placed.Before)
  | 0, passed, module, depth => List.pairwise_singleton _ _
  | fuel + 1, passed, module, depth => by
    rw [descentsFrom]
    split
    · exact List.pairwise_singleton _ _
    · rename_i n hn
      split
      · exact List.pairwise_singleton _ _
      · refine List.pairwise_cons.2 ⟨fun is his => ?_, List.pairwise_flatMap.2 ⟨fun i _ => ?_, ?_⟩⟩
        · -- the way that ends here comes before all that go on
          obtain ⟨i, -, his⟩ := List.mem_flatMap.1 his
          obtain ⟨js, -, rfl⟩ := List.mem_map.1 his
          exact .nil
        · rw [List.pairwise_map]
          exact (pairwise_descentsFrom fuel (module :: passed) i.1.moduleType (depth + 1)).imp .cons
        · refine (pairwise_placedInstances n).imp fun {i j} hij is his js hjs => ?_
          obtain ⟨is', -, rfl⟩ := List.mem_map.1 his
          obtain ⟨js', -, rfl⟩ := List.mem_map.1 hjs
          exact .rel hij

/-- The tree of instances below a known module is the unfolding of the hierarchy up to the greatest
depth. Its branches are, one for one and in order, the ways down from the module that have at most so many
instances; each node of a branch tells what the way tells up to there. Going through the tree, laying it
flat and counting its nodes agree. -/
theorem tree?_unfolds {root : String} (hroot : root ∈ g.names) (hdepth : 0 ≤ maxDepth) :
    ∃ (t : Tree) (ways : List (List Placed)), g.tree? root maxDepth = some t ∧
      ways.Pairwise (List.Lex Placed.Before) ∧
      (∀ is, is ∈ ways ↔ g.Descent root is ∧ (is.length : Int) ≤ maxDepth) ∧
      t.branches.map (List.map Tree.label) =
        ways.map (fun is => is.inits.map (g.labelFrom root none 0)) ∧
      t.branches.map List.getLast? = t.iterate.map some ∧
      t.size = t.iterate.length ∧ t.iterate = t.flatten ∧ t.underRoot = t.iterate.tail := by
  refine ⟨g.treeFrom maxDepth (g.nodes.size + 1) [] root none 0,
    g.descentsFrom maxDepth (g.nodes.size + 1) [] root 0, if_pos (mem_names_iff.2 hroot),
    pairwise_descentsFrom _ _ _ _, fun is => ?_, branches_treeFrom _ _ _ _ _, ?_, ?_, Tree.iterate_eq _,
    ?_⟩
  · rw [mem_descentsFrom (above_nil g) hdepth]
    simp
  · rw [Tree.iterate_eq, Tree.branches_last]
  · rw [Tree.iterate_eq, Tree.length_flatten]
  · rw [Tree.iterate_eq, Tree.flatten_eq_cons, List.tail_cons]

/-- An instance in the file of a module. -/
def standing (module : String) (line : Int) (name moduleType : String) : Instance :=
  ⟨name, moduleType, ⟨.root, [module]⟩, line, [], .empty⟩

/-- Two modules that instantiate each other, the first one the second twice, and a type without a
definition. Of the three instances in the first module the second one stands above the others. -/
def looped : Graph :=
  build [⟨"top", ⟨.root, ["top"]⟩, 1, 9, []⟩, ⟨"mid", ⟨.root, ["mid"]⟩, 1, 9, []⟩]
    [standing "top" 8 "u" "mid", standing "top" 2 "v" "mid", standing "top" 8 "ip" "gone",
      standing "mid" 5 "back" "top"]

/-- A way down comes back to the first module and ends there; a branch of the tree tells so. -/
theorem tree?_unfolds_looped : "top" ∈ looped.names ∧ (0 : Int) ≤ 3 ∧
    ∃ (t : Tree) (ways : List (List Placed)), looped.tree? "top" 3 = some t ∧
      [(standing "top" 2 "v" "mid", 1), (standing "mid" 5 "back" "top", 0)] ∈ ways ∧
      (∀ i, [(standing "top" 2 "v" "mid", 1), (standing "mid" 5 "back" "top", 0), i] ∉ ways) ∧
      ∃ branch ∈ t.branches, branch.map Tree.label =
        [⟨"top", none, 0, true⟩, ⟨"mid", some "v", 1, true⟩, ⟨"top", some "back", 2, true⟩] := by
  have hroot : "top" ∈ looped.names := by decide +kernel
  obtain ⟨t, ways, ht, -, hmem, hlabels, -⟩ :=
    tree?_unfolds (g := looped) hroot (show (0 : Int) ≤ 3 by decide)
  have hway : [(standing "top" 2 "v" "mid", 1), (standing "mid" 5 "back" "top", 0)] ∈ ways := by
    refine (hmem _).2 ⟨⟨?_, by decide⟩, by decide⟩
    exact .cons ⟨_, rfl, rfl⟩ (.cons ⟨_, rfl, rfl⟩ .nil)
  refine ⟨hroot, by decide, t, ways, ht, hway, fun i hi => ?_, ?_⟩
  · -- the way would leave the first module twice
    have hdistinct : ["top", "mid", "top"].Nodup := ((hmem _).1 hi).1.distinct
    exact absurd hdistinct (by decide)
  · have hbranch := List.mem_map_of_mem (f := fun is => is.inits.map (looped.labelFrom "top" none 0)) hway
    rw [← hlabels] at hbranch
    obtain ⟨branch, hmember, hbranch⟩ := List.mem_map.1 hbranch
    refine ⟨branch, hmember, hbranch.trans ?_⟩
    decide +kernel

end Graph

end RtlAtlas
