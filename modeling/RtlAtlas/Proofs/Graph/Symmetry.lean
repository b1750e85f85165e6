/-
Calls on one graph, in whatever order. Each call is written out as the writes it makes one after the
other, so that a call that fails leaves behind what it has written until then; and each comes to the
graph that the definitions give. From a graph without anything, calls lead only to graphs whose two
directions mirror each other, because an edge is refused before anything is written.
-/
import RtlAtlas.Proofs.Graph.Content
import RtlAtlas.Proofs.Procedure

namespace RtlAtlas.Graph

/-! ## Calls as writes -/

/-- Adds a module, telling whether its name was free. -/
def enter (n : Node) : Procedure Graph Bool := do
  if (← get).contains n.name then
    return false
  modify fun g => { g with nodes := g.nodes.insert n.name n }
  modify fun g => { g with children := g.children.insertNew n.name [] }
  modify fun g => { g with parents := g.parents.insertNew n.name [] }
  return true

/-- The list of a name in one of the two directions, which must have one. -/
def listed (direction : Graph → OrderedMap String (List String)) (name : String) :
    Procedure Graph (List String) := do
  match (direction (← get)).get? name with
  | some names => return names
  | none => throw (.missingField name)

/-- Joins two modules, which must be known, first forward and then backward. -/
def connect (parent child : String) : Procedure Graph Unit := do
  let g ← get
  if !(g.contains parent && g.contains child) then
    throw (.unknownEdge parent child)
  if !(← listed children parent).contains child then
    modify fun g => { g with children := g.children.modify parent (· ++ [child]) }
    -- a child without a list would leave the edge in one direction
    let _ ← listed parents child
    modify fun g => { g with parents := g.parents.modify child (· ++ [parent]) }

/-- Takes an instance in. -/
def attend (ms : List ModuleDef) (i : Instance) : Procedure Graph Unit := do
  match enclosing? i (ms.filter fun m => m.file = i.file) with
  | none => return
  | some parent =>
    let child := (← get).node? i.moduleType
    modify fun g => g.attach parent.name (resolveInstance child i)
    match child with
    | none => modify fun g => g.addUnresolved parent.name i.moduleType
    | some n =>
      connect parent.name n.name
      modify fun g => g.override n.name i.parameters

def noteFlow (f : Flow) : Procedure Graph Unit := modify fun g => g.addFlow f

/-- Builds the graph of some modules and instances in place. -/
def refill (ms : List ModuleDef) (is : List Instance) : Procedure Graph Unit := do
  modify clear
  ms.forM fun m => discard (enter (nodeOf m))
  is.forM (attend ms)
  (← get).allFlows.forM noteFlow

/-- A call that may change a graph. -/
inductive Call where
  | addNode (n : Node)
  | addEdge (parent child : String)
  | addUnresolved (parent moduleType : String)
  | addFlow (flow : Flow)
  | clear
  | rebuild (modules : List ModuleDef) (instances : List Instance)

/-- What a call does; only a module whose name is taken is rejected. -/
def Call.procedure : Call → Procedure Graph Bool
  | .addNode n => enter n
  | .addEdge parent child => do connect parent child; return true
  | .addUnresolved parent moduleType => do modify fun g => g.addUnresolved parent moduleType; return true
  | .addFlow flow => do noteFlow flow; return true
  | .clear => do modify Graph.clear; return true
  | .rebuild ms is => do refill ms is; return true

/-- The graph that calls lead to, whether they fail or not. -/
def afterCalls (g : Graph) (calls : List Call) : Graph :=
  calls.foldl (fun g c => (c.procedure.on g).2) g

/-! ## What each call comes to -/

open OrderedMap Table

section Calls

variable {g : Graph}

theorem enter_on (n : Node) (g : Graph) : (enter n).on g = (.ok !g.contains n.name, g.addNode n) := by
  unfold enter addNode
  rw [Procedure.on_get_bind]
  split
  · rename_i h
    rw [h]; rfl
  · rename_i h
    rw [eq_false_of_ne_true h]; rfl

theorem listed_on {direction : Graph → OrderedMap String (List String)} {name : String}
    (h : name ∈ (direction g).keys) :
    (listed direction name).on g = (.ok (idsAt (direction g) name), g) := by
  obtain ⟨names, hnames⟩ := exists_get?_iff.2 h
  unfold listed idsAt
  rw [Procedure.on_get_bind, hnames]
  rfl

/-- Joining two modules writes both directions or, if one of them is unknown, neither. -/
theorem WF.connect_on (hg : g.WF) (parent child : String) : (connect parent child).on g =
    match g.addEdge parent child with
    | .ok g' => (.ok (), g')
    | .error e => (.error e, g) := by
  unfold connect addEdge
  rw [Procedure.on_get_bind]
  by_cases hknown : (g.contains parent && g.contains child) = true
  · obtain ⟨hp, hc⟩ := Bool.and_eq_true_iff.1 hknown
    have hchildren : (listed children parent).on g = (.ok (g.childrenOf parent), g) :=
      listed_on (hg.childKeys ▸ mem_names_iff.1 hp)
    have hparents : ∀ m : OrderedMap String (List String), (listed parents child).on { g with children := m } =
        (.ok (g.parentsOf child), { g with children := m }) := fun m =>
      listed_on (hg.parentKeys ▸ mem_names_iff.1 hc)
    simp only [hknown, Bool.not_true, Bool.false_eq_true, if_false, if_true]
    rw [Procedure.on_bind_of_ok hchildren]
    unfold Graph.link
    by_cases hmem : (g.childrenOf parent).contains child = true
    · simp only [hmem, Bool.not_true, Bool.false_eq_true, if_false, if_true]
      rfl
    · simp only [hmem, Bool.not_false, Bool.false_eq_true, if_false, if_true]
      rw [Procedure.on_modify_bind, Procedure.on_bind_of_ok (hparents _)]
      rfl
  · simp only [hknown]
    rfl

/-- Taking an instance in joins known modules only, as long as the modules are known. -/
theorem WF.attend_on (hg : g.WF) {ms : List ModuleDef} (hms : ∀ m ∈ ms, m.name ∈ g.nodes.keys)
    (i : Instance) : (attend ms i).on g = (.ok (), Graph.addInstance ms g i) := by
  unfold attend Graph.addInstance
  cases hparent : enclosing? i (ms.filter fun m => m.file = i.file) with
  | none => rfl
  | some parent =>
    have hp : parent.name ∈ g.nodes.keys :=
      hms parent (List.mem_of_mem_filter (mem_of_enclosing? hparent))
    simp only
    rw [Procedure.on_get_bind, Procedure.on_modify_bind]
    have hattached : (g.attach parent.name (resolveInstance (g.node? i.moduleType) i)).WF :=
      hg.modifyNode fun _ => rfl
    have hkeys : (g.attach parent.name (resolveInstance (g.node? i.moduleType) i)).nodes.keys =
        g.nodes.keys := keys_modify _ _ _
    cases hchild : g.node? i.moduleType with
    | none => rfl
    | some n =>
      have hc : n.name ∈ g.nodes.keys := hg.named _ _ hchild ▸ mem_keys_of_get? hchild
      rw [hchild] at hattached hkeys
      have hedge := hattached.connect_on parent.name n.name
      unfold addEdge at hedge
      rw [if_pos (Bool.and_eq_true_iff.2 ⟨mem_names_iff.2 (hkeys ▸ hp), mem_names_iff.2 (hkeys ▸ hc)⟩)]
        at hedge
      simp only
      rw [Procedure.on_bind_of_ok hedge]
      rfl

/-- Entering modules, taking instances in and noting flows, each one after the other. -/
theorem forM_enter_on (ms : List ModuleDef) (g : Graph) :
    (ms.forM fun m => discard (enter (nodeOf m))).on g =
      (.ok (), ms.foldl (fun g m => g.addNode (nodeOf m)) g) := by
  have henter : ∀ (g : Graph) (m : ModuleDef), True →
      (discard (enter (nodeOf m))).on g = (.ok (), g.addNode (nodeOf m)) ∧ True := by
    intro g m _
    refine ⟨?_, trivial⟩
    show (enter (nodeOf m) >>= fun _ => pure ()).on g = _
    rw [Procedure.on_bind_of_ok (enter_on _ g)]
    rfl
  exact Procedure.on_forM henter ms trivial

theorem WF.forM_attend_on (hg : g.WF) {ms : List ModuleDef} (hms : ∀ m ∈ ms, m.name ∈ g.nodes.keys)
    (is : List Instance) :
    (is.forM (attend ms)).on g = (.ok (), is.foldl (Graph.addInstance ms) g) := by
  have hattend : ∀ (g : Graph) (i : Instance), (g.WF ∧ ∀ m ∈ ms, m.name ∈ g.nodes.keys) →
      (attend ms i).on g = (.ok (), Graph.addInstance ms g i) ∧
        ((Graph.addInstance ms g i).WF ∧ ∀ m ∈ ms, m.name ∈ (Graph.addInstance ms g i).nodes.keys) := by
    rintro g i ⟨hg, hms⟩
    obtain ⟨hg', hkeys⟩ := hg.addInstance hms i
    exact ⟨hg.attend_on hms i, hg', fun m hm => hkeys.symm ▸ hms m hm⟩
  exact Procedure.on_forM hattend is ⟨hg, hms⟩

theorem forM_addFlow_on (flows : List Flow) (g : Graph) :
    (flows.forM noteFlow).on g = (.ok (), flows.foldl addFlow g) :=
  Procedure.on_forM (P := fun _ => True) (fun _ _ _ => ⟨rfl, trivial⟩) flows trivial

/-- Building in place comes to the graph that is built from nothing. -/
theorem refill_on (ms : List ModuleDef) (is : List Instance) (g : Graph) :
    (refill ms is).on g = (.ok (), build ms is) := by
  obtain ⟨hw, hkeys⟩ := WF.foldl_addNode ms wf_empty
  have hms : ∀ m ∈ ms, m.name ∈ (ms.foldl (fun g m => g.addNode (nodeOf m)) empty).nodes.keys :=
    fun m hm => (hkeys m.name).2 (Or.inr ⟨m, hm, rfl⟩)
  have hclear : g.clear = empty := rfl
  unfold refill
  rw [Procedure.on_modify_bind, hclear, Procedure.on_bind_of_ok (forM_enter_on ms _),
    Procedure.on_bind_of_ok (hw.forM_attend_on hms is), Procedure.on_get_bind, forM_addFlow_on, foldl_addFlow]
  have hnone : (is.foldl (Graph.addInstance ms) (ms.foldl (fun g m => g.addNode (nodeOf m)) empty)).flows = [] :=
    (taken_foldl ms is).2.noFlows
  rw [hnone]
  rfl

end Calls

/-! ## What every call keeps -/

/-- The two directions of a graph of modules mirror each other, and neither notes an edge twice. -/
structure Symmetric (g : Graph) : Prop where
  wf : g.WF
  nodupParents : ∀ c, (g.parentsOf c).Nodup

variable {g : Graph}

theorem symmetric_empty : empty.Symmetric := ⟨wf_empty, fun _ => List.nodup_nil⟩

theorem symmetric_build (ms : List ModuleDef) (is : List Instance) : (build ms is).Symmetric :=
  ⟨(wf_build ms is).1, (taken_foldl ms is).2.nodupParents⟩

theorem Symmetric.addNode (hg : g.Symmetric) (n : Node) : (g.addNode n).Symmetric := by
  refine ⟨hg.wf.addNode n, fun c => ?_⟩
  by_cases hn : n.name ∈ g.nodes.keys
  · rw [addNode_of_known hn]
    exact hg.nodupParents c
  · rw [addNode_of_new hn]
    show (idsAt (g.parents.insertNew n.name []) c).Nodup
    rw [idsAt_insertNew_nil]
    exact hg.nodupParents c

/-- An edge is noted in both directions, or the graph stays as it is. -/
theorem Symmetric.connect (hg : g.Symmetric) (parent child : String) :
    ((Graph.connect parent child).on g).2.Symmetric := by
  rw [hg.wf.connect_on]
  unfold addEdge
  split
  · rename_i g' h
    split at h
    · rename_i hknown
      cases h
      obtain ⟨hp, hc⟩ := Bool.and_eq_true_iff.1 hknown
      refine ⟨hg.wf.link (mem_names_iff.1 hp) (mem_names_iff.1 hc), fun c => ?_⟩
      rw [hg.wf.link_eq (mem_names_iff.1 hp) (mem_names_iff.1 hc)]
      exact nodup_idsAt_note hg.nodupParents _ c _
    · cases h
  · exact hg

theorem Symmetric.call (hg : g.Symmetric) (c : Call) : (c.procedure.on g).2.Symmetric := by
  cases c with
  | addNode n =>
    show ((enter n).on g).2.Symmetric
    rw [enter_on]
    exact hg.addNode n
  | addEdge parent child =>
    have hkept := hg.connect parent child
    show ((Graph.connect parent child >>= fun _ => pure true).on g).2.Symmetric
    rw [Procedure.on_bind]
    rcases h : (Graph.connect parent child).on g with ⟨e | a, g'⟩
    · rw [h] at hkept; exact hkept
    · rw [h] at hkept; exact hkept
  | addUnresolved parent moduleType => exact ⟨hg.wf.addUnresolved parent moduleType, hg.nodupParents⟩
  | addFlow flow => exact ⟨hg.wf.withFlows _, hg.nodupParents⟩
  | clear => exact symmetric_empty
  | rebuild ms is =>
    show ((refill ms is >>= fun _ => pure true).on g).2.Symmetric
    rw [Procedure.on_bind_of_ok (refill_on ms is g)]
    exact symmetric_build ms is

theorem Symmetric.afterCalls (hg : g.Symmetric) (calls : List Call) : (g.afterCalls calls).Symmetric := by
  induction calls generalizing g with
  | nil => exact hg
  | cons c calls ih => exact ih (hg.call c)

/-! ## The two directions -/

theorem Symmetric.perm_reverseEdges (hg : g.Symmetric) :
    (g.edges.map fun e => (e.2, e.1)).Perm g.reverseEdges := by
  have hforward : (g.edges.map fun e => (e.2, e.1)).Nodup :=
    (nodup_pairsOf hg.wf.uniqueChildren hg.wf.nodup).map fun _ _ h =>
      (Prod.ext_iff.1 h).elim fun h₂ h₁ => Prod.ext h₁ h₂
  refine (List.perm_ext_iff_of_nodup hforward (nodup_pairsOf hg.wf.uniqueParents hg.nodupParents)).2 ?_
  rintro ⟨c, p⟩
  have hmirrored : (c, p) ∈ g.reverseEdges ↔ (p, c) ∈ g.edges :=
    (mem_pairsOf hg.wf.uniqueParents).trans ((hg.wf.mirrored p c).trans
      (mem_pairsOf hg.wf.uniqueChildren).symm)
  refine Iff.trans ?_ hmirrored.symm
  constructor
  · intro h
    obtain ⟨⟨p', c'⟩, he, heq⟩ := List.mem_map.1 h
    cases heq
    exact he
  · exact fun h => List.mem_map.2 ⟨(p, c), h, rfl⟩

theorem Symmetric.edgeCount_eq (hg : g.Symmetric) : g.edgeCount = g.reverseEdges.length := by
  rw [← hg.perm_reverseEdges.length_eq, List.length_map]
  rfl

/-- Whatever calls are made on a graph, failing ones among them, the modules stand under the same names
in the same order in both directions; an edge is kept in both directions or in none, joins known
modules and is noted once, so that there are as many edges backward as forward; and a module whose name
is taken, or an edge of an unknown module, changes nothing. -/
theorem symmetric_after_calls (calls : List Call) :
    let g := empty.afterCalls calls
    g.names.Nodup ∧ g.children.keys = g.names ∧ g.parents.keys = g.names ∧
    (∀ p c, c ∈ g.childrenOf p ↔ p ∈ g.parentsOf c) ∧
    (∀ m, (g.childrenOf m).Nodup ∧ (g.parentsOf m).Nodup ∧ (g.unresolvedOf m).Nodup) ∧
    (∀ p c, c ∈ g.childrenOf p → p ∈ g.names ∧ c ∈ g.names) ∧
    g.edgeCount = g.reverseEdges.length ∧
    (∀ n, n.name ∈ g.names → (Call.addNode n).procedure.on g = (.ok false, g)) ∧
    (∀ n, n.name ∉ g.names → (Call.addNode n).procedure.on g = (.ok true, g.addNode n)) ∧
    (∀ p c, ¬(p ∈ g.names ∧ c ∈ g.names) →
      (Call.addEdge p c).procedure.on g = (.error (.unknownEdge p c), g)) ∧
    (∀ p c, p ∈ g.names → c ∈ g.names → (Call.addEdge p c).procedure.on g = (.ok true, g.link p c)) ∧
    ∀ ms is, (Call.rebuild ms is).procedure.on g = (.ok true, build ms is) := by
  intro g
  have hg : g.Symmetric := symmetric_empty.afterCalls calls
  -- an edge is refused or linked as the graph does it itself
  have hedge : ∀ p c, (Call.addEdge p c).procedure.on g = match g.addEdge p c with
      | .ok g' => (.ok true, g')
      | .error e => (.error e, g) := by
    intro p c
    show (connect p c >>= fun _ => pure true).on g = _
    rw [Procedure.on_bind, hg.wf.connect_on]
    cases g.addEdge p c with
    | ok g' => rfl
    | error e => rfl
  refine ⟨hg.wf.unique, hg.wf.childKeys, hg.wf.parentKeys, fun p c => (hg.wf.mirrored p c).symm,
    fun m => ⟨hg.wf.nodup m, hg.nodupParents m, hg.wf.nodupUnresolved m⟩,
    fun p c h => ⟨hg.wf.known_parent h, hg.wf.known p c h⟩, hg.edgeCount_eq, fun n hn => ?_,
    fun n hn => ?_, fun p c h => ?_, fun p c hp hc => ?_, fun ms is => ?_⟩
  · show (enter n).on g = _
    rw [enter_on, addNode_of_known hn, mem_names_iff.2 hn]
    rfl
  · show (enter n).on g = _
    rw [enter_on, eq_false_of_ne_true fun hc => hn (mem_names_iff.1 hc)]
    rfl
  · have hunknown : ¬(g.contains p && g.contains c) = true := fun hk =>
      h ((Bool.and_eq_true_iff.1 hk).imp mem_names_iff.1 mem_names_iff.1)
    rw [hedge]
    unfold addEdge
    rw [if_neg hunknown]
  · rw [hedge]
    unfold addEdge
    rw [if_pos (Bool.and_eq_true_iff.2 ⟨mem_names_iff.2 hp, mem_names_iff.2 hc⟩)]
  · show (refill ms is >>= fun _ => pure true).on g = _
    rw [Procedure.on_bind_of_ok (refill_on ms is g)]
    rfl

/-- Edges that are wanted too early, twice, from a module to itself, and after a rebuild. -/
def entangled : List Call :=
  let node (name : String) : Node := ⟨name, ⟨.root, ["r", "a.v"]⟩, 1, 2, [], [], .empty⟩
  [.addEdge "a" "b", .addNode (node "a"), .addNode (node "b"), .addEdge "a" "b", .addEdge "a" "b",
    .addEdge "b" "b", .addNode (node "b"), .addEdge "b" "a", .addEdge "a" "c"]

/-- The edge to the unknown module is refused and changes nothing, and the three edges that were noted
are there in both directions. -/
theorem symmetric_after_calls_entangled :
    (empty.afterCalls entangled).edges = [("a", "b"), ("b", "b"), ("b", "a")] ∧
    (empty.afterCalls entangled).edgeCount = (empty.afterCalls entangled).reverseEdges.length ∧
    (Call.addEdge "a" "c").procedure.on (empty.afterCalls entangled) =
      (.error (.unknownEdge "a" "c"), empty.afterCalls entangled) := by
  obtain ⟨-, -, -, -, -, -, hcount, -, -, hrefused, -⟩ := symmetric_after_calls entangled
  exact ⟨by decide +kernel, hcount, hrefused "a" "c" (by decide +kernel)⟩

end RtlAtlas.Graph
