/-
The shape of a graph of modules: nodes stand under their names, an edge leads to a known module and
is kept in both directions, and no edge or undefined type is noted twice. Every graph that is built
has this shape, and two graphs of this shape with the same forward edges have the same backward ones.
-/
import Mathlib.Data.List.Perm.Subperm
import RtlAtlas.Graph.Build
import RtlAtlas.Proofs.Symbol.Table

namespace RtlAtlas

open OrderedMap Table

/-! ## Edges as notes -/

section Notes

variable {α : Type} [DecidableEq α] {m : OrderedMap α (List String)}

theorem Table.note_of_mem (hu : m.Unique) {k : α} {id : String} (h : id ∈ idsAt m k) :
    note m k id = m := by
  have hk : k ∈ m.keys := by
    by_contra hk
    unfold idsAt at h
    rw [get?_eq_none_iff.2 hk] at h
    cases h
  refine ext_idsAt (unique_note hu _ _) (by rw [keys_note, if_pos hk]) fun k' => ?_
  rw [idsAt_note, if_pos (List.contains_iff_mem.2 h)]
  split
  · rename_i hkk; rw [hkk]
  · rfl

theorem Table.modify_eq_note (hu : m.Unique) {k : α} {id : String} (hk : k ∈ m.keys)
    (h : id ∉ idsAt m k) : m.modify k (· ++ [id]) = note m k id := by
  refine ext_idsAt (hu.modify _ _) (by rw [keys_modify, keys_note, if_pos hk]) fun k' => ?_
  obtain ⟨ids, hids⟩ := exists_get?_iff.2 hk
  rw [idsAt_note, if_neg fun hc => h (List.contains_iff_mem.1 hc)]
  unfold idsAt
  rw [get?_modify]
  split
  · rename_i hkk; subst hkk; rw [hids]; rfl
  · rfl

end Notes

namespace Graph

/-- The shape of a graph. -/
structure WF (g : Graph) : Prop where
  unique : g.nodes.Unique
  named : ∀ k n, g.nodes.get? k = some n → n.name = k
  childKeys : g.children.keys = g.nodes.keys
  parentKeys : g.parents.keys = g.nodes.keys
  known : ∀ p c, c ∈ g.childrenOf p → c ∈ g.nodes.keys
  nodup : ∀ p, (g.childrenOf p).Nodup
  /-- An edge is kept in both directions. -/
  mirrored : ∀ p c, p ∈ g.parentsOf c ↔ c ∈ g.childrenOf p
  uniqueUnresolved : g.unresolved.Unique
  nodupUnresolved : ∀ p, (g.unresolvedOf p).Nodup
  nonemptyUnresolved : ∀ p types, g.unresolved.get? p = some types → types ≠ []

variable {g h : Graph}

theorem mem_names_iff {name : String} : g.contains name = true ↔ name ∈ g.nodes.keys := mem_keys.symm

theorem length_names (g : Graph) : g.names.length = g.nodes.size := List.length_map _

/-- Known modules, each of them once, are not more than there are. -/
theorem length_le_size {ms : List String} (hnodup : ms.Nodup) (hknown : ms ⊆ g.names) :
    ms.length ≤ g.nodes.size :=
  length_names g ▸ (List.subperm_of_subset hnodup hknown).length_le

theorem WF.uniqueChildren (hg : g.WF) : g.children.Unique := by
  unfold OrderedMap.Unique
  rw [hg.childKeys]
  exact hg.unique

theorem WF.uniqueParents (hg : g.WF) : g.parents.Unique := by
  unfold OrderedMap.Unique
  rw [hg.parentKeys]
  exact hg.unique

/-- An edge starts at a known module. -/
theorem WF.known_parent (hg : g.WF) {p c : String} (h : c ∈ g.childrenOf p) : p ∈ g.nodes.keys := by
  rw [← hg.childKeys]
  by_contra hk
  unfold childrenOf at h
  rw [get?_eq_none_iff.2 hk] at h
  cases h

theorem wf_empty : empty.WF where
  unique := unique_empty
  named := fun k n h => by cases h
  childKeys := rfl
  parentKeys := rfl
  known := fun p c h => by cases h
  nodup := fun p => List.nodup_nil
  mirrored := fun p c => iff_of_false (fun h => by cases h) (fun h => by cases h)
  uniqueUnresolved := unique_empty
  nodupUnresolved := fun p => List.nodup_nil
  nonemptyUnresolved := fun p types h => by cases h

/-! ## What each step keeps -/

theorem keys_insertNew_of_notMem {α β : Type} [DecidableEq α] {m : OrderedMap α β} {k : α} (v : β)
    (hk : k ∉ m.keys) : (m.insertNew k v).keys = m.keys ++ [k] := by
  rw [keys_insertNew, if_neg hk]

theorem idsAt_insertNew_nil {m : OrderedMap String (List String)} (k k' : String) :
    idsAt (m.insertNew k []) k' = idsAt m k' := by
  unfold idsAt
  rw [get?_insertNew]
  split
  · rename_i hk; rw [hk]; rfl
  · rfl

theorem WF.addNode (hg : g.WF) (n : Node) : (g.addNode n).WF := by
  unfold Graph.addNode
  split
  · exact hg
  · rename_i hn
    have hnew : n.name ∉ g.nodes.keys := fun h => hn (mem_names_iff.2 h)
    have hkeys : (g.nodes.insert n.name n).keys = g.nodes.keys ++ [n.name] := by
      rw [keys_insert, if_neg hnew]
    refine ⟨hg.unique.insert _ _, fun k m hm => ?_, ?_, ?_, fun p c hc => ?_, fun p => ?_,
      fun p c => ?_, hg.uniqueUnresolved, hg.nodupUnresolved, hg.nonemptyUnresolved⟩
    · rw [get?_insert] at hm
      split at hm
      · rename_i hk; cases hm; exact hk.symm
      · exact hg.named k m hm
    · rw [hkeys, keys_insertNew_of_notMem _ (hg.childKeys ▸ hnew), hg.childKeys]
    · rw [hkeys, keys_insertNew_of_notMem _ (hg.parentKeys ▸ hnew), hg.parentKeys]
    · have hc' : c ∈ idsAt (g.children.insertNew n.name []) p := hc
      rw [idsAt_insertNew_nil] at hc'
      exact mem_keys_insert.2 (Or.inr (hg.known p c hc'))
    · show (idsAt (g.children.insertNew n.name []) p).Nodup
      rw [idsAt_insertNew_nil]
      exact hg.nodup p
    · show p ∈ idsAt (g.parents.insertNew n.name []) c ↔ c ∈ idsAt (g.children.insertNew n.name []) p
      rw [idsAt_insertNew_nil, idsAt_insertNew_nil]
      exact hg.mirrored p c

/-- Joining two known modules notes the edge in both directions. -/
theorem WF.link_eq (hg : g.WF) {parent child : String} (hp : parent ∈ g.nodes.keys)
    (hc : child ∈ g.nodes.keys) : g.link parent child =
      { g with children := note g.children parent child, parents := note g.parents child parent } := by
  unfold link
  split
  · rename_i h
    have hmem : child ∈ g.childrenOf parent := List.contains_iff_mem.1 h
    rw [note_of_mem hg.uniqueChildren hmem, note_of_mem hg.uniqueParents ((hg.mirrored _ _).2 hmem)]
  · rename_i h
    have hmem : child ∉ g.childrenOf parent := fun hm => h (List.contains_iff_mem.2 hm)
    rw [modify_eq_note hg.uniqueChildren (hg.childKeys ▸ hp) hmem,
      modify_eq_note hg.uniqueParents (hg.parentKeys ▸ hc) fun hm => hmem ((hg.mirrored _ _).1 hm)]

theorem WF.link (hg : g.WF) {parent child : String} (hp : parent ∈ g.nodes.keys)
    (hc : child ∈ g.nodes.keys) : (g.link parent child).WF := by
  rw [hg.link_eq hp hc]
  refine ⟨hg.unique, hg.named, ?_, ?_, fun p c h => ?_, fun p => nodup_idsAt_note hg.nodup _ _ _,
    fun p c => ?_, hg.uniqueUnresolved, hg.nodupUnresolved, hg.nonemptyUnresolved⟩
  · rw [keys_note, if_pos (hg.childKeys ▸ hp), hg.childKeys]
  · rw [keys_note, if_pos (hg.parentKeys ▸ hc), hg.parentKeys]
  · rcases mem_idsAt_note.1 (show c ∈ idsAt (note g.children parent child) p from h) with h | ⟨-, rfl⟩
    · exact hg.known p c h
    · exact hc
  · show p ∈ idsAt (note g.parents child parent) c ↔ c ∈ idsAt (note g.children parent child) p
    rw [mem_idsAt_note, mem_idsAt_note, and_comm]
    exact or_congr (hg.mirrored p c) Iff.rfl

/-- Changing a node but not its name keeps the shape. -/
theorem WF.modifyNode (hg : g.WF) {name : String} {f : Node → Node} (hf : ∀ n, (f n).name = n.name) :
    ({ g with nodes := g.nodes.modify name f } : Graph).WF := by
  refine ⟨hg.unique.modify _ _, fun k n hn => ?_, ?_, ?_, fun p c h => ?_, hg.nodup, hg.mirrored,
    hg.uniqueUnresolved, hg.nodupUnresolved, hg.nonemptyUnresolved⟩
  · rw [get?_modify] at hn
    split at hn
    · obtain ⟨n', hn', rfl⟩ := Option.map_eq_some_iff.1 hn
      rw [hf]
      exact hg.named k n' hn'
    · exact hg.named k n hn
  · rw [keys_modify]; exact hg.childKeys
  · rw [keys_modify]; exact hg.parentKeys
  · rw [keys_modify]; exact hg.known p c h

theorem WF.addUnresolved (hg : g.WF) (parent moduleType : String) :
    (g.addUnresolved parent moduleType).WF :=
  ⟨hg.unique, hg.named, hg.childKeys, hg.parentKeys, hg.known, hg.nodup, hg.mirrored,
    unique_note hg.uniqueUnresolved _ _, fun p => nodup_idsAt_note hg.nodupUnresolved _ p _,
    fun p _ => get?_note_ne_nil (hg.nonemptyUnresolved p)⟩

theorem WF.withFlows (hg : g.WF) (flows : List Flow) : ({ g with flows := flows } : Graph).WF :=
  ⟨hg.unique, hg.named, hg.childKeys, hg.parentKeys, hg.known, hg.nodup, hg.mirrored,
    hg.uniqueUnresolved, hg.nodupUnresolved, hg.nonemptyUnresolved⟩

/-! ## Building -/

theorem mem_keys_addNode (g : Graph) (n : Node) {name : String} :
    name ∈ (g.addNode n).nodes.keys ↔ name = n.name ∨ name ∈ g.nodes.keys := by
  unfold Graph.addNode
  split
  · rename_i h
    exact ⟨Or.inr, fun hn => hn.elim (fun e => e ▸ mem_names_iff.1 h) fun hn => hn⟩
  · exact mem_keys_insert

theorem WF.foldl_addNode : ∀ (ms : List ModuleDef) {g : Graph}, g.WF →
    (ms.foldl (fun g m => g.addNode (nodeOf m)) g).WF ∧
      ∀ name, name ∈ (ms.foldl (fun g m => g.addNode (nodeOf m)) g).nodes.keys ↔
        name ∈ g.nodes.keys ∨ ∃ m ∈ ms, m.name = name
  | [], _, hg => ⟨hg, fun name => by simp⟩
  | m :: ms, g, hg => by
    obtain ⟨hw, hkeys⟩ := WF.foldl_addNode ms (hg.addNode (nodeOf m))
    refine ⟨hw, fun name => (hkeys name).trans ?_⟩
    rw [mem_keys_addNode, List.exists_mem_cons_iff, show (nodeOf m).name = m.name from rfl,
      or_comm (a := name = m.name), or_assoc, eq_comm]

theorem mem_of_enclosing? {i : Instance} {candidates : List ModuleDef} {m : ModuleDef}
    (h : enclosing? i candidates = some m) : m ∈ candidates := by
  unfold enclosing? at h
  split at h
  · rename_i hf; cases h; exact List.mem_of_find?_eq_some hf
  · exact List.mem_of_mem_head? h

/-- Taking an instance in keeps the shape and the names, when the modules are known. -/
theorem WF.addInstance (hg : g.WF) {ms : List ModuleDef} (hms : ∀ m ∈ ms, m.name ∈ g.nodes.keys)
    (i : Instance) : (Graph.addInstance ms g i).WF ∧ (Graph.addInstance ms g i).nodes.keys = g.nodes.keys := by
  unfold Graph.addInstance
  split
  · exact ⟨hg, rfl⟩
  · rename_i parent hparent
    have hp : parent.name ∈ g.nodes.keys :=
      hms parent (List.mem_of_mem_filter (mem_of_enclosing? hparent))
    have hattached : (g.attach parent.name (resolveInstance (g.node? i.moduleType) i)).WF :=
      hg.modifyNode fun _ => rfl
    have hkeys : (g.attach parent.name (resolveInstance (g.node? i.moduleType) i)).nodes.keys =
        g.nodes.keys := keys_modify _ _ _
    simp only
    split
    · -- no module has the type of the instance
      exact ⟨hattached.addUnresolved _ _, hkeys⟩
    · rename_i n hn
      have hname : n.name = i.moduleType := hg.named _ _ hn
      have hc : n.name ∈ g.nodes.keys := hname ▸ mem_keys_of_get? hn
      have hlinked := hattached.link (hkeys.symm ▸ hp) (hkeys.symm ▸ hc)
      refine ⟨hlinked.modifyNode fun _ => rfl, (keys_modify _ _ _).trans ?_⟩
      rw [hattached.link_eq (hkeys.symm ▸ hp) (hkeys.symm ▸ hc)]
      exact hkeys

theorem WF.foldl_addInstance {ms : List ModuleDef} : ∀ (is : List Instance) {g : Graph}, g.WF →
    (∀ m ∈ ms, m.name ∈ g.nodes.keys) → (is.foldl (Graph.addInstance ms) g).WF ∧
      (is.foldl (Graph.addInstance ms) g).nodes.keys = g.nodes.keys
  | [], _, hg, _ => ⟨hg, rfl⟩
  | i :: is, g, hg, hms => by
    obtain ⟨hw, hkeys⟩ := hg.addInstance hms i
    obtain ⟨hw', hkeys'⟩ := WF.foldl_addInstance is hw fun m hm => hkeys.symm ▸ hms m hm
    exact ⟨hw', hkeys'.trans hkeys⟩

/-- A graph that is built has the shape, and its modules are those it was built of. -/
theorem wf_build (ms : List ModuleDef) (is : List Instance) :
    (build ms is).WF ∧ ∀ name, name ∈ (build ms is).nodes.keys ↔ ∃ m ∈ ms, m.name = name := by
  obtain ⟨hw, hkeys⟩ := WF.foldl_addNode ms wf_empty
  have hms : ∀ m ∈ ms, m.name ∈ (ms.foldl (fun g m => g.addNode (nodeOf m)) empty).nodes.keys :=
    fun m hm => (hkeys m.name).2 (Or.inr ⟨m, hm, rfl⟩)
  obtain ⟨hw', hkeys'⟩ := hw.foldl_addInstance is hms
  refine ⟨hw'.withFlows _, fun name => ?_⟩
  show name ∈ (is.foldl (Graph.addInstance ms) _).nodes.keys ↔ _
  rw [hkeys', hkeys]
  simp [empty, OrderedMap.empty, OrderedMap.keys]

/-- A small design: every module stands in a file of its own and instantiates its children once. -/
def design (modules : List (String × List String)) : Graph :=
  build (modules.map fun (m, _) => ⟨m, ⟨.root, [m]⟩, 1, 2, []⟩)
    (modules.flatMap fun (m, children) => children.map fun c => ⟨c, c, ⟨.root, [m]⟩, 1, [], .empty⟩)

theorem wf_design (modules : List (String × List String)) : (design modules).WF :=
  (wf_build _ _).1

/-- Without modules there is nothing to a graph. -/
theorem build_nil (is : List Instance) : build [] is = build [] [] := by
  have h : is.foldl (Graph.addInstance []) empty = empty := by
    induction is with
    | nil => rfl
    | cons i is ih => exact ih
  unfold build
  simp only [List.foldl_nil, h]

/-! ## Agreeing graphs -/

/-- Graphs with the same nodes, forward edges, undefined types and flows, all in the same order, and
the same backward edges in whatever order. -/
structure Agrees (g h : Graph) : Prop where
  nodes : g.nodes = h.nodes
  children : g.children = h.children
  unresolved : g.unresolved = h.unresolved
  flows : g.flows = h.flows
  backward : ∀ e, e ∈ g.reverseEdges ↔ e ∈ h.reverseEdges

theorem Agrees.refl (g : Graph) : g.Agrees g := ⟨rfl, rfl, rfl, rfl, fun _ => Iff.rfl⟩

theorem Agrees.trans {k : Graph} (h₁ : g.Agrees h) (h₂ : h.Agrees k) : g.Agrees k :=
  ⟨h₁.nodes.trans h₂.nodes, h₁.children.trans h₂.children, h₁.unresolved.trans h₂.unresolved,
    h₁.flows.trans h₂.flows, fun e => (h₁.backward e).trans (h₂.backward e)⟩

theorem mem_pairsOf {m : OrderedMap String (List String)} (hu : m.Unique) {a b : String} :
    (a, b) ∈ pairsOf m ↔ b ∈ idsAt m a := by
  unfold pairsOf
  simp only [List.mem_flatMap, List.mem_map, Prod.mk.injEq, Prod.exists]
  constructor
  · rintro ⟨a', bs, he, b', hb, rfl, rfl⟩
    unfold idsAt
    rw [(get?_eq_some_iff hu).2 he]
    exact hb
  · intro hb
    unfold idsAt at hb
    cases hm : m.get? a with
    | none => rw [hm] at hb; cases hb
    | some bs => rw [hm] at hb; exact ⟨a, bs, mem_of_get? hm, b, hb, rfl, rfl⟩

/-- Forward edges give the backward ones. -/
theorem WF.backward_iff (hg : g.WF) (hh : h.WF) (hc : g.children = h.children)
    (e : String × String) : e ∈ g.reverseEdges ↔ e ∈ h.reverseEdges := by
  obtain ⟨c, p⟩ := e
  unfold reverseEdges
  rw [mem_pairsOf hg.uniqueParents, mem_pairsOf hh.uniqueParents]
  refine (hg.mirrored p c).trans (Iff.trans ?_ (hh.mirrored p c).symm)
  unfold childrenOf
  rw [hc]

end Graph

end RtlAtlas
