/-
What a graph holds of the modules and instances it is built of: every instance of a file with modules
stands in one node, in input order and with its connections resolved; an edge or an undefined type is
there exactly because of some instance; and the overrides of a module gather from all its instances.
Building in place never joins an unknown module, whatever the graph held before.
-/
import Mathlib.Data.List.Induction
import RtlAtlas.Proofs.Graph.Shape

namespace RtlAtlas.Graph

open OrderedMap Table

/-! ## What is expected -/

/-- The first definition of each name, in order. -/
def firstOfEachName : List ModuleDef → List ModuleDef
  | [] => []
  | m :: ms => m :: (firstOfEachName ms).filter fun m' => m'.name != m.name

/-- The name of the module that an instance belongs to. -/
def parentOf? (ms : List ModuleDef) (i : Instance) : Option String :=
  (enclosing? i (ms.filter fun m => m.file = i.file)).map (·.name)

/-- An instance with its connections resolved against the first definition of its type. -/
def resolvedIn (ms : List ModuleDef) (i : Instance) : Instance :=
  resolveInstance ((ms.find? fun m => m.name == i.moduleType).map nodeOf) i

/-- The instances that belong to a module. -/
def instancesOf (ms : List ModuleDef) (is : List Instance) (name : String) : List Instance :=
  (is.filter fun i => parentOf? ms i == some name).map (resolvedIn ms)

/-- The overrides of a module: those of all its instances that belong to some module, the later ones
winning. -/
def overridesOf (ms : List ModuleDef) (is : List Instance) (name : String) :
    OrderedMap String String :=
  (is.filter fun i => (parentOf? ms i).isSome && i.moduleType == name).foldl
    (fun m i => m.update i.parameters) .empty

/-- The node of a definition with all that belongs to it. -/
def fullNode (ms : List ModuleDef) (is : List Instance) (m : ModuleDef) : Node :=
  { nodeOf m with
    instances := instancesOf ms is m.name
    parameters := overridesOf ms is m.name }

/-! ## First definitions -/

theorem find?_firstOfEachName (name : String) : ∀ ms : List ModuleDef,
    (firstOfEachName ms).find? (fun m => m.name == name) = ms.find? fun m => m.name == name
  | [] => rfl
  | m :: ms => by
    unfold firstOfEachName
    by_cases h : m.name = name
    · simp [h]
    · have hrest : (fun m' : ModuleDef => decide ((m'.name != m.name) = true ∧ (m'.name == name) = true)) =
          fun m' => m'.name == name := by
        funext m'
        by_cases hm : m'.name = name
        · have hne : ¬name = m.name := fun e => h e.symm
          simp [hm, hne]
        · simp [hm]
      rw [List.find?_cons, List.find?_cons, beq_eq_false_iff_ne.2 h, List.find?_filter, hrest]
      exact find?_firstOfEachName name ms

theorem mem_of_mem_firstOfEachName : ∀ {ms : List ModuleDef} {m : ModuleDef},
    m ∈ firstOfEachName ms → m ∈ ms
  | [], _, h => h
  | m' :: ms, m, h => by
    rcases List.mem_cons.1 h with rfl | h
    · exact List.mem_cons_self
    · exact List.mem_cons_of_mem _ (mem_of_mem_firstOfEachName (List.mem_of_mem_filter h))

theorem nodup_firstOfEachName : ∀ ms : List ModuleDef, ((firstOfEachName ms).map (·.name)).Nodup
  | [] => List.nodup_nil
  | m :: ms => by
    unfold firstOfEachName
    rw [List.map_cons, List.nodup_cons]
    constructor
    · intro h
      obtain ⟨m', hm', he⟩ := List.mem_map.1 h
      simpa [he] using (List.mem_filter.1 hm').2
    · exact (nodup_firstOfEachName ms).sublist (List.filter_sublist.map _)

theorem mem_map_firstOfEachName {ms : List ModuleDef} {name : String} :
    name ∈ (firstOfEachName ms).map (·.name) ↔ ∃ m ∈ ms, m.name = name := by
  constructor
  · intro h
    obtain ⟨m, hm, rfl⟩ := List.mem_map.1 h
    exact ⟨m, mem_of_mem_firstOfEachName hm, rfl⟩
  · rintro ⟨m, hm, rfl⟩
    have hfound : (ms.find? fun m' => m'.name == m.name).isSome := by
      rw [List.find?_isSome]
      exact ⟨m, hm, by simp⟩
    rw [← find?_firstOfEachName] at hfound
    obtain ⟨m', hm'⟩ := Option.isSome_iff_exists.1 hfound
    exact List.mem_map.2 ⟨m', List.mem_of_find?_eq_some hm', by simpa using List.find?_some hm'⟩

/-- The first definitions of a longer list: a further one counts if its name is new. -/
theorem firstOfEachName_append_singleton (m : ModuleDef) : ∀ ms : List ModuleDef,
    firstOfEachName (ms ++ [m]) =
      if ∃ m' ∈ ms, m'.name = m.name then firstOfEachName ms else firstOfEachName ms ++ [m]
  | [] => rfl
  | m' :: ms => by
    rw [List.cons_append]
    unfold firstOfEachName
    rw [firstOfEachName_append_singleton m ms]
    by_cases hm : m'.name = m.name
    · have hhead : ∃ m₀ ∈ m' :: ms, m₀.name = m.name := ⟨m', List.mem_cons_self, hm⟩
      rw [if_pos hhead]
      split
      · rfl
      · simp [hm]
    · have hiff : (∃ m₀ ∈ m' :: ms, m₀.name = m.name) ↔ ∃ m₀ ∈ ms, m₀.name = m.name := by simp [hm]
      have hne : ¬m.name = m'.name := fun e => hm e.symm
      simp only [hiff]
      split
      · rfl
      · simp [hne]

/-- The nodes of some definitions, without any instance. -/
def named (ms : List ModuleDef) : Graph := ms.foldl (fun g m => g.addNode (nodeOf m)) empty

theorem named_append_singleton (ms : List ModuleDef) (m : ModuleDef) :
    named (ms ++ [m]) = (named ms).addNode (nodeOf m) := List.foldl_append

theorem mem_keys_named {ms : List ModuleDef} {name : String} :
    name ∈ (named ms).nodes.keys ↔ ∃ m ∈ ms, m.name = name := by
  unfold named
  rw [(WF.foldl_addNode ms wf_empty).2]
  simp [empty, OrderedMap.empty, OrderedMap.keys]

theorem addNode_of_known {g : Graph} {n : Node} (h : n.name ∈ g.nodes.keys) : g.addNode n = g := by
  unfold addNode
  exact if_pos (mem_names_iff.2 h)

theorem addNode_of_new {g : Graph} {n : Node} (h : n.name ∉ g.nodes.keys) : g.addNode n = { g with
    nodes := g.nodes.insert n.name n
    children := g.children.insertNew n.name []
    parents := g.parents.insertNew n.name [] } := by
  unfold addNode
  exact if_neg fun hc => h (mem_names_iff.1 hc)

theorem entries_named (ms : List ModuleDef) :
    (named ms).nodes.entries = (firstOfEachName ms).map fun m => (m.name, nodeOf m) := by
  induction ms using List.reverseRecOn with
  | nil => rfl
  | append_singleton ms m ih =>
    rw [named_append_singleton, firstOfEachName_append_singleton]
    by_cases h : ∃ m' ∈ ms, m'.name = m.name
    · rw [addNode_of_known (mem_keys_named.2 h), if_pos h, ih]
    · have hnew : m.name ∉ (named ms).nodes.keys := fun hm => h (mem_keys_named.1 hm)
      rw [addNode_of_new (n := nodeOf m) hnew, if_neg h, List.map_append, ← ih]
      exact entries_insert_of_notMem _ hnew

/-- Nothing but nodes. -/
theorem named_bare (ms : List ModuleDef) : (∀ p, (named ms).childrenOf p = []) ∧
    (∀ c, (named ms).parentsOf c = []) ∧ (named ms).unresolved = .empty ∧ (named ms).flows = [] := by
  induction ms using List.reverseRecOn with
  | nil => exact ⟨fun _ => rfl, fun _ => rfl, rfl, rfl⟩
  | append_singleton ms m ih =>
    obtain ⟨hc, hp, hu, hf⟩ := ih
    rw [named_append_singleton]
    by_cases h : m.name ∈ (named ms).nodes.keys
    · rw [addNode_of_known (n := nodeOf m) h]
      exact ⟨hc, hp, hu, hf⟩
    · rw [addNode_of_new (n := nodeOf m) h]
      refine ⟨fun p => ?_, fun c => ?_, hu, hf⟩
      · exact (idsAt_insertNew_nil _ p).trans (hc p)
      · exact (idsAt_insertNew_nil _ c).trans (hp c)

/-! ## Parents -/

theorem enclosing?_eq_none_iff {i : Instance} {ms : List ModuleDef} :
    enclosing? i ms = none ↔ ms = [] := by
  constructor
  · intro h
    unfold enclosing? at h
    split at h
    · cases h
    · exact List.head?_eq_none_iff.1 h
  · rintro rfl
    rfl

/-- An instance belongs to a module exactly when its file has one. -/
theorem isSome_parentOf? {ms : List ModuleDef} {i : Instance} :
    (parentOf? ms i).isSome = ms.any fun m => m.file = i.file := by
  have hnone : parentOf? ms i = none ↔ ∀ m ∈ ms, ¬m.file = i.file := by
    unfold parentOf?
    rw [Option.map_eq_none_iff, enclosing?_eq_none_iff, List.filter_eq_nil_iff]
    simp
  rw [Bool.eq_iff_iff, List.any_eq_true, Option.isSome_iff_ne_none, ne_eq, hnone]
  simp

theorem exists_of_parentOf? {ms : List ModuleDef} {i : Instance} {name : String}
    (h : parentOf? ms i = some name) : ∃ m ∈ ms, m.name = name := by
  obtain ⟨m, hm, rfl⟩ := Option.map_eq_some_iff.1 h
  exact ⟨m, List.mem_of_mem_filter (mem_of_enclosing? hm), rfl⟩

/-! ## Taking instances in -/

theorem resolveConnection_congr {n n' : Node} (h : n.ports = n'.ports) :
    resolveConnection n = resolveConnection n' := by
  funext c
  unfold resolveConnection portOf? Node.port?
  rw [h]

theorem resolveInstance_congr {n n' : Option Node} (h : n.map (·.ports) = n'.map (·.ports))
    (i : Instance) : resolveInstance n i = resolveInstance n' i := by
  cases n with
  | none =>
    cases n' with
    | none => rfl
    | some _ => cases h
  | some n =>
    cases n' with
    | none => cases h
    | some n' =>
      have hports : n.ports = n'.ports := Option.some.inj h
      simp only [resolveInstance, resolveConnection_congr hports]

theorem instancesOf_append (ms : List ModuleDef) (is : List Instance) (i : Instance) (name : String) :
    instancesOf ms (is ++ [i]) name = if parentOf? ms i = some name then
      instancesOf ms is name ++ [resolvedIn ms i] else instancesOf ms is name := by
  unfold instancesOf
  rw [List.filter_append, List.map_append]
  by_cases h : parentOf? ms i = some name
  · simp [h]
  · simp [h]

theorem overridesOf_append (ms : List ModuleDef) (is : List Instance) (i : Instance) (name : String) :
    overridesOf ms (is ++ [i]) name = if (parentOf? ms i).isSome ∧ i.moduleType = name then
      (overridesOf ms is name).update i.parameters else overridesOf ms is name := by
  unfold overridesOf
  rw [List.filter_append, List.foldl_append]
  by_cases h : (parentOf? ms i).isSome ∧ i.moduleType = name
  · simp [h]
  · rw [if_neg h]
    simp only [not_and] at h
    by_cases hs : (parentOf? ms i).isSome = true
    · simp [hs, h hs]
    · simp [hs]

theorem fullNode_append_of_none {ms : List ModuleDef} {i : Instance} (h : parentOf? ms i = none)
    (is : List Instance) (m : ModuleDef) : fullNode ms (is ++ [i]) m = fullNode ms is m := by
  unfold fullNode
  rw [instancesOf_append, overridesOf_append, h]
  simp

/-- The node of a definition once an instance has been attached to its parent, and its overrides to
the module of its type. -/
theorem fullNode_append_of_some {ms : List ModuleDef} {i : Instance} {p : String}
    (h : parentOf? ms i = some p) (is : List Instance) (m : ModuleDef) :
    fullNode ms (is ++ [i]) m =
      let n := if m.name = p then
        { fullNode ms is m with instances := (fullNode ms is m).instances ++ [resolvedIn ms i] }
        else fullNode ms is m
      if m.name = i.moduleType then { n with parameters := n.parameters.update i.parameters } else n := by
  unfold fullNode
  rw [instancesOf_append, overridesOf_append, h]
  by_cases hp : m.name = p
  · subst hp
    by_cases ht : m.name = i.moduleType
    · simp [← ht]
    · have ht' : ¬i.moduleType = m.name := fun e => ht e.symm
      simp [ht, ht']
  · have hp' : ¬p = m.name := fun e => hp e.symm
    by_cases ht : m.name = i.moduleType
    · simp [← ht, hp, hp']
    · have ht' : ¬i.moduleType = m.name := fun e => ht e.symm
      simp [ht, ht', hp, hp']

/-- The nodes, edges and undefined types of a graph into which some instances have been taken. -/
structure Taken (ms : List ModuleDef) (is : List Instance) (g : Graph) : Prop where
  wf : g.WF
  nodes : g.nodes.entries = (firstOfEachName ms).map fun m => (m.name, fullNode ms is m)
  children : ∀ p t, t ∈ g.childrenOf p ↔
    ∃ i ∈ is, parentOf? ms i = some p ∧ i.moduleType = t ∧ t ∈ g.nodes.keys
  unresolved : ∀ p t, t ∈ g.unresolvedOf p ↔
    ∃ i ∈ is, parentOf? ms i = some p ∧ i.moduleType = t ∧ t ∉ g.nodes.keys
  nodupParents : ∀ c, (g.parentsOf c).Nodup
  noFlows : g.flows = []

variable {ms : List ModuleDef} {is : List Instance} {g : Graph}

theorem Taken.keys (h : Taken ms is g) : g.nodes.keys = (firstOfEachName ms).map (·.name) := by
  unfold OrderedMap.keys
  rw [h.nodes, List.map_map]
  rfl

theorem Taken.mem_keys (h : Taken ms is g) {name : String} :
    name ∈ g.nodes.keys ↔ ∃ m ∈ ms, m.name = name := by
  rw [h.keys, mem_map_firstOfEachName]

theorem Taken.node?_eq (h : Taken ms is g) (name : String) :
    g.node? name = (ms.find? fun m => m.name == name).map (fullNode ms is) := by
  unfold node? OrderedMap.get?
  rw [h.nodes, List.find?_map, ← find?_firstOfEachName, Option.map_map]
  rfl

theorem Taken.resolveInstance_eq (h : Taken ms is g) (i : Instance) :
    resolveInstance (g.node? i.moduleType) i = resolvedIn ms i := by
  unfold resolvedIn
  refine resolveInstance_congr ?_ i
  rw [h.node?_eq, Option.map_map, Option.map_map]
  rfl

/-- Before any instance is taken in there are the nodes alone. -/
theorem taken_nil (ms : List ModuleDef) : Taken ms [] (named ms) := by
  obtain ⟨hc, hp, hu, hf⟩ := named_bare ms
  refine ⟨(WF.foldl_addNode ms wf_empty).1, entries_named ms, fun p t => ?_, fun p t => ?_,
    fun c => ?_, hf⟩
  · simp [hc]
  · simp [unresolvedOf, hu]
  · rw [hp]; exact List.nodup_nil

/-- What taking an instance in comes to: nothing if its file has no module, else it is attached to its
parent, and its type is noted as undefined or joined and overridden. No edge is refused. -/
theorem Taken.addInstance_cases (h : Taken ms is g) (i : Instance) :
    joinInstance ms g i = .ok (addInstance ms g i) ∧
      ((parentOf? ms i = none ∧ addInstance ms g i = g) ∨
        ∃ p, parentOf? ms i = some p ∧ p ∈ g.nodes.keys ∧
          ((i.moduleType ∉ g.nodes.keys ∧ addInstance ms g i =
              (g.attach p (resolvedIn ms i)).addUnresolved p i.moduleType) ∨
            (i.moduleType ∈ g.nodes.keys ∧ addInstance ms g i =
              ((g.attach p (resolvedIn ms i)).link p i.moduleType).override i.moduleType
                i.parameters))) := by
  have hresolved := h.resolveInstance_eq i
  unfold joinInstance addInstance
  cases hparent : enclosing? i (ms.filter fun m => m.file = i.file) with
  | none => exact ⟨rfl, Or.inl ⟨by unfold parentOf?; rw [hparent]; rfl, rfl⟩⟩
  | some parent =>
    -- the parent is a node, since the graph has all modules; it is the type that may be unknown
    have hsome : parentOf? ms i = some parent.name := by unfold parentOf?; rw [hparent]; rfl
    have hp : parent.name ∈ g.nodes.keys := h.mem_keys.2 (exists_of_parentOf? hsome)
    simp only [hresolved]
    cases hchild : g.node? i.moduleType with
    | none => exact ⟨rfl, Or.inr ⟨_, hsome, hp, Or.inl ⟨get?_eq_none_iff.1 hchild, rfl⟩⟩⟩
    | some n =>
      have hname : n.name = i.moduleType := h.wf.named _ _ hchild
      have hc : i.moduleType ∈ g.nodes.keys := mem_keys_of_get? hchild
      have hkeys : (g.attach parent.name (resolvedIn ms i)).nodes.keys = g.nodes.keys :=
        keys_modify _ _ _
      -- taking an instance in adds no node, so the edge is not refused
      have hjoined : (g.attach parent.name (resolvedIn ms i)).addEdge parent.name i.moduleType =
          .ok ((g.attach parent.name (resolvedIn ms i)).link parent.name i.moduleType) := by
        unfold addEdge
        rw [mem_names_iff.2 (hkeys.symm ▸ hp), mem_names_iff.2 (hkeys.symm ▸ hc)]
        rfl
      simp only [hname, hjoined]
      exact ⟨rfl, Or.inr ⟨_, hsome, hp, Or.inr ⟨hc, rfl⟩⟩⟩

/-- Changing one node of a map that is made of definitions. -/
theorem entries_modify_map {F : ModuleDef → Node} {m : OrderedMap String Node}
    {firsts : List ModuleDef} (h : m.entries = firsts.map fun d => (d.name, F d)) (name : String)
    (f : Node → Node) : (m.modify name f).entries =
      firsts.map fun d => (d.name, if d.name = name then f (F d) else F d) := by
  unfold OrderedMap.modify
  rw [h, List.map_map]
  refine List.map_congr_left fun d _ => ?_
  by_cases hd : d.name = name
  · simp [hd]
  · simp [hd]

theorem exists_mem_append_singleton {P : Instance → Prop} {i : Instance} :
    (∃ j ∈ is ++ [i], P j) ↔ (∃ j ∈ is, P j) ∨ P i := by
  simp [or_and_right, exists_or]

theorem Taken.addInstance (h : Taken ms is g) (i : Instance) :
    Taken ms (is ++ [i]) (Graph.addInstance ms g i) := by
  obtain ⟨-, ⟨hnone, heq⟩ | ⟨p, hsome, hp, hcase⟩⟩ := h.addInstance_cases i
  · -- an instance of a file without modules changes nothing
    rw [heq]
    refine ⟨h.wf, ?_, fun p t => ?_, fun p t => ?_, h.nodupParents, h.noFlows⟩
    · rw [h.nodes]
      exact List.map_congr_left fun m _ => by rw [fullNode_append_of_none hnone]
    · rw [h.children, exists_mem_append_singleton, hnone]
      simp
    · rw [h.unresolved, exists_mem_append_singleton, hnone]
      simp
  have hattached : (g.attach p (resolvedIn ms i)).WF := h.wf.modifyNode fun _ => rfl
  have hkeys : (g.attach p (resolvedIn ms i)).nodes.keys = g.nodes.keys := keys_modify _ _ _
  have hentries := entries_modify_map h.nodes p
    fun n => { n with instances := n.instances ++ [resolvedIn ms i] }
  obtain ⟨hunknown, heq⟩ | ⟨hknown, heq⟩ := hcase
  · -- the type is noted as undefined; the edges stay, and no node gets overrides
    rw [heq]
    have hkeys' : ((g.attach p (resolvedIn ms i)).addUnresolved p i.moduleType).nodes.keys =
        g.nodes.keys := hkeys
    refine ⟨hattached.addUnresolved _ _, ?_, fun q t => ?_, fun q t => ?_, h.nodupParents,
      h.noFlows⟩
    · refine hentries.trans (List.map_congr_left fun m hm => ?_)
      have hne : ¬m.name = i.moduleType := fun e =>
        hunknown (h.keys ▸ List.mem_map.2 ⟨m, hm, e⟩)
      rw [fullNode_append_of_some hsome, if_neg hne]
    · rw [hkeys', exists_mem_append_singleton, ← h.children]
      refine ⟨Or.inl, fun hor => hor.resolve_right ?_⟩
      rintro ⟨-, rfl, hmem⟩
      exact hunknown hmem
    · rw [hkeys', exists_mem_append_singleton, ← h.unresolved, hsome, Option.some.injEq]
      refine mem_idsAt_note.trans (or_congr Iff.rfl ⟨?_, ?_⟩)
      · rintro ⟨rfl, rfl⟩; exact ⟨rfl, rfl, hunknown⟩
      · rintro ⟨rfl, rfl, -⟩; exact ⟨rfl, rfl⟩
  · -- the parent is joined to the module of the type, which gets the overrides
    have hlink := hattached.link_eq (hkeys.symm ▸ hp) (hkeys.symm ▸ hknown)
    have hlinked := hattached.link (hkeys.symm ▸ hp) (hkeys.symm ▸ hknown)
    have hkeys' : (((g.attach p (resolvedIn ms i)).link p i.moduleType).override i.moduleType
        i.parameters).nodes.keys = g.nodes.keys := by
      refine (keys_modify _ _ _).trans ?_
      rw [hlink]
      exact hkeys
    rw [heq]
    refine ⟨hlinked.modifyNode fun _ => rfl, ?_, fun q t => ?_, fun q t => ?_, fun c => ?_, ?_⟩
    · have hoverridden := entries_modify_map hentries i.moduleType
        fun n => { n with parameters := n.parameters.update i.parameters }
      unfold Graph.override
      rw [hlink]
      exact hoverridden.trans (List.map_congr_left fun m _ => by rw [fullNode_append_of_some hsome])
    · rw [hkeys', exists_mem_append_singleton, ← h.children, hsome, Option.some.injEq]
      unfold Graph.override
      rw [hlink]
      refine mem_idsAt_note.trans (or_congr Iff.rfl ⟨?_, ?_⟩)
      · rintro ⟨rfl, rfl⟩; exact ⟨rfl, rfl, hknown⟩
      · rintro ⟨rfl, rfl, -⟩; exact ⟨rfl, rfl⟩
    · rw [hkeys', exists_mem_append_singleton]
      unfold Graph.override
      rw [hlink]
      refine (h.unresolved q t).trans ⟨Or.inl, fun hor => hor.resolve_right ?_⟩
      rintro ⟨-, rfl, hmem⟩
      exact hmem hknown
    · unfold Graph.override
      rw [hlink]
      exact nodup_idsAt_note h.nodupParents _ c _
    · unfold Graph.override
      rw [hlink]
      exact h.noFlows

/-- Taking in all instances, one after the other. -/
theorem taken_foldl (ms : List ModuleDef) (is : List Instance) :
    is.foldlM (joinInstance ms) (named ms) = .ok (is.foldl (Graph.addInstance ms) (named ms)) ∧
      Taken ms is (is.foldl (Graph.addInstance ms) (named ms)) := by
  induction is using List.reverseRecOn with
  | nil => exact ⟨rfl, taken_nil ms⟩
  | append_singleton is i ih =>
    obtain ⟨hfold, htaken⟩ := ih
    rw [List.foldlM_append, hfold, List.foldl_append, List.foldl_cons, List.foldl_nil]
    refine ⟨?_, htaken.addInstance i⟩
    show [i].foldlM (joinInstance ms) (is.foldl (Graph.addInstance ms) (named ms)) = _
    rw [List.foldlM_cons, (htaken.addInstance_cases i).1]
    rfl

theorem foldl_addFlow (flows : List Flow) : ∀ g : Graph,
    flows.foldl addFlow g = { g with flows := g.flows ++ flows } := by
  induction flows with
  | nil => intro g; simp
  | cons f flows ih => intro g; rw [List.foldl_cons, ih]; simp [addFlow]

/-- Building in place gives the graph that is built from nothing. -/
theorem rebuild_eq (g : Graph) (ms : List ModuleDef) (is : List Instance) :
    g.rebuild ms is = .ok (build ms is) := by
  obtain ⟨hfold, htaken⟩ := taken_foldl ms is
  have hbuild : build ms is = { is.foldl (Graph.addInstance ms) (named ms) with
      flows := (is.foldl (Graph.addInstance ms) (named ms)).allFlows } := rfl
  have hnamed : ms.foldl (fun g m => g.addNode (nodeOf m)) g.clear = named ms := rfl
  unfold rebuild
  simp only [hnamed, hfold]
  show Except.ok (List.foldl addFlow _ _) = _
  rw [hbuild, foldl_addFlow, htaken.noFlows, List.nil_append]

/-! ## Nothing lost, nothing twice -/

/-- Sorting values by a key with distinct places loses none that has a place. -/
theorem perm_flatMap_filter {α β κ : Type} [DecidableEq κ] (key : α → Option κ) (f : α → β)
    {keys : List κ} (hn : keys.Nodup) : ∀ {as : List α}, (∀ a ∈ as, ∀ k, key a = some k → k ∈ keys) →
    (keys.flatMap fun k => (as.filter fun a => key a == some k).map f).Perm
      ((as.filter fun a => (key a).isSome).map f)
  | [], _ => by simp
  | a :: as, h => by
    have ih := perm_flatMap_filter key f hn fun b hb => h b (List.mem_cons_of_mem _ hb)
    cases ha : key a with
    | none => simpa [ha] using ih
    | some k =>
      -- the place of the first value splits the keys
      obtain ⟨ks, ls, rfl⟩ := List.append_of_mem (h a List.mem_cons_self k ha)
      obtain ⟨-, hl, hkl⟩ := List.nodup_append.1 hn
      have hks : ∀ k' ∈ ks, ¬k = k' := fun k' hk' e => hkl k' hk' k List.mem_cons_self e.symm
      have hls : ∀ k' ∈ ls, ¬k = k' := fun k' hk' e => (List.nodup_cons.1 hl).1 (e ▸ hk')
      have hother : ∀ {zs : List κ}, (∀ k' ∈ zs, ¬k = k') →
          (zs.flatMap fun k' => ((a :: as).filter fun a => key a == some k').map f) =
            zs.flatMap fun k' => (as.filter fun a => key a == some k').map f := fun hz =>
        List.flatMap_congr fun k' hk' => by simp [ha, hz k' hk']
      rw [List.flatMap_append, List.flatMap_cons, hother hks, hother hls]
      rw [List.flatMap_append, List.flatMap_cons] at ih
      simp only [List.filter_cons, ha, beq_self_eq_true, if_true, Option.isSome_some, List.map_cons,
        List.cons_append]
      exact List.perm_middle.trans (ih.cons (f a))

theorem nodup_pairsOf {m : OrderedMap String (List String)} (hu : m.Unique)
    (hn : ∀ k, (idsAt m k).Nodup) : (pairsOf m).Nodup := by
  unfold pairsOf
  rw [List.nodup_flatMap]
  constructor
  · intro e he
    have hids : idsAt m e.1 = e.2 := by
      unfold idsAt
      rw [(get?_eq_some_iff hu).2 he]
      rfl
    exact (hids ▸ hn e.1).map fun _ _ h => (Prod.ext_iff.1 h).2
  · refine (List.pairwise_map.1 hu).imp fun {a b} hab => ?_
    simp only [Function.onFun, List.disjoint_left, List.mem_map, not_exists, not_and]
    rintro x ⟨s, -, rfl⟩ t -
    intro he
    exact hab (Prod.ext_iff.1 he).1.symm

/-- A graph is built in place of any other without an edge being refused. Its nodes are the first
definitions of each name, each with the instances that belong to it and the overrides of all instances
of it; every instance of a file with modules stands in exactly one node; and an edge, or an undefined
type, is noted once and exactly because of some instance. -/
theorem rebuild_complete (before : Graph) (ms : List ModuleDef) (is : List Instance) :
    before.rebuild ms is = .ok (build ms is) ∧
    (build ms is).nodes.entries = (firstOfEachName ms).map (fun m => (m.name, fullNode ms is m)) ∧
    (∀ i ∈ is, (∃ m ∈ ms, m.file = i.file) ↔ ∃ p ∈ (build ms is).names, parentOf? ms i = some p) ∧
    ((build ms is).nodes.values.flatMap (·.instances)).Perm
      ((is.filter fun i => ms.any fun m => m.file = i.file).map (resolvedIn ms)) ∧
    (∀ p t, (p, t) ∈ (build ms is).edges ↔ ∃ i ∈ is, parentOf? ms i = some p ∧ i.moduleType = t ∧
      t ∈ (build ms is).names) ∧
    (∀ p t, t ∈ (build ms is).unresolvedOf p ↔ ∃ i ∈ is, parentOf? ms i = some p ∧
      i.moduleType = t ∧ t ∉ (build ms is).names) ∧
    (∀ p t, ¬((p, t) ∈ (build ms is).edges ∧ t ∈ (build ms is).unresolvedOf p)) ∧
    (∀ p t, (t, p) ∈ (build ms is).reverseEdges ↔ (p, t) ∈ (build ms is).edges) ∧
    (build ms is).edges.Nodup ∧ (build ms is).reverseEdges.Nodup ∧
    (pairsOf (build ms is).unresolved).Nodup := by
  obtain ⟨-, htaken⟩ := taken_foldl ms is
  -- the flows are added last and leave everything else as it is
  have hbuild : build ms is = { is.foldl (Graph.addInstance ms) (named ms) with
      flows := (is.foldl (Graph.addInstance ms) (named ms)).allFlows } := rfl
  have hedges : ∀ p t, (p, t) ∈ (build ms is).edges ↔ ∃ i ∈ is, parentOf? ms i = some p ∧
      i.moduleType = t ∧ t ∈ (build ms is).names := fun p t =>
    (mem_pairsOf htaken.wf.uniqueChildren).trans (htaken.children p t)
  have hunresolved : ∀ p t, t ∈ (build ms is).unresolvedOf p ↔ ∃ i ∈ is, parentOf? ms i = some p ∧
      i.moduleType = t ∧ t ∉ (build ms is).names := htaken.unresolved
  have hplaced : ∀ i ∈ is, ∀ p, parentOf? ms i = some p → p ∈ (build ms is).names := fun i _ p hp =>
    htaken.mem_keys.2 (exists_of_parentOf? hp)
  refine ⟨rebuild_eq before ms is, htaken.nodes, fun i hi => ?_, ?_, hedges, hunresolved,
    fun p t => ?_, fun p t => ?_, ?_, ?_, ?_⟩
  · -- an instance has a parent exactly if its file has a module
    have hfile : (∃ m ∈ ms, m.file = i.file) ↔ (parentOf? ms i).isSome = true := by
      rw [isSome_parentOf?]
      simp
    rw [hfile, Option.isSome_iff_exists]
    constructor
    · rintro ⟨p, hp⟩; exact ⟨p, hplaced i hi p hp, hp⟩
    · rintro ⟨p, -, hp⟩; exact ⟨p, hp⟩
  · -- node by node these are the instances with this parent, and every parent has one node
    have hvalues : (build ms is).nodes.values.flatMap (·.instances) =
        (build ms is).names.flatMap fun p => (is.filter fun i => parentOf? ms i == some p).map
          (resolvedIn ms) := by
      rw [show (build ms is).names = (firstOfEachName ms).map (·.name) from htaken.keys]
      unfold OrderedMap.values
      rw [show (build ms is).nodes.entries = _ from htaken.nodes, List.map_map, List.flatMap_map,
        List.flatMap_map]
      rfl
    rw [hvalues]
    simp only [← isSome_parentOf?]
    exact perm_flatMap_filter _ _ htaken.wf.unique hplaced
  · -- an edge calls for a type that is known, an unresolved one for a type that is not
    rw [hedges, hunresolved]
    rintro ⟨⟨_, -, -, -, hin⟩, ⟨_, -, -, -, hout⟩⟩
    exact hout hin
  · exact (mem_pairsOf htaken.wf.uniqueParents).trans ((htaken.wf.mirrored p t).trans
      (mem_pairsOf htaken.wf.uniqueChildren).symm)
  · exact nodup_pairsOf htaken.wf.uniqueChildren htaken.wf.nodup
  · exact nodup_pairsOf htaken.wf.uniqueParents htaken.nodupParents
  · exact nodup_pairsOf htaken.wf.uniqueUnresolved htaken.wf.nodupUnresolved

end RtlAtlas.Graph
