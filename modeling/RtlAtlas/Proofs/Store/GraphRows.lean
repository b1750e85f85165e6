/-
A saved graph reads back as it was but for the order of its backward edges. Adding the saved nodes,
joining the saved edges and noting the saved undefined types, each in the order of its rows, gives
nodes, edges and types in the order they had; the parents of a module come in the order of the nodes,
whatever order they had.
-/
import RtlAtlas.Proofs.Graph.Shape
import RtlAtlas.Store.Snapshot

namespace RtlAtlas

open OrderedMap Table

/-! ## Noting the pairs of a map -/

/-- Notes pairs one after the other. -/
def Table.noteAll (m : OrderedMap String (List String)) (pairs : List (String × String)) :
    OrderedMap String (List String) :=
  pairs.foldl (fun m e => note m e.1 e.2) m

theorem Table.unique_noteAll : ∀ (pairs : List (String × String)) {m : OrderedMap String (List String)},
    m.Unique → (noteAll m pairs).Unique
  | [], _, h => h
  | e :: es, _, h => unique_noteAll es (unique_note h e.1 e.2)

/-- Under a key come the values noted for it, in order, if none is noted twice. -/
theorem Table.idsAt_noteAll (k : String) : ∀ (pairs : List (String × String))
    (m : OrderedMap String (List String)),
    (idsAt m k ++ (pairs.filter fun e => e.1 = k).map (·.2)).Nodup →
    idsAt (noteAll m pairs) k = idsAt m k ++ (pairs.filter fun e => e.1 = k).map (·.2)
  | [], m, _ => (List.append_nil _).symm
  | e :: es, m, h => by
    have hone : idsAt (note m e.1 e.2) k = idsAt m k ++ ([e].filter fun e => e.1 = k).map (·.2) := by
      rw [idsAt_note]
      by_cases hk : k = e.1
      · subst hk
        have hnew : e.2 ∉ idsAt m e.1 := fun hm =>
          (List.nodup_append.1 h).2.2 _ hm e.2 (by simp) rfl
        rw [if_pos rfl, if_neg fun hc => hnew (List.contains_iff_mem.1 hc)]
        simp
      · have hk' : ¬e.1 = k := fun he => hk he.symm
        simp [hk, hk']
    have hsplit : (([e].filter fun e => e.1 = k).map (·.2)) ++ (es.filter fun e => e.1 = k).map (·.2) =
        ((e :: es).filter fun e => e.1 = k).map (·.2) := by
      rw [← List.map_append, ← List.filter_append, List.singleton_append]
    show idsAt (noteAll (note m e.1 e.2) es) k = _
    rw [idsAt_noteAll k es _ (by rw [hone, List.append_assoc, hsplit]; exact h), hone,
      List.append_assoc, hsplit]

theorem Table.keys_noteAll_of_known : ∀ {pairs : List (String × String)}
    {m : OrderedMap String (List String)}, (∀ e ∈ pairs, e.1 ∈ m.keys) →
    (noteAll m pairs).keys = m.keys
  | [], _, _ => rfl
  | e :: es, m, h => by
    have hk : (note m e.1 e.2).keys = m.keys := by rw [keys_note, if_pos (h e List.mem_cons_self)]
    show (noteAll (note m e.1 e.2) es).keys = _
    rw [keys_noteAll_of_known fun e' he' => hk.symm ▸ h e' (List.mem_cons_of_mem _ he'), hk]

/-- Values noted under one new key append that key. -/
theorem Table.keys_noteAll_under {k : String} {bs : List String} (hb : bs ≠ [])
    {m : OrderedMap String (List String)} (hk : k ∉ m.keys) :
    (noteAll m (bs.map (k, ·))).keys = m.keys ++ [k] := by
  obtain ⟨b, bs, rfl⟩ := List.exists_cons_of_ne_nil hb
  have hone : (note m k b).keys = m.keys ++ [k] := by rw [keys_note, if_neg hk]
  show (noteAll (note m k b) (bs.map (k, ·))).keys = _
  rw [keys_noteAll_of_known, hone]
  intro e he
  obtain ⟨b', -, rfl⟩ := List.mem_map.1 he
  rw [hone]
  exact List.mem_append_right _ List.mem_cons_self

theorem Table.noteAll_append (m : OrderedMap String (List String)) (ps qs : List (String × String)) :
    noteAll m (ps ++ qs) = noteAll (noteAll m ps) qs := List.foldl_append

theorem Table.keys_noteAll_pairsOf : ∀ {es : List (String × List String)}
    {m : OrderedMap String (List String)}, (∀ e ∈ es, e.2 ≠ []) → (m.keys ++ es.map (·.1)).Nodup →
    (noteAll m (Graph.pairsOf ⟨es⟩)).keys = m.keys ++ es.map (·.1)
  | [], m, _, _ => (List.append_nil _).symm
  | e :: es, m, hne, hn => by
    have hk : e.1 ∉ m.keys := fun hm => (List.nodup_append.1 hn).2.2 _ hm e.1 (by simp) rfl
    have hone := keys_noteAll_under (hne e List.mem_cons_self) hk
    show (noteAll m (e.2.map (e.1, ·) ++ Graph.pairsOf ⟨es⟩)).keys = _
    rw [noteAll_append, keys_noteAll_pairsOf (fun e' he' => hne e' (List.mem_cons_of_mem _ he'))
      (by rw [hone]; simpa using hn), hone]
    simp

theorem Graph.filter_pairsOf {m : OrderedMap String (List String)} (hu : m.Unique) (k : String) :
    ((pairsOf m).filter fun e => e.1 = k).map (·.2) = idsAt m k := by
  suffices h : ∀ es : List (String × List String), (es.map (·.1)).Nodup →
      ((pairsOf ⟨es⟩).filter fun e => e.1 = k).map (·.2) = idsAt ⟨es⟩ k from h m.entries hu
  intro es
  induction es with
  | nil => exact fun _ => rfl
  | cons e es ih =>
    intro hn
    rw [List.map_cons, List.nodup_cons] at hn
    have hsplit : pairsOf ⟨e :: es⟩ = e.2.map (e.1, ·) ++ pairsOf ⟨es⟩ := rfl
    rw [hsplit, List.filter_append, List.map_append, ih hn.2]
    unfold idsAt
    rw [get?_cons]
    by_cases hk : e.1 = k
    · have hnone : (⟨es⟩ : OrderedMap String (List String)).get? k = none :=
        get?_eq_none_iff.2 (hk ▸ hn.1)
      rw [if_pos hk, hnone]
      simp [List.filter_map, Function.comp_def, hk]
    · rw [if_neg hk]
      simp [List.filter_map, Function.comp_def, hk]

/-- Noting the pairs of a map gives the map, from the same keys with nothing under them or, if the map
has something under every key, from nothing. -/
theorem Table.noteAll_pairsOf {m m₀ : OrderedMap String (List String)} (hu : m.Unique)
    (hn : ∀ k, (idsAt m k).Nodup) (hu₀ : m₀.Unique) (h₀ : ∀ k, idsAt m₀ k = [])
    (hkeys : (noteAll m₀ (Graph.pairsOf m)).keys = m.keys) : noteAll m₀ (Graph.pairsOf m) = m := by
  refine ext_idsAt (unique_noteAll _ hu₀) hkeys fun k => ?_
  have hk := idsAt_noteAll k (Graph.pairsOf m) m₀
  rw [h₀, List.nil_append, Graph.filter_pairsOf hu] at hk
  exact hk (hn k)

namespace Graph

variable {g : Graph}

/-! ## Reading rows back -/

/-- Adding nodes under new names appends them and changes nothing else. -/
theorem foldl_addNode_entries : ∀ {es : List (String × Node)} {g : Graph}, g.WF →
    (∀ e ∈ es, e.2.name = e.1) → (g.nodes.keys ++ es.map (·.1)).Nodup →
    ((es.map (·.2)).foldl Graph.addNode g).WF ∧
      ((es.map (·.2)).foldl Graph.addNode g).nodes.entries = g.nodes.entries ++ es ∧
      (∀ k, ((es.map (·.2)).foldl Graph.addNode g).childrenOf k = g.childrenOf k) ∧
      (∀ k, ((es.map (·.2)).foldl Graph.addNode g).parentsOf k = g.parentsOf k) ∧
      ((es.map (·.2)).foldl Graph.addNode g).unresolved = g.unresolved
  | [], g, hg, _, _ => ⟨hg, (List.append_nil _).symm, fun _ => rfl, fun _ => rfl, rfl⟩
  | e :: es, g, hg, hname, hn => by
    have hnew : e.1 ∉ g.nodes.keys := fun hm => (List.nodup_append.1 hn).2.2 _ hm e.1 (by simp) rfl
    -- the name is new, so the node goes to the end and has neither children nor parents
    have hadd : g.addNode e.2 = { g with
        nodes := g.nodes.insert e.1 e.2
        children := g.children.insertNew e.1 []
        parents := g.parents.insertNew e.1 [] } := by
      unfold Graph.addNode
      rw [hname e List.mem_cons_self, if_neg fun hc => hnew (mem_names_iff.1 hc)]
    have hkeys : (g.addNode e.2).nodes.keys = g.nodes.keys ++ [e.1] := by
      rw [hadd]
      exact (keys_insert _ _ _).trans (if_neg hnew)
    obtain ⟨hw, hentries, hchildren, hparents, hunresolved⟩ := foldl_addNode_entries
      (hg.addNode e.2) (fun e' he' => hname e' (List.mem_cons_of_mem _ he'))
      (by rw [hkeys]; simpa using hn)
    refine ⟨hw, ?_, fun k => (hchildren k).trans ?_, fun k => (hparents k).trans ?_,
      hunresolved.trans (by rw [hadd])⟩
    · rw [List.map_cons, List.foldl_cons, hentries, hadd]
      show (g.nodes.insert e.1 e.2).entries ++ es = _
      rw [entries_insert_of_notMem _ hnew]
      simp
    · rw [hadd]
      exact idsAt_insertNew_nil e.1 k
    · rw [hadd]
      exact idsAt_insertNew_nil e.1 k

/-- Joining known modules row by row notes the edges. -/
theorem foldlM_joinRow : ∀ {edges : List (String × String)} {g : Graph}, g.WF →
    (∀ e ∈ edges, e.1 ∈ g.nodes.keys ∧ e.2 ∈ g.nodes.keys) →
    ∃ h, edges.foldlM Database.joinRow g = .ok h ∧ h.WF ∧ h.nodes = g.nodes ∧
      h.children = noteAll g.children edges ∧ h.parents = noteAll g.parents (edges.map Prod.swap) ∧
      h.unresolved = g.unresolved
  | [], g, hg, _ => ⟨g, rfl, hg, rfl, rfl, rfl, rfl⟩
  | e :: es, g, hg, hk => by
    obtain ⟨hp, hc⟩ := hk e List.mem_cons_self
    have hjoin : Database.joinRow g e = .ok (g.link e.1 e.2) := by
      unfold Database.joinRow addEdge
      rw [mem_names_iff.2 hp, mem_names_iff.2 hc]
      rfl
    have hlink := hg.link_eq hp hc
    have hnodes : (g.link e.1 e.2).nodes = g.nodes := by rw [hlink]
    obtain ⟨h, hfold, hw, hn, hch, hpa, hu⟩ := foldlM_joinRow (hg.link hp hc) fun e' he' => by
      rw [hnodes]
      exact hk e' (List.mem_cons_of_mem _ he')
    refine ⟨h, ?_, hw, hn.trans hnodes, hch.trans (by rw [hlink]; rfl),
      hpa.trans (by rw [hlink]; rfl), hu.trans (by rw [hlink])⟩
    rw [List.foldlM_cons, hjoin]
    exact hfold

theorem foldl_addUnresolved : ∀ (rows : List (String × String)) {g : Graph}, g.WF →
    (rows.foldl (fun g (parent, type) => g.addUnresolved parent type) g).WF ∧
      rows.foldl (fun g (parent, type) => g.addUnresolved parent type) g =
        { g with unresolved := noteAll g.unresolved rows }
  | [], _, hg => ⟨hg, rfl⟩
  | e :: es, _, hg => foldl_addUnresolved es (hg.addUnresolved e.1 e.2)

/-! ## The order of parents -/

/-- The parents of every module, in the order of the nodes. -/
def parentsInOrder (g : Graph) : OrderedMap String (List String) :=
  ⟨g.names.map fun c => (c, g.names.filter fun p => (g.childrenOf p).contains c)⟩

/-- The sources of the pairs that lead to a value: the keys that have it, in order. -/
theorem sources_pairsOf {m : OrderedMap String (List String)} (hu : m.Unique)
    (hn : ∀ k, (idsAt m k).Nodup) (c : String) :
    (((pairsOf m).map Prod.swap).filter fun e => e.1 = c).map (·.2) =
      m.keys.filter fun p => (idsAt m p).contains c := by
  -- by induction on the entries: each has a key of its own, so it adds at most one source
  suffices h : ∀ es : List (String × List String), (es.map (·.1)).Nodup → (∀ e ∈ es, e.2.Nodup) →
      (((pairsOf ⟨es⟩).map Prod.swap).filter fun e => e.1 = c).map (·.2) =
        (es.map (·.1)).filter fun p => (idsAt ⟨es⟩ p).contains c by
    refine h m.entries hu fun e he => ?_
    have hids : idsAt m e.1 = e.2 := by
      unfold idsAt
      rw [(get?_eq_some_iff hu).2 he]
      rfl
    exact hids ▸ hn e.1
  intro es
  induction es with
  | nil => exact fun _ _ => rfl
  | cons e es ih =>
    intro hu hn
    rw [List.map_cons, List.nodup_cons] at hu
    have hsplit : pairsOf ⟨e :: es⟩ = e.2.map (e.1, ·) ++ pairsOf ⟨es⟩ := rfl
    have hhead : idsAt (⟨e :: es⟩ : OrderedMap String (List String)) e.1 = e.2 := by
      unfold idsAt
      rw [get?_cons, if_pos rfl]
      rfl
    have htail : ((es.map (·.1)).filter fun p => (idsAt ⟨e :: es⟩ p).contains c) =
        (es.map (·.1)).filter fun p => (idsAt ⟨es⟩ p).contains c := by
      refine List.filter_congr fun p hp => ?_
      have hne : ¬e.1 = p := fun he => hu.1 (he ▸ hp)
      unfold idsAt
      rw [get?_cons, if_neg hne]
    -- the first entry adds its key once, however often its row has the target
    have hone : (((e.2.map (e.1, ·)).map Prod.swap).filter fun x => x.1 = c).map (·.2) =
        if e.2.contains c then [e.1] else [] := by
      have hcount : e.2.filter (fun x => x == c) = if e.2.contains c then [c] else [] := by
        rw [List.filter_beq]
        by_cases hc : c ∈ e.2
        · rw [if_pos (List.contains_iff_mem.2 hc),
            List.count_eq_one_of_mem (hn e List.mem_cons_self) hc]
          rfl
        · rw [if_neg fun h => hc (List.contains_iff_mem.1 h), List.count_eq_zero_of_not_mem hc]
          rfl
      have hfilter : e.2.filter ((fun x => decide (x.1 = c)) ∘ Prod.swap ∘ fun x => (e.1, x)) =
          e.2.filter fun x => x == c := List.filter_congr fun x _ => rfl
      rw [List.map_map, List.filter_map, hfilter, hcount]
      split <;> rfl
    rw [hsplit, List.map_append, List.filter_append, List.map_append, hone,
      ih hu.2 fun e' he' => hn e' (List.mem_cons_of_mem _ he'), List.map_cons, List.filter_cons, hhead,
      htail]
    split <;> rfl

/-- The look-up in a map that gives every key of a list its value. -/
theorem get?_map_key {f : String → List String} (c : String) : ∀ names : List String,
    (⟨names.map fun n => (n, f n)⟩ : OrderedMap String (List String)).get? c =
      if c ∈ names then some (f c) else none
  | [] => rfl
  | n :: names => by
    rw [List.map_cons, get?_cons, get?_map_key c names]
    by_cases h : n = c
    · subst h; simp
    · have h' : ¬c = n := fun e => h e.symm
      simp [h, h']

theorem idsAt_parentsInOrder (hg : g.WF) (c : String) :
    idsAt g.parentsInOrder c = g.names.filter fun p => (g.childrenOf p).contains c := by
  unfold idsAt parentsInOrder
  rw [get?_map_key]
  split
  · rfl
  · -- an unknown module has no parents
    rename_i hc
    exact (List.filter_eq_nil_iff.2 fun p _ h => hc (hg.known p c (List.contains_iff_mem.1 h))).symm

end Graph

open RtlAtlas.Graph in
/-- The rows of a graph give the graph with the parents of every module in the order of the nodes. -/
theorem Database.graph_rows {d : Database} {g : Graph} (hg : g.WF)
    (hnodes : d.nodes = g.nodes.values) (hedges : d.edges = g.edges)
    (hunresolved : d.unresolved = pairsOf g.unresolved) (hflows : d.flows = g.flows) :
    d.graph = .ok { g with parents := g.parentsInOrder } ∧
      ({ g with parents := g.parentsInOrder } : Graph).WF := by
  have hentry : ∀ e ∈ g.nodes.entries, e.2.name = e.1 := fun e he =>
    hg.named e.1 e.2 ((get?_eq_some_iff hg.unique).2 he)
  obtain ⟨hnw, hnentries, hnchildren, hnparents, hnunresolved⟩ :=
    foldl_addNode_entries wf_empty hentry hg.unique
  rw [show g.nodes.entries.map (·.2) = d.nodes from hnodes.symm] at *
  have hn : (d.nodes.foldl Graph.addNode .empty).nodes = g.nodes := congrArg OrderedMap.mk hnentries
  -- every edge joins modules of the graph, so no row of it is refused
  have hpairs : ∀ e ∈ d.edges, e.1 ∈ g.nodes.keys ∧ e.2 ∈ g.nodes.keys := fun e he => by
    rw [hedges] at he
    have hm : e.2 ∈ g.childrenOf e.1 := (mem_pairsOf hg.uniqueChildren).1 he
    exact ⟨hg.known_parent hm, hg.known _ _ hm⟩
  obtain ⟨j, hjoined, hjw, hjnodes, hjchildren, hjparents, hjunresolved⟩ :=
    foldlM_joinRow hnw fun e he => hn.symm ▸ hpairs e he
  obtain ⟨huw, hueq⟩ := foldl_addUnresolved d.unresolved hjw
  have hchildren : j.children = g.children := by
    -- the nodes have put the keys in order, the edges add none
    have hkeys := hnw.childKeys.trans (congrArg OrderedMap.keys hn)
    rw [hjchildren, hedges]
    refine noteAll_pairsOf hg.uniqueChildren hg.nodup hnw.uniqueChildren hnchildren ?_
    rw [keys_noteAll_of_known fun e he => hkeys.symm ▸ (hpairs e (hedges ▸ he)).1, hkeys, hg.childKeys]
  have hparents : j.parents = g.parentsInOrder := by
    have hkeys := hjw.parentKeys.trans (congrArg OrderedMap.keys (hjnodes.trans hn))
    have hordered : g.parentsInOrder.keys = g.nodes.keys := by
      unfold parentsInOrder OrderedMap.keys
      rw [List.map_map]
      exact List.map_id _
    refine ext_idsAt hjw.uniqueParents (hkeys.trans hordered.symm) fun c => ?_
    have hsources : ((d.edges.map Prod.swap).filter fun e => e.1 = c).map (·.2) =
        g.names.filter fun p => (g.childrenOf p).contains c := by
      rw [hedges]
      exact (sources_pairsOf hg.uniqueChildren hg.nodup c).trans (by rw [hg.childKeys]; rfl)
    have hnone : idsAt (d.nodes.foldl Graph.addNode .empty).parents c = [] := hnparents c
    rw [hjparents, idsAt_noteAll, hnone, hsources, idsAt_parentsInOrder hg, List.nil_append]
    rw [hnone, hsources]
    exact hg.unique.filter _
  have hun : noteAll j.unresolved d.unresolved = g.unresolved := by
    rw [hjunresolved, hnunresolved, hunresolved]
    refine noteAll_pairsOf hg.uniqueUnresolved hg.nodupUnresolved unique_empty (fun _ => rfl) ?_
    refine keys_noteAll_pairsOf (fun e he => ?_) hg.uniqueUnresolved
    exact hg.nonemptyUnresolved e.1 e.2 ((get?_eq_some_iff hg.uniqueUnresolved).2 he)
  have hsame : ({ j with unresolved := noteAll j.unresolved d.unresolved, flows := d.flows } : Graph) =
      { g with parents := g.parentsInOrder } := by
    rw [hun, hflows, ← hchildren, ← hparents, ← hjnodes.trans hn]
  rw [hueq] at huw
  rw [← hsame]
  refine ⟨?_, huw.withFlows _⟩
  unfold Database.graph
  simp only [hjoined]
  show Except.ok { d.unresolved.foldl (fun g (parent, type) => g.addUnresolved parent type) j with
    flows := d.flows } = _
  rw [hueq]

open RtlAtlas.Graph in
/-- The rows of a graph give a graph that agrees with it. -/
theorem Database.graph_agrees {d : Database} {g : Graph} (hg : g.WF)
    (hnodes : d.nodes = g.nodes.values) (hedges : d.edges = g.edges)
    (hunresolved : d.unresolved = pairsOf g.unresolved) (hflows : d.flows = g.flows) :
    ∃ h, d.graph = .ok h ∧ h.WF ∧ h.Agrees g := by
  obtain ⟨hgraph, hw⟩ := graph_rows hg hnodes hedges hunresolved hflows
  exact ⟨_, hgraph, hw, rfl, rfl, rfl, rfl, hw.backward_iff hg rfl⟩

end RtlAtlas
