/-
The flows of a graph against the connections it is built of. A connection binds a port of the first
definition of the instance's type, by name or by position (`Binds`); the flows are those that the bound
ports call for, module by module in the order of nodes, instance by instance, connection by
connection, and nothing else. Each runs along an edge of the graph, and its inner end names the
instance and its type.
-/
import RtlAtlas.Proofs.Graph.Content

namespace RtlAtlas

/-- A port through which a signal comes out of an instance. -/
def Port.Drives (p : Port) : Prop := p.direction = .output ∨ p.direction = .inout

/-- A port through which a signal goes into an instance. -/
def Port.Takes (p : Port) : Prop := p.direction = .input ∨ p.direction = .inout

theorem Port.takes_or_drives (p : Port) : p.Takes ∨ p.Drives := by
  unfold Takes Drives
  cases p.direction <;> simp

namespace Graph

/-! ## What is expected -/

/-- The port that a connection binds, among the ports of a module: the first with its name, or the one
at its position if it is written without a name. -/
inductive Binds (ports : List Port) (c : Connection) (p : Port) : Prop where
  | named (before after : List Port) (written : c.port ≠ "") (split : ports = before ++ p :: after)
      (same : p.name = c.port) (first : ∀ q ∈ before, q.name ≠ c.port)
  | positional (k : Nat) (unnamed : c.port = "") (placed : c.position = some (k : Int))
      (found : ports[k]? = some p)

/-- The port that a connection of an instance binds; there is none without a definition of the type. -/
def boundPort? (ms : List ModuleDef) (i : Instance) (c : Connection) : Option Port :=
  (ms.find? fun m => m.name == i.moduleType).bind fun m => portOf? (nodeOf m) c

/-- A signal of a module that goes into a port of an instance. -/
def inbound (parent : String) (i : Instance) (c : Connection) (p : Port) : Flow :=
  ⟨⟨parent, c.signal, none⟩, ⟨i.moduleType, p.name, some i.name⟩, c.signal, parent, i.moduleType⟩

/-- A port of an instance that drives a signal of a module. -/
def outbound (parent : String) (i : Instance) (c : Connection) (p : Port) : Flow :=
  ⟨⟨i.moduleType, p.name, some i.name⟩, ⟨parent, c.signal, none⟩, c.signal, parent, i.moduleType⟩

/-- What the direction of a bound port calls for. -/
def crossings (parent : String) (i : Instance) (c : Connection) (p : Port) : List Flow :=
  match p.direction with
  | .input => [inbound parent i c p]
  | .output => [outbound parent i c p]
  | .inout => [inbound parent i c p, outbound parent i c p]

/-- The flows that the instances of a module call for, connection by connection. -/
def expectedFlows (ms : List ModuleDef) (is : List Instance) (parent : String) : List Flow :=
  (is.filter fun i => parentOf? ms i == some parent).flatMap fun i =>
    i.connections.flatMap fun c => (boundPort? ms i c).toList.flatMap (crossings parent i c)

/-! ## Ports -/

theorem find?_name_eq_some_iff {ports : List Port} {name : String} {p : Port} :
    ports.find? (fun q => q.name == name) = some p ↔
      ∃ before after, ports = before ++ p :: after ∧ p.name = name ∧ ∀ q ∈ before, q.name ≠ name := by
  rw [List.find?_eq_some_iff_append]
  constructor
  · rintro ⟨hp, before, after, rfl, hfirst⟩
    exact ⟨before, after, rfl, by simpa using hp, fun q hq => by simpa using hfirst q hq⟩
  · rintro ⟨before, after, rfl, hp, hfirst⟩
    exact ⟨by simpa using hp, before, after, rfl, fun q hq => by simpa using hfirst q hq⟩

/-- Looking a port up finds the one that is bound. -/
theorem portOf?_eq_some_iff {n : Node} {c : Connection} {p : Port} :
    portOf? n c = some p ↔ Binds n.ports c p := by
  unfold portOf? Node.port?
  by_cases hc : c.port = ""
  · simp only [hc, bne_self_eq_false, Bool.false_eq_true, if_false]
    constructor
    · intro h
      cases hk : c.position with
      | none => rw [hk] at h; cases h
      | some k =>
        rw [hk] at h
        simp only at h
        split at h
        · rename_i hpos
          have hcast : k = (k.toNat : Int) := (Int.toNat_of_nonneg hpos).symm
          exact .positional k.toNat hc (hk.trans (congrArg some hcast)) h
        · cases h
    · -- A name wins over a position, so a constructor of the other kind contradicts the case.
      rintro (⟨before, after, hw, -, -, -⟩ | ⟨k, -, hk, hp⟩)
      · exact absurd hc hw
      · rw [hk]
        simpa using hp
  · simp only [bne_iff_ne, ne_eq, hc, not_false_eq_true, if_true]
    rw [find?_name_eq_some_iff]
    constructor
    · rintro ⟨before, after, hs, hp, hfirst⟩
      exact .named before after hc hs hp hfirst
    · rintro (⟨before, after, -, hs, hp, hfirst⟩ | ⟨k, hu, -, -⟩)
      · exact ⟨before, after, hs, hp, hfirst⟩
      · exact absurd hu hc

/-- A connection binds a port of the definition that is kept for its instance's type, or none. -/
theorem boundPort?_eq_some_iff {ms : List ModuleDef} {i : Instance} {c : Connection} {p : Port} :
    boundPort? ms i c = some p ↔
      ∃ m ∈ firstOfEachName ms, m.name = i.moduleType ∧ Binds m.ports c p := by
  unfold boundPort?
  rw [← find?_firstOfEachName, Option.bind_eq_some_iff]
  constructor
  · rintro ⟨m, hm, hp⟩
    exact ⟨m, List.mem_of_find?_eq_some hm, by simpa using List.find?_some hm,
      portOf?_eq_some_iff.1 hp⟩
  · rintro ⟨m, hm, hname, hp⟩
    refine ⟨m, ?_, portOf?_eq_some_iff.2 hp⟩
    -- the first definitions have distinct names
    have hsome : ((firstOfEachName ms).find? fun m' => m'.name == i.moduleType).isSome := by
      rw [List.find?_isSome]
      exact ⟨m, hm, by simpa using hname⟩
    obtain ⟨m', hm'⟩ := Option.isSome_iff_exists.1 hsome
    have hname' : m'.name = i.moduleType := by simpa using List.find?_some hm'
    have heq : m' = m := List.inj_on_of_nodup_map (nodup_firstOfEachName ms)
      (List.mem_of_find?_eq_some hm') hm (hname'.trans hname.symm)
    rw [hm', heq]

/-! ## Flows -/

/-- A connection without a direction flows as the port it binds calls for. -/
theorem flowsOf_resolveConnection {n : Node} {c : Connection} (hc : c.direction = none)
    (parent : String) (i : Instance) (connections : List Connection) :
    flowsOf parent { i with connections := connections } (resolveConnection n c) =
      (portOf? n c).toList.flatMap (crossings parent i c) := by
  unfold resolveConnection
  cases hp : portOf? n c with
  | none => simp [flowsOf, hc]
  | some p => cases hd : p.direction <;> simp [flowsOf, crossings, inbound, outbound, hd]

/-- An instance with its connections resolved makes the flows that its connections call for, or none
if its type is undefined. -/
theorem flows_resolvedIn {ms : List ModuleDef} {i : Instance}
    (hi : ∀ c ∈ i.connections, c.direction = none) (parent : String) :
    (if ms.any fun m => m.name == i.moduleType then
      (resolvedIn ms i).connections.flatMap (flowsOf parent (resolvedIn ms i)) else []) =
      i.connections.flatMap fun c => (boundPort? ms i c).toList.flatMap (crossings parent i c) := by
  unfold resolvedIn boundPort?
  cases hm : ms.find? fun m => m.name == i.moduleType with
  | none =>
    have hany : ¬(ms.any fun m => m.name == i.moduleType) = true := by
      rw [List.any_eq_true]
      rintro ⟨m, hmem, hname⟩
      exact List.find?_eq_none.1 hm m hmem hname
    simp [hany]
  | some m =>
    have hany : (ms.any fun m => m.name == i.moduleType) = true := by
      rw [List.any_eq_true]
      exact ⟨m, List.mem_of_find?_eq_some hm, by simpa using List.find?_some hm⟩
    rw [if_pos hany]
    simp only [Option.map_some, resolveInstance, Option.bind_some, List.flatMap_map]
    exact List.flatMap_congr fun c hc => flowsOf_resolveConnection (hi c hc) parent i _

theorem flatMap_filter {α β : Type} (p : α → Bool) (f : α → List β) (l : List α) :
    (l.filter p).flatMap f = l.flatMap fun a => if p a then f a else [] := by
  induction l with
  | nil => rfl
  | cons a l ih =>
    by_cases ha : p a = true
    · simp [ha, ih]
    · simp [ha, ih]

/-- The instances of a module, without those of undefined types, make the flows that are expected. -/
theorem flows_instancesOf {ms : List ModuleDef} {is : List Instance}
    (hbare : ∀ i ∈ is, ∀ c ∈ i.connections, c.direction = none) (parent : String) :
    ((instancesOf ms is parent).filter fun i => ms.any fun m => m.name == i.moduleType).flatMap
        (fun i => i.connections.flatMap (flowsOf parent i)) = expectedFlows ms is parent := by
  unfold instancesOf expectedFlows
  rw [flatMap_filter, List.flatMap_map]
  refine List.flatMap_congr fun i hi => ?_
  have htype : (resolvedIn ms i).moduleType = i.moduleType := by
    unfold resolvedIn resolveInstance
    cases (ms.find? fun m => m.name == i.moduleType).map nodeOf <;> rfl
  rw [htype]
  exact flows_resolvedIn (hbare i (List.mem_of_mem_filter hi)) parent

theorem contains_build {ms : List ModuleDef} {is : List Instance} {g : Graph} (h : Taken ms is g)
    (name : String) : g.contains name = ms.any fun m => m.name == name := by
  rw [Bool.eq_iff_iff, mem_names_iff, h.mem_keys, List.any_eq_true]
  exact exists_congr fun m => and_congr_right fun _ => beq_iff_eq.symm

theorem allFlows_taken {ms : List ModuleDef} {is : List Instance} {g : Graph} (h : Taken ms is g)
    (hbare : ∀ i ∈ is, ∀ c ∈ i.connections, c.direction = none) :
    g.allFlows = g.names.flatMap (expectedFlows ms is) := by
  have hnames : g.names = (firstOfEachName ms).map (·.name) := h.keys
  unfold allFlows
  rw [hnames, h.nodes, List.flatMap_map, List.flatMap_map]
  refine List.flatMap_congr fun m _ => ?_
  simp only [contains_build h]
  exact flows_instancesOf hbare m.name

/-- The flows of a built graph are those that its connections call for. -/
theorem flows_build {ms : List ModuleDef} {is : List Instance}
    (hbare : ∀ i ∈ is, ∀ c ∈ i.connections, c.direction = none) :
    (build ms is).flows = (build ms is).names.flatMap (expectedFlows ms is) :=
  allFlows_taken (taken_foldl ms is).2 hbare

/-- A port that takes a signal calls for an inbound flow, and one that drives it for an outbound one. -/
theorem mem_crossings {parent : String} {i : Instance} {c : Connection} {p : Port} {f : Flow} :
    f ∈ crossings parent i c p ↔
      p.Takes ∧ f = inbound parent i c p ∨ p.Drives ∧ f = outbound parent i c p := by
  unfold crossings Port.Takes Port.Drives
  cases p.direction <;> simp

theorem mem_expectedFlows {ms : List ModuleDef} {is : List Instance} {parent : String} {f : Flow} : f ∈ expectedFlows ms is parent ↔
    ∃ i ∈ is, parentOf? ms i = some parent ∧
      ∃ c ∈ i.connections, ∃ p, boundPort? ms i c = some p ∧ f ∈ crossings parent i c p := by
  unfold expectedFlows
  simp only [List.mem_flatMap, List.mem_filter, beq_iff_eq, Option.mem_toList, and_assoc]

/-- A flow that is expected of a module comes from one of its instances, runs to the type of the
instance, and ends at a port of it. -/
theorem of_mem_expectedFlows {ms : List ModuleDef} {is : List Instance} {parent : String} {f : Flow}
    (hf : f ∈ expectedFlows ms is parent) :
    ∃ i ∈ is, ∃ c ∈ i.connections, ∃ p, parentOf? ms i = some parent ∧
      boundPort? ms i c = some p ∧ (f = inbound parent i c p ∨ f = outbound parent i c p) := by
  obtain ⟨i, hi, hparent, c, hc, p, hp, hf⟩ := mem_expectedFlows.1 hf
  exact ⟨i, hi, c, hc, p, hparent, hp, (mem_crossings.1 hf).imp And.right And.right⟩

/-- The graph of modules and of instances whose connections carry no direction yet, built in place of
any other. Its flows are, module by module in the order of nodes, those that the connections of the
module's instances call for, where a connection binds a port of the definition kept for the type of its
instance. Each runs along an edge and has the instance and its type at its inner end. -/
theorem rebuild_flows (before : Graph) (ms : List ModuleDef) (is : List Instance)
    (hbare : ∀ i ∈ is, ∀ c ∈ i.connections, c.direction = none) :
    ∃ g, before.rebuild ms is = .ok g ∧
      (∀ e ∈ g.nodes.entries,
        e.2.instances = (is.filter fun i => parentOf? ms i == some e.1).map (resolvedIn ms)) ∧
      g.flows = g.names.flatMap (expectedFlows ms is) ∧
      (∀ i c p, boundPort? ms i c = some p ↔
        ∃ m ∈ firstOfEachName ms, m.name = i.moduleType ∧ Binds m.ports c p) ∧
      ∀ f ∈ g.flows, (f.parent, f.child) ∈ g.edges ∧
        ∃ i ∈ is, ∃ c ∈ i.connections, ∃ p, parentOf? ms i = some f.parent ∧ i.moduleType = f.child ∧
          boundPort? ms i c = some p ∧ (f = inbound f.parent i c p ∨ f = outbound f.parent i c p) := by
  obtain ⟨-, htaken⟩ := taken_foldl ms is
  have hflows : (build ms is).flows = (build ms is).names.flatMap (expectedFlows ms is) :=
    flows_build hbare
  refine ⟨build ms is, rebuild_eq before ms is, fun e he => ?_, hflows,
    fun i c p => boundPort?_eq_some_iff, fun f hf => ?_⟩
  · rw [show (build ms is).nodes.entries = _ from htaken.nodes] at he
    obtain ⟨m, -, rfl⟩ := List.mem_map.1 he
    rfl
  · rw [hflows] at hf
    obtain ⟨parent, -, hf⟩ := List.mem_flatMap.1 hf
    obtain ⟨i, hi, c, hc, p, hparent, hp, hor⟩ := of_mem_expectedFlows hf
    have hpath : f.parent = parent ∧ f.child = i.moduleType := by
      rcases hor with rfl | rfl <;> exact ⟨rfl, rfl⟩
    obtain ⟨rfl, hchild⟩ := hpath
    refine ⟨(mem_pairsOf htaken.wf.uniqueChildren).2 ((htaken.children _ _).2
      ⟨i, hi, hparent, hchild.symm, ?_⟩), i, hi, c, hc, p, hparent, hchild.symm, hp, hor⟩
    -- a connection binds a port only if the type is defined
    obtain ⟨m, hm, hname, -⟩ := boundPort?_eq_some_iff.1 hp
    exact htaken.mem_keys.2 ⟨m, mem_of_mem_firstOfEachName hm, hname.trans hchild.symm⟩

/-- A module that instantiates a cell, with one connection of each kind: named ports of every
direction, a port that does not exist, positions inside and outside the ports, and a type that is
defined nowhere. A second definition of the cell, with its directions turned round, does not count. -/
def wired : List ModuleDef × List Instance :=
  let top := Path.ofString "/repo/top.v"
  let cell := Path.ofString "/repo/cell.v"
  let ports : List Port := [⟨"d", .input, "wire"⟩, ⟨"q", .output, "wire"⟩, ⟨"bus", .inout, "wire"⟩]
  let turned : List Port := [⟨"q", .input, "wire"⟩, ⟨"d", .output, "wire"⟩]
  ([⟨"top", top, 1, 9, []⟩, ⟨"cell", cell, 1, 4, ports⟩, ⟨"cell", cell, 5, 8, turned⟩],
    [⟨"u", "cell", top, 2, [⟨"d", "a", none, none⟩, ⟨"bus", "b", none, none⟩, ⟨"z", "c", none, none⟩],
        .empty⟩,
      ⟨"v", "cell", top, 3, [⟨"", "e", none, some 1⟩, ⟨"", "f", none, some 3⟩], .empty⟩,
      ⟨"w", "gone", top, 4, [⟨"d", "g", none, none⟩], .empty⟩])

theorem rebuild_flows_wired :
    (∀ i ∈ wired.2, ∀ c ∈ i.connections, c.direction = none) ∧
      ∃ g, empty.rebuild wired.1 wired.2 = .ok g ∧ g.flows =
        [⟨⟨"top", "a", none⟩, ⟨"cell", "d", some "u"⟩, "a", "top", "cell"⟩,
          ⟨⟨"top", "b", none⟩, ⟨"cell", "bus", some "u"⟩, "b", "top", "cell"⟩,
          ⟨⟨"cell", "bus", some "u"⟩, ⟨"top", "b", none⟩, "b", "top", "cell"⟩,
          ⟨⟨"cell", "q", some "v"⟩, ⟨"top", "e", none⟩, "e", "top", "cell"⟩] := by
  have hbare : ∀ i ∈ wired.2, ∀ c ∈ i.connections, c.direction = none := by decide +kernel
  obtain ⟨g, hg, -, hflows, -⟩ := rebuild_flows empty wired.1 wired.2 hbare
  have hnames : g.names = ["top", "cell"] := by
    rw [rebuild_eq] at hg
    cases hg
    decide +kernel
  refine ⟨hbare, g, hg, ?_⟩
  rw [hflows, hnames]
  decide +kernel

end Graph

end RtlAtlas
