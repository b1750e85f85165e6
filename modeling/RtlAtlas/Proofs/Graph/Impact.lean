/-
What a signal touches. Taking flows in one by one lists the ends of all flows that carry the signal, each
where it first comes up; and the flows of a built graph are those that connections call for. So the
sources and sinks are the ports and the modules that some connection of the signal joins, each on the side
that the direction of the bound port tells, and every module that has an end among them is affected.
-/
import RtlAtlas.Graph.Impact
import RtlAtlas.Proofs.Graph.Flows

namespace RtlAtlas

open OrderedMap

/-! ## Taking flows in -/

theorem appendNew_eraseDups {α : Type} [DecidableEq α] (xs : List α) (x : α) :
    appendNew xs.eraseDups x = (xs ++ [x]).eraseDups := by
  rw [List.eraseDups_append]
  unfold appendNew
  by_cases hx : x ∈ xs
  · simp [hx, List.removeAll]
  · simp [hx, List.removeAll, List.eraseDups_cons]

/-- Appending only what is new keeps the first of each. -/
theorem foldl_appendNew {α : Type} [DecidableEq α] (xs : List α) :
    xs.foldl appendNew [] = xs.eraseDups := by
  induction xs using List.reverseRecOn with
  | nil => rfl
  | append_singleton xs x ih =>
    rw [List.foldl_append, List.foldl_cons, List.foldl_nil, ih, appendNew_eraseDups]

/-- The modules at both ends of a flow. -/
def Flow.ends (f : Flow) : List String := [f.source.module, f.sink.module]

theorem foldl_addFlow_impact (fs : List Flow) : ∀ i : Impact, fs.foldl Impact.addFlow i =
    { i with
      sources := (fs.map (·.source)).foldl appendNew i.sources
      sinks := (fs.map (·.sink)).foldl appendNew i.sinks
      affected := (fs.flatMap Flow.ends).foldl appendNew i.affected } := by
  induction fs with
  | nil => intro i; rfl
  | cons f fs ih =>
    intro i
    rw [List.foldl_cons, ih]
    rfl

namespace Graph

variable {g : Graph} {signal : String}

/-- The flows that carry a signal. -/
def carrying (g : Graph) (signal : String) : List Flow := g.flows.filter fun f => f.signal == signal

theorem mem_carrying {f : Flow} : f ∈ g.carrying signal ↔ f ∈ g.flows ∧ f.signal = signal := by
  rw [carrying, List.mem_filter, beq_iff_eq]

theorem impact_eq (g : Graph) (signal : String) : g.impact signal =
    { signal := signal
      sources := ((g.carrying signal).map (·.source)).eraseDups
      sinks := ((g.carrying signal).map (·.sink)).eraseDups
      affected := ((g.carrying signal).flatMap Flow.ends).eraseDups } := by
  rw [impact, foldl_addFlow_impact, foldl_appendNew, foldl_appendNew, foldl_appendNew]
  rfl

theorem mem_sources {e : Endpoint} :
    e ∈ (g.impact signal).sources ↔ ∃ f ∈ g.flows, f.signal = signal ∧ f.source = e := by
  rw [impact_eq, List.mem_eraseDups, List.mem_map]
  simp only [mem_carrying, and_assoc]

theorem mem_sinks {e : Endpoint} :
    e ∈ (g.impact signal).sinks ↔ ∃ f ∈ g.flows, f.signal = signal ∧ f.sink = e := by
  rw [impact_eq, List.mem_eraseDups, List.mem_map]
  simp only [mem_carrying, and_assoc]

/-- The affected modules are those with an end among the sources and sinks. -/
theorem mem_affected {m : String} : m ∈ (g.impact signal).affected ↔
    ∃ e ∈ (g.impact signal).sources ++ (g.impact signal).sinks, e.module = m := by
  simp only [List.mem_append, mem_sources, mem_sinks]
  rw [impact_eq, List.mem_eraseDups, List.mem_flatMap]
  constructor
  · rintro ⟨f, hf, hm⟩
    obtain ⟨hflow, hsignal⟩ := mem_carrying.1 hf
    rcases List.mem_cons.1 hm with rfl | hm
    · exact ⟨f.source, Or.inl ⟨f, hflow, hsignal, rfl⟩, rfl⟩
    · obtain rfl := List.mem_singleton.1 hm
      exact ⟨f.sink, Or.inr ⟨f, hflow, hsignal, rfl⟩, rfl⟩
  · rintro ⟨e, ⟨f, hflow, hsignal, rfl⟩ | ⟨f, hflow, hsignal, rfl⟩, rfl⟩
    · exact ⟨f, mem_carrying.2 ⟨hflow, hsignal⟩, List.mem_cons_self⟩
    · exact ⟨f, mem_carrying.2 ⟨hflow, hsignal⟩, List.mem_cons_of_mem _ List.mem_cons_self⟩

theorem found_iff : (g.impact signal).found = true ↔ ∃ f ∈ g.flows, f.signal = signal := by
  unfold Impact.found
  rw [Bool.or_eq_true, Bool.not_eq_true', Bool.not_eq_true']
  constructor
  · intro h
    rcases h with h | h
    · obtain ⟨e, he⟩ := List.exists_mem_of_ne_nil _ (List.isEmpty_eq_false_iff.1 h)
      obtain ⟨f, hf, hsignal, -⟩ := mem_sources.1 he
      exact ⟨f, hf, hsignal⟩
    · obtain ⟨e, he⟩ := List.exists_mem_of_ne_nil _ (List.isEmpty_eq_false_iff.1 h)
      obtain ⟨f, hf, hsignal, -⟩ := mem_sinks.1 he
      exact ⟨f, hf, hsignal⟩
  · rintro ⟨f, hf, hsignal⟩
    exact Or.inl (List.isEmpty_eq_false_iff.2
      (List.ne_nil_of_mem (mem_sources.2 ⟨f, hf, hsignal, rfl⟩)))

/-! ## Connections of a signal -/

/-- An instance that belongs to a module has a connection of a signal, which binds a port of the
definition that is kept for the type of the instance. -/
structure Wires (ms : List ModuleDef) (is : List Instance) (signal parent : String) (i : Instance)
    (p : Port) : Prop where
  given : i ∈ is
  attached : parentOf? ms i = some parent
  bound : ∃ c ∈ i.connections, c.signal = signal ∧
    ∃ m ∈ firstOfEachName ms, m.name = i.moduleType ∧ Binds m.ports c p

/-- The end of a flow at a port of an instance. -/
def portEnd (i : Instance) (p : Port) : Endpoint := ⟨i.moduleType, p.name, some i.name⟩

/-- The end of a flow at a signal of a module. -/
def signalEnd (module signal : String) : Endpoint := ⟨module, signal, none⟩

variable {ms : List ModuleDef} {is : List Instance}

theorem mem_flows_build (hbare : ∀ i ∈ is, ∀ c ∈ i.connections, c.direction = none) {f : Flow} :
    f ∈ (build ms is).flows ↔ ∃ parent, f ∈ expectedFlows ms is parent := by
  rw [flows_build hbare, List.mem_flatMap]
  refine ⟨fun ⟨parent, _, hf⟩ => ⟨parent, hf⟩, fun ⟨parent, hf⟩ => ⟨parent, ?_, hf⟩⟩
  -- a module that has an instance is among the nodes
  obtain ⟨i, -, hparent, -⟩ := mem_expectedFlows.1 hf
  exact (taken_foldl ms is).2.mem_keys.2 (exists_of_parentOf? hparent)

/-- What holds of a flow that carries a signal holds of what a connection of the signal calls for. -/
theorem exists_carrying_iff (hbare : ∀ i ∈ is, ∀ c ∈ i.connections, c.direction = none)
    {q : Endpoint → Endpoint → Prop} :
    (∃ f ∈ (build ms is).flows, f.signal = signal ∧ q f.source f.sink) ↔
      ∃ parent i p, Wires ms is signal parent i p ∧
        (p.Takes ∧ q (signalEnd parent signal) (portEnd i p) ∨
          p.Drives ∧ q (portEnd i p) (signalEnd parent signal)) := by
  simp only [mem_flows_build hbare, mem_expectedFlows, mem_crossings]
  constructor
  · rintro ⟨f, ⟨parent, i, hi, hparent, c, hc, p, hp, hf⟩, hsignal, hq⟩
    have hf' : c.signal = signal := by
      rcases hf with ⟨-, rfl⟩ | ⟨-, rfl⟩
      · exact hsignal
      · exact hsignal
    refine ⟨parent, i, p, ⟨hi, hparent, c, hc, hf', boundPort?_eq_some_iff.1 hp⟩, ?_⟩
    subst hf'
    rcases hf with ⟨htakes, rfl⟩ | ⟨hdrives, rfl⟩
    · exact Or.inl ⟨htakes, hq⟩
    · exact Or.inr ⟨hdrives, hq⟩
  · rintro ⟨parent, i, p, ⟨hi, hparent, c, hc, rfl, hp⟩, ⟨htakes, hq⟩ | ⟨hdrives, hq⟩⟩
    · exact ⟨inbound parent i c p, ⟨parent, i, hi, hparent, c, hc, p, boundPort?_eq_some_iff.2 hp,
        Or.inl ⟨htakes, rfl⟩⟩, rfl, hq⟩
    · exact ⟨outbound parent i c p, ⟨parent, i, hi, hparent, c, hc, p, boundPort?_eq_some_iff.2 hp,
        Or.inr ⟨hdrives, rfl⟩⟩, rfl, hq⟩

/-! ## Impact -/

/-- What a signal touches in the graph of modules and of instances whose connections carry no direction
yet. The sources are listed once each in the order of the first flow that carries the signal; they are the
ports that drive the signal, of the instances with a connection of it, and the signal in the modules
whose instances take it. The sinks are those on the other side; every module with an end among them is
affected; and something is found exactly if there is a connection of the signal to a defined port. -/
theorem impact_complete (before : Graph) (ms : List ModuleDef) (is : List Instance)
    (hbare : ∀ i ∈ is, ∀ c ∈ i.connections, c.direction = none) (signal : String) :
    ∃ g, before.rebuild ms is = .ok g ∧
      (g.impact signal).sources = ((g.carrying signal).map (·.source)).eraseDups ∧
      (g.impact signal).sinks = ((g.carrying signal).map (·.sink)).eraseDups ∧
      (g.impact signal).sources.Nodup ∧ (g.impact signal).sinks.Nodup ∧
      (∀ e, e ∈ (g.impact signal).sources ↔ ∃ parent i p, Wires ms is signal parent i p ∧
        (p.Drives ∧ e = portEnd i p ∨ p.Takes ∧ e = signalEnd parent signal)) ∧
      (∀ e, e ∈ (g.impact signal).sinks ↔ ∃ parent i p, Wires ms is signal parent i p ∧
        (p.Takes ∧ e = portEnd i p ∨ p.Drives ∧ e = signalEnd parent signal)) ∧
      (g.impact signal).affected.Nodup ∧
      (∀ m, m ∈ (g.impact signal).affected ↔
        ∃ e ∈ (g.impact signal).sources ++ (g.impact signal).sinks, e.module = m) ∧
      ((g.impact signal).found = true ↔ ∃ parent i p, Wires ms is signal parent i p) := by
  have himpact := impact_eq (build ms is) signal
  refine ⟨build ms is, rebuild_eq before ms is, by rw [himpact], by rw [himpact], ?_, ?_, fun e => ?_,
    fun e => ?_, ?_, fun m => mem_affected, ?_⟩
  · rw [himpact]
    exact nodup_eraseDups _
  · rw [himpact]
    exact nodup_eraseDups _
  · -- who drives: a port inside that is an output, or the parent's signal at an input
    rw [mem_sources, exists_carrying_iff hbare (q := fun source _ => source = e)]
    refine exists_congr fun parent => exists_congr fun i => exists_congr fun p =>
      and_congr_right fun _ => ?_
    simp only [@eq_comm _ e, or_comm]
  · -- and who takes: the other end of each
    rw [mem_sinks, exists_carrying_iff hbare (q := fun _ sink => sink = e)]
    refine exists_congr fun parent => exists_congr fun i => exists_congr fun p =>
      and_congr_right fun _ => ?_
    simp only [@eq_comm _ e]
  · rw [himpact]
    exact nodup_eraseDups _
  · -- a port is connected one way or the other, so any wire makes a flow
    rw [found_iff]
    have hcarried : (∃ f ∈ (build ms is).flows, f.signal = signal ∧ True) ↔ _ :=
      exists_carrying_iff hbare (q := fun _ _ => True)
    simp only [and_true] at hcarried
    rw [hcarried]
    refine exists_congr fun parent => exists_congr fun i => exists_congr fun p => ?_
    exact ⟨fun h => h.1, fun h => ⟨h, p.takes_or_drives⟩⟩

/-- Two modules that each have a signal of the same name and an instance `u` of one cell, whose ports
have every direction. An instance of an undefined type has a connection of the signal too. -/
def sharing : List ModuleDef × List Instance :=
  let top := Path.ofString "/repo/top.v"
  let mid := Path.ofString "/repo/mid.v"
  let cell := Path.ofString "/repo/cell.v"
  let ports : List Port := [⟨"d", .input, "wire"⟩, ⟨"q", .output, "wire"⟩, ⟨"bus", .inout, "wire"⟩]
  ([⟨"top", top, 1, 9, []⟩, ⟨"mid", mid, 1, 9, []⟩, ⟨"cell", cell, 1, 4, ports⟩],
    [⟨"u", "cell", top, 2, [⟨"d", "s", none, none⟩, ⟨"bus", "t", none, none⟩], .empty⟩,
      ⟨"u", "cell", mid, 2, [⟨"", "s", none, some 1⟩], .empty⟩,
      ⟨"v", "cell", mid, 3, [⟨"bus", "s", none, none⟩], .empty⟩,
      ⟨"w", "gone", mid, 4, [⟨"d", "s", none, none⟩], .empty⟩])

theorem impact_complete_sharing :
    (∀ i ∈ sharing.2, ∀ c ∈ i.connections, c.direction = none) ∧
      ∃ g, empty.rebuild sharing.1 sharing.2 = .ok g ∧
        (g.impact "s").sources = [⟨"top", "s", none⟩, ⟨"cell", "q", some "u"⟩, ⟨"mid", "s", none⟩,
          ⟨"cell", "bus", some "v"⟩] ∧
        (g.impact "s").sinks =
          [⟨"cell", "d", some "u"⟩, ⟨"mid", "s", none⟩, ⟨"cell", "bus", some "v"⟩] ∧
        (g.impact "s").affected = ["top", "cell", "mid"] ∧ (g.impact "s").found = true := by
  have hbare : ∀ i ∈ sharing.2, ∀ c ∈ i.connections, c.direction = none := by decide +kernel
  obtain ⟨g, hg, hsources, hsinks, -⟩ :=
    impact_complete empty sharing.1 sharing.2 hbare "s"
  have hflows : g.carrying "s" =
      [⟨⟨"top", "s", none⟩, ⟨"cell", "d", some "u"⟩, "s", "top", "cell"⟩,
        ⟨⟨"cell", "q", some "u"⟩, ⟨"mid", "s", none⟩, "s", "mid", "cell"⟩,
        ⟨⟨"mid", "s", none⟩, ⟨"cell", "bus", some "v"⟩, "s", "mid", "cell"⟩,
        ⟨⟨"cell", "bus", some "v"⟩, ⟨"mid", "s", none⟩, "s", "mid", "cell"⟩] := by
    rw [rebuild_eq] at hg
    rw [← Except.ok.inj hg]
    decide +kernel
  rw [hflows] at hsources hsinks
  refine ⟨hbare, g, hg, ?_, ?_, ?_, ?_⟩
  · rw [hsources]
    decide +kernel
  · rw [hsinks]
    decide +kernel
  · rw [impact_eq, hflows]
    decide +kernel
  · unfold Impact.found
    rw [hsources, hsinks]
    decide +kernel

end Graph

end RtlAtlas
