/-
Which marks of a module are ports. Every reader of a scan marks what it finds with one sort of symbols, so
of all the marks of a module those of its ports are the ones that its port list or the declarations
of its body have led to.
-/
import RtlAtlas.Proofs.Source.Lead

namespace RtlAtlas.Source

open RtlAtlas.Text Cursor

variable {c : Cursor} {m : Mark} {kind : SymbolKind} {nodeType : String}

theorem kind_declarationMark? {s : Segment} {declaration : List Char}
    (h : declarationMark? kind nodeType s declaration = some m) : m.kind = kind := by
  obtain ⟨name, -, rfl⟩ := Option.map_eq_some_iff.1 h
  rfl

theorem kind_parameterMarks {list : Segment} (h : m ∈ parameterMarks nodeType list) :
    m.kind = .constant := by
  obtain ⟨s, -, hs⟩ := List.mem_filterMap.1 h
  exact kind_declarationMark? hs

theorem kind_signalMarks {s : Statement} (h : m ∈ signalMarks s) : m.kind = .signal := by
  obtain ⟨p, -, hp⟩ := List.mem_filterMap.1 h
  exact kind_declarationMark? hp

theorem kind_headerParameters (h : m ∈ (headerParameters c).1) : m.kind = .constant := by
  unfold headerParameters at h
  split at h
  · simp only at h
    split at h
    · exact kind_parameterMarks h
    · cases h
  · cases h

theorem kind_routine? {r : Routine} (h : routine? c = some r) : r.kind ≠ .port := by
  unfold routine? at h
  split at h
  · cases h
  · cases h
    simp only
    split <;> simp

theorem kind_routines {body : Cursor} (h : m ∈ body.routines.filterMap Routine.mark?) :
    m.kind ≠ .port := by
  obtain ⟨r, hr, hm⟩ := List.mem_filterMap.1 h
  obtain ⟨name, -, rfl⟩ := Option.map_eq_some_iff.1 hm
  obtain ⟨d, -, hp⟩ := mem_searchAllFrom (fun _ _ h => reaches_routine? h) hr
  exact kind_routine? hp

theorem kind_instanceAfter? {moduleType : List Char} {parameters : OrderedMap String String}
    {i : InstanceMark} {d : Cursor} (h : instanceAfter? moduleType parameters c = some (i, m, d)) :
    m.kind = .instantiation := by
  unfold instanceAfter? at h
  simp only at h
  repeat' split at h
  all_goals cases h
  rfl

theorem kind_bodyPortsFrom : ∀ {ss : List Segment} {direction : Direction} {type : List Char}
    {p : Port × Mark}, p ∈ bodyPortsFrom direction type ss →
      p.2.kind = .port ∧ p.1.name = String.ofList p.2.name
  | [], _, _, _, h => by cases h
  | s :: ss, direction, type, p, h => by
    unfold bodyPortsFrom at h
    split at h
    · exact kind_bodyPortsFrom h
    · rcases List.mem_cons.1 h with rfl | h
      · exact ⟨rfl, rfl⟩
      · exact kind_bodyPortsFrom h

/-- A port that the body declares is marked as one, with its name. -/
theorem kind_declaredPorts {body : Cursor} {p : Port × Mark} (h : p ∈ body.declaredPorts) :
    p.2.kind = .port ∧ p.1.name = String.ofList p.2.name := by
  obtain ⟨s, -, hs⟩ := List.mem_flatMap.1 h
  unfold bodyPorts at hs
  split at hs
  · cases hs
  · exact kind_bodyPortsFrom hs

theorem kind_modulePorts {header : List HeaderPort} {body : Cursor}
    (h : m ∈ (modulePorts header body.declaredPorts).2) : m.kind = .port := by
  unfold modulePorts at h
  split at h
  · obtain ⟨p, -, rfl⟩ := List.mem_map.1 h
    rfl
  · obtain ⟨p, hp, rfl⟩ := List.mem_map.1 h
    exact (kind_declaredPorts hp).1

theorem kind_declaredInstances {body : Cursor} {r : InstanceMark × Mark} (h : r ∈ body.declaredInstances) :
    r.2.kind = .instantiation := by
  obtain ⟨lead, -, next, hfound⟩ := mem_declaredInstances.1 h
  obtain ⟨_, _, hplace, -⟩ := InstanceLead.instance?_eq_some (InstanceLead.instance?_of_found? hfound)
  exact kind_instanceAfter? hplace

theorem name_scanModule (head : ModuleHead) (stop : Nat) : (scanModule head stop).name = head.name := by
  rw [scanModule_eq]

theorem ports_scanModule (head : ModuleHead) (stop : Nat) : (scanModule head stop).ports =
    (modulePorts (head.portList stop).1 (head.body stop).declaredPorts).1 := by
  rw [scanModule_eq]

/-- The marks of the ports of a module are those that its ports are declared with. -/
theorem portMarks_scanModule (head : ModuleHead) (stop : Nat) :
    (scanModule head stop).marks.filter (·.kind == .port) =
      (modulePorts (head.portList stop).1 (head.body stop).declaredPorts).2 := by
  have hnone : ∀ {ms : List Mark}, (∀ m ∈ ms, m.kind ≠ .port) → ms.filter (·.kind == .port) = [] := by
    intro ms h
    rw [List.filter_eq_nil_iff]
    intro m hm
    simpa using h m hm
  have hports : (modulePorts (head.portList stop).1 (head.body stop).declaredPorts).2.filter
      (·.kind == .port) = (modulePorts (head.portList stop).1 (head.body stop).declaredPorts).2 := by
    rw [List.filter_eq_self]
    intro m hm
    simp [kind_modulePorts hm]
  have hparameters := hnone fun m (hm : m ∈ (head.parameters stop).1) => by
    simp [kind_headerParameters hm]
  have hroutines := hnone fun m (hm : m ∈ (head.body stop).routines.filterMap Routine.mark?) =>
    kind_routines hm
  have hsignals := hnone fun m (hm : m ∈ (head.body stop).declaredSignals) => by
    obtain ⟨s, -, hs⟩ := List.mem_flatMap.1 hm
    simp [kind_signalMarks hs]
  have hconstants := hnone fun m (hm : m ∈ (head.body stop).declaredParameters) => by
    obtain ⟨s, -, hs⟩ := List.mem_flatMap.1 hm
    simp [kind_parameterMarks hs]
  have hinstances := hnone fun m (hm : m ∈ (head.body stop).declaredInstances.map (·.2)) => by
    obtain ⟨r, hr, rfl⟩ := List.mem_map.1 hm
    simp [kind_declaredInstances hr]
  rw [scanModule_eq]
  simp only [List.filter_append, hparameters, hroutines, hports, hsignals, hconstants, hinstances]
  simp

end RtlAtlas.Source
