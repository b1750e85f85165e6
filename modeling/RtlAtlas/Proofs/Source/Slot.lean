/-
The slots of a connection list: its segments, counted from zero. A positional entry gets as its position
the number of slots in front of it that connect something, so it keeps its slot exactly when none of
them is vacant, and the graph binds it to the port of that number.
-/
import RtlAtlas.Proofs.Graph.Content
import RtlAtlas.Source.Binding

namespace RtlAtlas.Graph

/-- The graph holds an instance in the module that it belongs to. -/
theorem mem_instances_build {modules : List ModuleDef} {instances : List Instance} {i : Instance}
    {parent : String} (hi : i ∈ instances)
    (hparent : parentOf? modules i = some parent) : ∃ node,
      (build modules instances).node? parent = some node ∧ resolvedIn modules i ∈ node.instances := by
  obtain ⟨m, hm, hname⟩ := exists_of_parentOf? hparent
  obtain ⟨m', hm'⟩ : ∃ m', (modules.find? fun m => m.name == parent) = some m' := by
    rw [← Option.isSome_iff_exists, List.find?_isSome]
    exact ⟨m, hm, by simpa using hname⟩
  have hname' : m'.name = parent := by simpa using List.find?_some hm'
  have hnode : (build modules instances).node? parent = some (fullNode modules instances m') := by
    have h := (taken_foldl modules instances).2.node?_eq parent
    rwa [hm'] at h
  refine ⟨_, hnode, List.mem_map.2 ⟨i, List.mem_filter.2 ⟨hi, ?_⟩, rfl⟩⟩
  rw [hparent, hname', beq_self_eq_true]

end RtlAtlas.Graph

namespace RtlAtlas.Source

open RtlAtlas.Text

namespace Segment

/-- A slot that connects nothing: it is empty, or it holds the entry `.*`. -/
def isVacant (s : Segment) : Bool := collapse s.text == [] || collapse s.text == ['.', '*']

/-- A slot that holds an expression without the name of a port. -/
def isPositional (s : Segment) : Bool := !s.isVacant && (namedEntryOf? (collapse s.text)).isNone

/-- The connection that a slot makes, if it is positional with the given position. -/
def connection (s : Segment) (position : Nat) : Connection :=
  match namedEntryOf? (collapse s.text) with
  | some e =>
    { port := String.ofList e.name, signal := String.ofList ((e.value.map trim).getD e.name) }
  | none => { port := "", signal := String.ofList (collapse s.text), position := some position }

/-- The number of slots among the first ones that connect something. -/
def taken (segments : List Segment) (slot : Nat) : Nat :=
  (segments.take slot).countP fun s => !s.isVacant

end Segment

/-- The slots of a connection list that connect something, with their numbers. -/
def takenSlots (text : List Char) : List (Segment × Nat) :=
  (splitTopLevel text 0).zipIdx.filter fun p => !p.1.isVacant

variable {s : Segment} {segments : List Segment} {m n slot : Nat}

/-! ## Positions -/

theorem Segment.connection_of_isPositional (h : s.isPositional = true) (n : Nat) :
    s.connection n = { port := "", signal := String.ofList (collapse s.text), position := some n } := by
  unfold isPositional at h
  rw [Bool.and_eq_true, Option.isNone_iff_eq_none] at h
  rw [connection, h.2]

/-- The position matters to positional entries, and to no other ones. -/
theorem Segment.connection_eq_iff (hs : s.isVacant = false) :
    s.connection m = s.connection n ↔ (s.isPositional = true → m = n) := by
  unfold isPositional connection
  rw [hs]
  cases namedEntryOf? (collapse s.text) with
  | some e => simp
  | none =>
    simp only [Connection.mk.injEq, Option.some.injEq, Int.natCast_inj, true_and, Bool.not_false,
      Option.isNone_none, Bool.and_self, forall_const]

/-- As many slots are taken as there are if none of them is vacant. -/
theorem Segment.taken_eq_iff (h : slot ≤ segments.length) :
    Segment.taken segments slot = slot ↔ ∀ v ∈ segments.take slot, v.isVacant = false := by
  have hlength : (segments.take slot).length = slot := List.length_take_of_le h
  rw [taken]
  conv_lhs => rhs; rw [← hlength]
  rw [List.countP_eq_length]
  simp

theorem connectionsFrom_of_vacant (h : s.isVacant = true) (position : Nat) (ss : List Segment) :
    connectionsFrom position (s :: ss) = connectionsFrom position ss := by
  rw [connectionsFrom]
  exact if_pos (by simpa [Segment.isVacant] using h)

theorem connectionsFrom_of_taken (h : s.isVacant = false) (position : Nat) (ss : List Segment) :
    connectionsFrom position (s :: ss) = s.connection position :: connectionsFrom (position + 1) ss := by
  have hkept : ¬(collapse s.text = [] ∨ collapse s.text = ['.', '*']) := by
    simpa [Segment.isVacant] using h
  rw [connectionsFrom]
  simp only [if_neg hkept]
  rfl

/-- The remaining entries get as their positions the numbers of slots taken in front of them. -/
theorem connectionsFrom_eq : ∀ before ss : List Segment,
    connectionsFrom (before.countP fun s => !s.isVacant) ss =
      ((ss.zipIdx before.length).filter fun p => !p.1.isVacant).map fun p =>
        p.1.connection (Segment.taken (before ++ ss) p.2)
  | before, [] => rfl
  | before, s :: ss => by
    have hrest := connectionsFrom_eq (before ++ [s]) ss
    have hhere : Segment.taken (before ++ s :: ss) before.length =
        before.countP fun s => !s.isVacant := by
      rw [Segment.taken, List.take_left]
    rw [List.append_assoc, List.singleton_append, List.length_append, List.length_singleton,
      List.countP_append, List.countP_singleton] at hrest
    rw [List.zipIdx_cons]
    cases hs : s.isVacant with
    | true =>
      rw [connectionsFrom_of_vacant hs, List.filter_cons_of_neg (by simp [hs]), ← hrest]
      simp [hs]
    | false =>
      rw [connectionsFrom_of_taken hs, List.filter_cons_of_pos (by simp [hs]), List.map_cons, ← hrest,
        hhere]
      simp [hs]

/-- A positional entry gets as its position the number of slots taken in front of it. -/
theorem parseConnections_eq (text : List Char) : parseConnections text =
    (takenSlots text).map fun p => p.1.connection (Segment.taken (splitTopLevel text 0) p.2) :=
  connectionsFrom_eq [] (splitTopLevel text 0)

theorem mem_takenSlots {text : List Char} {p : Segment × Nat} (h : p ∈ takenSlots text) :
    p.1.isVacant = false ∧ p.2 ≤ (splitTopLevel text 0).length := by
  obtain ⟨hslot, hkept⟩ := List.mem_filter.1 h
  refine ⟨by simpa using hkept, ?_⟩
  have hlt := List.snd_lt_of_mem_zipIdx hslot
  omega

/-- All positional entries keep their slots exactly when no slot in front of one is vacant. -/
theorem parseConnections_eq_iff (text : List Char) :
    parseConnections text = (takenSlots text).map (fun p => p.1.connection p.2) ↔
      ∀ p ∈ takenSlots text, p.1.isPositional = true →
        ∀ v ∈ (splitTopLevel text 0).take p.2, v.isVacant = false := by
  rw [parseConnections_eq, List.map_inj_left]
  refine forall₂_congr fun p hp => ?_
  obtain ⟨hkept, hle⟩ := mem_takenSlots hp
  rw [Segment.connection_eq_iff hkept, Segment.taken_eq_iff hle]

/-! ## Ports -/

section Graph

open RtlAtlas.Graph

/-- A positional entry is bound to the port of its position. -/
theorem resolveConnection_of_isPositional (h : s.isPositional = true) {child : ModuleDef} {q : Port}
    (hq : child.ports[n]? = some q) : resolveConnection (nodeOf child) (s.connection n) =
      ⟨q.name, String.ofList (collapse s.text), some q.direction, some n⟩ := by
  have hport : portOf? (nodeOf child) ⟨"", String.ofList (collapse s.text), none, some n⟩ = some q := by
    simpa [portOf?, nodeOf] using hq
  rw [s.connection_of_isPositional h, resolveConnection, hport]

/-- The positions of a connection list, and what the graph makes of them. Each positional entry is numbered
by the slots taken in front of it, which is its own slot exactly if none of them is vacant; and it is
bound to the port with its number, in the module that the instance belongs to. -/
theorem positional_slots (text : List Char) :
    let segments := splitTopLevel text 0
    parseConnections text =
      (takenSlots text).map (fun p => p.1.connection (Segment.taken segments p.2)) ∧
    (∀ p ∈ takenSlots text, Segment.taken segments p.2 = p.2 ↔
      ∀ v ∈ segments.take p.2, v.isVacant = false) ∧
    (parseConnections text = (takenSlots text).map (fun p => p.1.connection p.2) ↔
      ∀ p ∈ takenSlots text, p.1.isPositional = true →
        ∀ v ∈ segments.take p.2, v.isVacant = false) ∧
    ∀ (modules : List ModuleDef) (instances : List Instance) (i : Instance) (parent : String)
      (child : ModuleDef), i ∈ instances → i.connections = parseConnections text →
      parentOf? modules i = some parent →
      (modules.find? fun m => m.name == i.moduleType) = some child →
      ∃ node, (build modules instances).node? parent = some node ∧
        resolvedIn modules i ∈ node.instances ∧
        ∀ p ∈ takenSlots text, p.1.isPositional = true →
          ∀ q, child.ports[Segment.taken segments p.2]? = some q →
            ⟨q.name, String.ofList (collapse p.1.text), some q.direction,
              some (Segment.taken segments p.2)⟩ ∈ (resolvedIn modules i).connections := by
  intro segments
  refine ⟨parseConnections_eq text, fun p hp => Segment.taken_eq_iff (mem_takenSlots hp).2,
    parseConnections_eq_iff text, ?_⟩
  intro modules instances i parent child hi hconnections hparent hchild
  obtain ⟨node, hnode, hmem⟩ := mem_instances_build hi hparent
  refine ⟨node, hnode, hmem, fun p hp hpositional q hq => ?_⟩
  have hresolved : (resolvedIn modules i).connections =
      i.connections.map (resolveConnection (nodeOf child)) := by
    rw [resolvedIn, hchild]
    rfl
  rw [hresolved, hconnections, parseConnections_eq, List.map_map,
    ← resolveConnection_of_isPositional hpositional hq]
  exact List.mem_map.2 ⟨p, hp, rfl⟩

/-- A module with three inputs. -/
def threeInputs : ModuleDef :=
  ⟨"c", ⟨.root, ["a.v"]⟩, 1, 2, [⟨"x", .input, "wire"⟩, ⟨"y", .input, "wire"⟩, ⟨"z", .input, "wire"⟩]⟩

/-- The same, and a module that an instance can belong to. -/
def inputDesign : List ModuleDef := [threeInputs, ⟨"t", ⟨.root, ["a.v"]⟩, 3, 5, []⟩]

/-- An instance of the first of them with a connection list. -/
def connecting (text : String) : Instance :=
  ⟨"u", "c", ⟨.root, ["a.v"]⟩, 4, parseConnections text.toList, .empty⟩

/-- Behind a named entry and in front of an empty slot a positional entry keeps its slot. -/
theorem positional_slots_kept :
    parseConnections ".x(a), b, ".toList =
      (takenSlots ".x(a), b, ".toList).map (fun p => p.1.connection p.2) ∧
    ∃ node, (build inputDesign [connecting ".x(a), b, "]).node? "t" = some node ∧
      resolvedIn inputDesign (connecting ".x(a), b, ") ∈ node.instances ∧
      ⟨"y", "b", some .input, some 1⟩ ∈
        (resolvedIn inputDesign (connecting ".x(a), b, ")).connections := by
  obtain ⟨-, -, hiff, hgraph⟩ := positional_slots ".x(a), b, ".toList
  refine ⟨hiff.2 (by decide +kernel), ?_⟩
  obtain ⟨node, hnode, hmem, hbound⟩ := hgraph inputDesign [connecting ".x(a), b, "]
    (connecting ".x(a), b, ") "t" threeInputs (List.mem_singleton_self _) rfl (by decide +kernel)
    (by decide +kernel)
  exact ⟨node, hnode, hmem, hbound (⟨" b".toList, 6⟩, 1) (by decide +kernel) (by decide +kernel)
    ⟨"y", .input, "wire"⟩ (by decide +kernel)⟩

/-- Behind an empty slot a positional entry loses its slot, and it is bound to the port in front. -/
theorem positional_slot_lost :
    parseConnections "a, , b".toList ≠
      (takenSlots "a, , b".toList).map (fun p => p.1.connection p.2) ∧
    (parseConnections "a, , b".toList).map (·.position) = [some 0, some 1] ∧
    (takenSlots "a, , b".toList).map (·.2) = [0, 2] ∧
    (parseBindings "a, , b".toList).entries = [("#0", "a"), ("#2", "b")] ∧
    (resolvedIn inputDesign (connecting "a, , b")).connections.map (fun c => (c.port, c.signal)) =
      [("x", "a"), ("y", "b")] := by
  refine ⟨?_, ?_, ?_, ?_, ?_⟩ <;> decide +kernel

end Graph

end RtlAtlas.Source
