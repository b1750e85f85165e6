/-
The circles that are found. Every module is gone into once, so every edge is looked at once and closes
at most one circle; and modules stand on a circle in the order in which the search came to them, so no
two circles that were found differ only in where they begin. A search that is not stopped by its limit
leaves no circle without an edge that closes one it has found.
-/
import Mathlib.Data.List.Rotate
import RtlAtlas.Proofs.Graph.Chain
import RtlAtlas.Proofs.Graph.Cycle

namespace RtlAtlas.Graph

open OrderedMap

variable {g : Graph} {limit : Int}

/-- Some modules in turn, and the first one again. -/
def round (ms : List String) : List String := ms ++ ms.take 1

/-- Each module of a circle instantiates the next one, and the last one the first. -/
structure Circle (g : Graph) (ms : List String) : Prop where
  nonempty : ms ≠ []
  linked : (round ms).IsChain g.Edge

/-- A graph without circles. -/
def Acyclic (g : Graph) : Prop := ∀ ms, ¬g.Circle ms

/-- An edge back to the first module makes a circle. -/
theorem circle_of_edge {p c : String} {ms : List String} (hlinked : ms.IsChain g.Edge)
    (hlast : ms.getLast? = some p) (hhead : ms.head? = some c) (hc : g.Edge p c) : g.Circle ms := by
  obtain ⟨rest, rfl⟩ := List.head?_eq_some_iff.1 hhead
  exact ⟨List.cons_ne_nil _ _, isChain_concat hlinked hlast hc⟩

theorem Circle.subset_names (hg : g.WF) {ms : List String} (h : g.Circle ms) : ms ⊆ g.names := by
  intro m hm
  obtain ⟨front, back, hsplit⟩ := List.append_of_mem hm
  have hnext : back ++ ms.take 1 ≠ [] := by simp [h.nonempty]
  obtain ⟨c, rest, hc⟩ := List.exists_cons_of_ne_nil hnext
  have hround : round ms = front ++ m :: c :: rest := by
    rw [← hc, round, ← List.cons_append, ← List.append_assoc, ← hsplit]
  exact hg.known_parent (List.isChain_iff_forall_rel_of_append_cons_cons.1 h.linked hround)

/-! ## Every circle has a closing edge -/

/-- A circle cannot lead further down the order of the settled modules all the way round. -/
theorem Settled.closes_of_circle (hg : g.WF) {circles : List (List String)} {done ms : List String}
    (hs : g.Settled circles done) (hall : g.names ⊆ done) (hms : g.Circle ms) :
    ∃ p c, Closes circles p c ∧ [p, c] <:+: round ms := by
  by_contra hnone
  push Not at hnone
  have hdown : (round ms).IsChain fun p c => done.idxOf p < done.idxOf c := by
    refine List.isChain_iff_forall_rel_of_append_cons_cons.2 ?_
    intro p c front back hround
    have hedge := List.isChain_iff_forall_rel_of_append_cons_cons.1 hms.linked hround
    rcases hs.closes_or_later (hall (hg.known_parent hedge)) hedge with hcloses | ⟨-, hlt⟩
    · exact absurd ⟨front, back, by simp [hround]⟩ (hnone p c hcloses)
    · exact hlt
  obtain ⟨m, rest, rfl⟩ := List.exists_cons_of_ne_nil hms.nonempty
  exact (measure done.idxOf).wf.asymmetricₙ (List.cons_ne_nil m rest) hdown.left_of_append
    (hdown.rel_getLast_head_of_append (List.cons_ne_nil m rest) (List.cons_ne_nil m []))

/-- Where fewer circles are found than may be, every circle has an edge that closes one of them. -/
theorem closes_of_circle (hg : g.WF) (h : ((g.cycles limit).length : Int) < limit) {ms : List String}
    (hms : g.Circle ms) : ∃ p c, Closes (g.cycles limit) p c ∧ [p, c] <:+: round ms := by
  obtain ⟨done, hsettled, hall⟩ := exists_settled hg h
  exact hsettled.closes_of_circle hg hall hms

/-- Where no circle is found, there is none. -/
theorem acyclic_of_cycles_eq_nil (hg : g.WF) (hlimit : 1 ≤ limit) (h : g.cycles limit = []) :
    g.Acyclic := by
  intro ms hms
  have hfew : ((g.cycles limit).length : Int) < limit := by rw [h]; exact hlimit
  obtain ⟨p, c, ⟨circle, hcircle, -⟩, -⟩ := closes_of_circle hg hfew hms
  rw [h] at hcircle
  cases hcircle

/-! ## What a search holds -/

/-- The state of a search at any time. Modules are visited once, the latest one first, and stand on each
circle in the order in which they were visited; no circle is held twice, and never more than the limit. -/
structure Traced (g : Graph) (limit : Int) (s : CycleSearch) : Prop where
  visited : s.visited.Nodup
  circle : ∀ circle ∈ s.cycles, g.Circle circle
  ordered : ∀ circle ∈ s.cycles, circle.reverse.Sublist s.visited
  distinct : s.cycles.Nodup
  within : (s.cycles.length : Int) ≤ limit

/-- A search goes on from one state to another: more modules are visited, and new circles are of a
kind. -/
structure Onward (kind : List String → Prop) (s t : CycleSearch) : Prop where
  visited : s.visited <:+ t.visited
  cycles : ∀ circle ∈ t.cycles, circle ∈ s.cycles ∨ kind circle

theorem Onward.refl (kind : List String → Prop) (s : CycleSearch) : Onward kind s s :=
  ⟨List.suffix_rfl, fun _ h => Or.inl h⟩

theorem Onward.trans {kind kind' kind'' : List String → Prop} {s t u : CycleSearch}
    (h : Onward kind s t) (h' : Onward kind' t u) (hkind : ∀ circle, kind circle → kind'' circle)
    (hkind' : ∀ circle, kind' circle → kind'' circle) : Onward kind'' s u := by
  refine ⟨h.visited.trans h'.visited, fun circle hcircle => ?_⟩
  rcases h'.cycles circle hcircle with hold | hnew
  · exact (h.cycles circle hold).imp_right (hkind circle)
  · exact Or.inr (hkind' circle hnew)

/-- The circle ends at a module that is not visited yet. -/
def EndsAhead (s : CycleSearch) (circle : List String) : Prop :=
  ∃ m, circle.getLast? = some m ∧ m ∉ s.visited

theorem EndsAhead.mono {s t : CycleSearch} (h : s.visited <:+ t.visited) {circle : List String}
    (hc : EndsAhead t circle) : EndsAhead s circle := by
  obtain ⟨m, hlast, hnew⟩ := hc
  exact ⟨m, hlast, fun hm => hnew (h.subset hm)⟩

section Traced

variable {s : CycleSearch} {chain : List String} {name : String}
  {search : CycleSearch → String → CycleSearch}

/-- A module that ends a circle was visited. -/
theorem Traced.mem_visited (h : g.Traced limit s) {circle : List String} {m : String}
    (hcircle : circle ∈ s.cycles) (hlast : circle.getLast? = some m) : m ∈ s.visited :=
  (h.ordered circle hcircle).subset (List.mem_reverse.2 (List.mem_of_getLast? hlast))

/-- Going into a new module. -/
theorem Traced.enter (h : g.Traced limit s) (hnew : name ∉ s.visited) :
    g.Traced limit { s with visited := name :: s.visited } :=
  ⟨List.nodup_cons.2 ⟨hnew, h.visited⟩, h.circle,
    fun circle hcircle => (h.ordered circle hcircle).cons name, h.distinct, h.within⟩

/-- Closing a circle with an edge that has closed none. -/
theorem Traced.close (h : g.Traced limit s) {circle : List String} (hcircle : g.Circle circle)
    (hordered : circle.reverse.Sublist s.visited) (hnew : circle ∉ s.cycles)
    (hroom : (s.cycles.length : Int) < limit) :
    g.Traced limit { s with cycles := s.cycles ++ [circle] } := by
  refine ⟨h.visited, ?_, ?_, ?_, ?_⟩
  · exact List.forall_mem_append.2 ⟨h.circle, List.forall_mem_singleton.2 hcircle⟩
  · exact List.forall_mem_append.2 ⟨h.ordered, List.forall_mem_singleton.2 hordered⟩
  · exact (List.perm_append_singleton circle s.cycles).nodup_iff.2 (List.nodup_cons.2 ⟨hnew, h.distinct⟩)
  · simp only [List.length_append, List.length_singleton]
    omega

/-- Going on to a child: a new circle ends at a module that was not visited, or is closed by the edge to
the child, which must not have closed one before. -/
theorem traced_visitChild
    (hsearch : ∀ state child, g.Traced limit state → (chain ++ [name]).reverse.Sublist state.visited →
      g.Edge name child → child ∉ state.visited →
      g.Traced limit (search state child) ∧ Onward (EndsAhead state) state (search state child))
    (h : g.Traced limit s) (hchain : (chain ++ [name]).reverse.Sublist s.visited)
    (hlinked : (chain ++ [name]).IsChain g.Edge) {c : String} (hc : g.Edge name c)
    (hfresh : ∀ circle ∈ s.cycles, circle.getLast? = some name → circle.head? ≠ some c) :
    g.Traced limit (visitChild search limit (chain ++ [name]) s c) ∧
      Onward (fun circle => EndsAhead s circle ∨ circle.getLast? = some name ∧ circle.head? = some c) s
        (visitChild search limit (chain ++ [name]) s c) := by
  unfold visitChild
  split
  · rename_i hnew
    obtain ⟨htraced, honward⟩ := hsearch s c h hchain hc hnew
    exact ⟨htraced, honward.visited, fun circle hcircle => (honward.cycles circle hcircle).imp_right Or.inl⟩
  · split
    · -- The child is on the chain: what of the chain starts at it is a new circle.
      rename_i hclose
      obtain ⟨hon, hroom⟩ := hclose
      have hends := ends_dropWhile hon
      have hpart := List.dropWhile_suffix (l := chain ++ [name]) (· != c)
      refine ⟨h.close (circle_of_edge (hlinked.suffix hpart) hends.1 hends.2 hc) ?_ ?_ hroom,
        List.suffix_rfl, ?_⟩
      · exact (List.reverse_sublist.2 hpart.sublist).trans hchain
      · exact fun hold => hfresh _ hold hends.1 hends.2
      · intro circle hcircle
        rcases List.mem_append.1 hcircle with hcircle | hcircle
        · exact Or.inl hcircle
        · exact Or.inr (Or.inr (List.mem_singleton.1 hcircle ▸ hends))
    · exact ⟨h, Onward.refl _ s⟩

/-- Going on to the children in turn: each edge closes at most one circle. -/
theorem traced_foldl_visitChild
    (hsearch : ∀ state child, g.Traced limit state → (chain ++ [name]).reverse.Sublist state.visited →
      g.Edge name child → child ∉ state.visited →
      g.Traced limit (search state child) ∧ Onward (EndsAhead state) state (search state child))
    (hlinked : (chain ++ [name]).IsChain g.Edge) :
    ∀ {cs : List String} {s : CycleSearch}, g.Traced limit s →
      (chain ++ [name]).reverse.Sublist s.visited → (∀ c ∈ cs, g.Edge name c) → cs.Nodup →
      (∀ circle ∈ s.cycles, circle.getLast? = some name → ∀ c ∈ cs, circle.head? ≠ some c) →
      g.Traced limit (cs.foldl (visitChild search limit (chain ++ [name])) s) ∧
        Onward (fun circle => EndsAhead s circle ∨ circle.getLast? = some name) s
          (cs.foldl (visitChild search limit (chain ++ [name])) s)
  | [], s, h, _, _, _, _ => ⟨h, Onward.refl _ s⟩
  | c :: cs, s, h, hchain, hcs, hnodup, hfresh => by
    obtain ⟨hoff, hnodup⟩ := List.nodup_cons.1 hnodup
    obtain ⟨hfirst, hstep⟩ := traced_visitChild hsearch h hchain hlinked (hcs c List.mem_cons_self)
      fun circle hcircle hlast => hfresh circle hcircle hlast c List.mem_cons_self
    have hname : name ∈ s.visited := hchain.subset (by simp)
    have hlater : ∀ circle ∈ (visitChild search limit (chain ++ [name]) s c).cycles,
        circle.getLast? = some name → ∀ d ∈ cs, circle.head? ≠ some d := by
      intro circle hcircle hends d hd
      -- what ends at the name is old, or lies off what was visited, or starts at this child
      rcases hstep.cycles circle hcircle with hold | ⟨m, hm, hnew⟩ | ⟨-, hhead⟩
      · exact hfresh circle hold hends d (List.mem_cons_of_mem _ hd)
      · obtain rfl : m = name := Option.some.inj (hm.symm.trans hends)
        exact absurd hname hnew
      · intro hd'
        exact hoff (Option.some.inj (hhead.symm.trans hd') ▸ hd)
    obtain ⟨hlast, hrest⟩ := traced_foldl_visitChild hsearch hlinked hfirst
      (hchain.trans hstep.visited.sublist) (fun d hd => hcs d (List.mem_cons_of_mem _ hd)) hnodup hlater
    rw [List.foldl_cons]
    refine ⟨hlast, hstep.trans hrest ?_ ?_⟩
    · exact fun circle => Or.imp_right And.left
    · exact fun circle => Or.imp_left (EndsAhead.mono hstep.visited)

end Traced

/-- A search from a new module below a chain: a new circle ends at a module that was not visited. -/
theorem traced_cyclesFrom (hg : g.WF) : ∀ {fuel : Nat} {chain : List String} {s : CycleSearch}
    {name : String}, g.Traced limit s → chain.reverse.Sublist s.visited →
    (chain ++ [name]).IsChain g.Edge → name ∉ s.visited →
    g.Traced limit (g.cyclesFrom limit fuel chain s name) ∧
      Onward (EndsAhead s) s (g.cyclesFrom limit fuel chain s name)
  | 0, _, s, _, h, _, _, _ => ⟨h, Onward.refl _ s⟩
  | fuel + 1, chain, s, name, h, hchain, hlinked, hnew => by
    rw [cyclesFrom_succ]
    split
    · exact ⟨h, Onward.refl _ s⟩
    · have hentered : (chain ++ [name]).reverse.Sublist (name :: s.visited) := by
        rw [List.reverse_append]
        exact hchain.cons_cons name
      obtain ⟨htraced, honward⟩ := traced_foldl_visitChild
        (fun state child hstate hsub hc hchild => traced_cyclesFrom hg hstate hsub
          (isChain_concat hlinked List.getLast?_concat hc) hchild)
        hlinked (h.enter hnew) hentered (fun c hc => hc) (hg.nodup name)
        fun circle hcircle hends => absurd (h.mem_visited hcircle hends) hnew
      have henter : Onward (EndsAhead s) s { s with visited := name :: s.visited } :=
        ⟨List.suffix_cons _ _, fun _ hold => Or.inl hold⟩
      refine ⟨htraced, henter.trans honward (fun _ hahead => hahead) ?_⟩
      rintro circle (hahead | hends)
      · exact hahead.mono henter.visited
      · exact ⟨name, hends, hnew⟩

theorem traced_foldl_startFrom (hg : g.WF) : ∀ (names : List String) {s : CycleSearch},
    g.Traced limit s → g.Traced limit (names.foldl (g.startFrom limit) s)
  | [], _, h => h
  | name :: names, s, h => by
    refine traced_foldl_startFrom hg names ?_
    unfold startFrom
    split
    · exact h
    · rename_i hnew
      have hfresh : name ∉ s.visited := fun hm => hnew (List.contains_iff_mem.2 hm)
      exact (traced_cyclesFrom hg h (show [].reverse.Sublist _ from List.nil_sublist _) (.singleton name)
        hfresh).1

/-! ## The circles that are found -/

/-- Sublists of a list without repetition are equal when they have the same members. -/
theorem eq_of_perm_of_sublist {l a b : List String} (hl : l.Nodup) (ha : a.Sublist l) (hb : b.Sublist l)
    (h : a.Perm b) : a = b :=
  h.eq_of_pairwise (fun _ _ _ _ h₁ h₂ => absurd h₁ (Nat.lt_asymm h₂))
    ((pairwise_idxOf hl).sublist ha) ((pairwise_idxOf hl).sublist hb)

/-- Circles that differ only in where they begin are one circle. -/
theorem Traced.pairwise {s : CycleSearch} (h : g.Traced limit s) :
    s.cycles.Pairwise fun a b => ¬a.IsRotated b := by
  refine h.distinct.imp_of_mem ?_
  intro a b ha hb hne hrotated
  refine hne (List.reverse_injective ?_)
  refine eq_of_perm_of_sublist h.visited (h.ordered a ha) (h.ordered b hb) ?_
  exact (List.reverse_perm a).trans (hrotated.perm.trans (List.reverse_perm b).symm)

/-- No more circles are found than may be, each of them a circle of modules of which none stands on it
twice, and no two of them the same up to where they begin. If fewer are found than may be, every circle
there is, visiting modules as often as it likes, has an edge that leads from the last module of one that
was found to its first. So none is found just where there is none. -/
theorem cycles_close (hg : g.WF) (hlimit : 1 ≤ limit) :
    ((g.cycles limit).length : Int) ≤ limit ∧
    (∀ circle ∈ g.cycles limit, g.Circle circle ∧ circle.Nodup ∧ circle ⊆ g.names) ∧
    ((g.cycles limit).Pairwise fun a b => ¬a.IsRotated b) ∧
    (((g.cycles limit).length : Int) < limit → ∀ ms, g.Circle ms → ∃ circle ∈ g.cycles limit,
      ∃ p c, circle.getLast? = some p ∧ circle.head? = some c ∧ [p, c] <:+: round ms) ∧
    (g.cycles limit = [] ↔ g.Acyclic) := by
  have hstart : g.Traced limit ⟨[], []⟩ :=
    ⟨List.nodup_nil, by simp, by simp, List.nodup_nil, by simp; omega⟩
  have htraced : g.Traced limit _ := traced_foldl_startFrom hg g.names hstart
  refine ⟨htraced.within, fun circle hcircle => ?_, htraced.pairwise, fun hfew ms hms => ?_, ?_⟩
  · have hnodup := (htraced.ordered circle hcircle).nodup htraced.visited
    exact ⟨htraced.circle circle hcircle, List.nodup_reverse.1 hnodup,
      (htraced.circle circle hcircle).subset_names hg⟩
  · obtain ⟨p, c, ⟨circle, hcircle, hlast, hhead⟩, hround⟩ := closes_of_circle hg hfew hms
    exact ⟨circle, hcircle, p, c, hlast, hhead, hround⟩
  · constructor
    · exact acyclic_of_cycles_eq_nil hg hlimit
    · intro hacyclic
      exact List.eq_nil_iff_forall_not_mem.2 fun circle hcircle =>
        hacyclic circle (htraced.circle circle hcircle)

/-- Two circles with an edge in common, and a module that instantiates itself. -/
def overlapping : Graph :=
  design [("s", ["a"]), ("a", ["b", "c"]), ("b", ["a", "b"]), ("c", ["b"])]

/-- The circle through `c` is not found itself, but the edge from `b` to `a` lies on it, which closes a
circle that is found. With room for one circle the search stops at that one. -/
theorem cycles_close_overlapping :
    overlapping.cycles 3 = [["a", "b"], ["b"]] ∧
    (∃ circle ∈ overlapping.cycles 3, ∃ p c, circle.getLast? = some p ∧ circle.head? = some c ∧
      [p, c] <:+: ["c", "b", "a", "c"]) ∧
    overlapping.Circle ["a", "b"] ∧ overlapping.cycles 1 = [["a", "b"]] ∧
    (design [("a", ["b", "c"]), ("b", ["c"]), ("c", [])]).Acyclic := by
  have hfound : overlapping.cycles 3 = [["a", "b"], ["b"]] := by decide +kernel
  have hcircle : overlapping.Circle ["c", "b", "a"] := ⟨List.cons_ne_nil _ _, by decide +kernel⟩
  have hone : overlapping.cycles 1 = [["a", "b"]] := by decide +kernel
  have hnone : (design [("a", ["b", "c"]), ("b", ["c"]), ("c", [])]).cycles 1 = [] := by decide +kernel
  obtain ⟨-, -, -, hclosed, -⟩ := @cycles_close overlapping 3 (wf_design _) (by decide)
  obtain ⟨-, hcircles, -⟩ := @cycles_close overlapping 1 (wf_design _) (by decide)
  refine ⟨hfound, hclosed ?_ _ hcircle, (hcircles _ ?_).1, hone, ?_⟩
  · rw [hfound]; decide
  · rw [hone]; exact List.mem_cons_self
  · exact (cycles_close (wf_design _) (by decide)).2.2.2.2.1 hnone

end RtlAtlas.Graph
