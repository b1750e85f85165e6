/-
Chains of instantiations, and the order in which a depth-first search comes to them. A chain follows
edges and visits no module twice; `Trail` grows one from its first module and says where it may end, so
that it takes the cases of the searches. A chain is placed by the choices made along it, and a search
finds the best chain of a kind when no other is found before it or preferred to it.
-/
import Mathlib.Data.List.Chain
import RtlAtlas.Proofs.Graph.Shape

namespace RtlAtlas.Graph

open OrderedMap

variable {g : Graph}

/-- An edge leads from a module to each of its children. -/
def Edge (g : Graph) (p c : String) : Prop := c ∈ g.childrenOf p

instance : DecidableRel g.Edge := fun p c => inferInstanceAs (Decidable (c ∈ g.childrenOf p))

/-- Each module of a chain instantiates the next one, and none stands on it twice. -/
structure Chain (g : Graph) (ms : List String) : Prop where
  linked : ms.IsChain g.Edge
  nodup : ms.Nodup

instance (ms : List String) : Decidable (g.Chain ms) :=
  decidable_of_iff (ms.IsChain g.Edge ∧ ms.Nodup) ⟨fun h => ⟨h.1, h.2⟩, fun h => ⟨h.1, h.2⟩⟩

/-- Modules each of which instantiates the next go on to a child of the last one. -/
theorem isChain_concat {ms : List String} {p c : String} (h : ms.IsChain g.Edge)
    (hlast : ms.getLast? = some p) (hc : g.Edge p c) : (ms ++ [c]).IsChain g.Edge := by
  refine h.append (.singleton c) ?_
  rintro x hx y hy
  obtain rfl : p = x := Option.some.inj (hlast.symm.trans hx)
  obtain rfl : c = y := Option.some.inj hy
  exact hc

/-- A chain from a module that avoids those in `passed` and ends at a module where it may. -/
inductive Trail (g : Graph) (ends : String → Prop) : List String → String → List String → Prop
  | stop {passed : List String} {m : String} : m ∉ passed → ends m → Trail g ends passed m [m]
  | go {passed : List String} {m c : String} {ms : List String} : m ∉ passed → g.Edge m c →
    Trail g ends (m :: passed) c ms → Trail g ends passed m (m :: ms)

namespace Trail

variable {ends : String → Prop} {passed : List String} {m : String} {ms : List String}

theorem exists_cons (h : g.Trail ends passed m ms) : ∃ rest, ms = m :: rest := by
  cases h with
  | stop _ _ => exact ⟨[], rfl⟩
  | go _ _ _ => exact ⟨_, rfl⟩

theorem notMem (h : g.Trail ends passed m ms) : m ∉ passed := by
  cases h with
  | stop h _ => exact h
  | go h _ _ => exact h

/-- From a module where it may not end, a trail goes on through a child. -/
theorem iff_go (ends : String → Prop) (hends : ¬ends m) : g.Trail ends passed m ms ↔
    m ∉ passed ∧ ∃ rest, (∃ c ∈ g.childrenOf m, g.Trail ends (m :: passed) c rest) ∧ m :: rest = ms := by
  constructor
  · intro h
    cases h with
    | stop _ he => exact absurd he hends
    | go hm hc hrest => exact ⟨hm, _, ⟨_, hc, hrest⟩, rfl⟩
  · rintro ⟨hm, rest, ⟨c, hc, hrest⟩, rfl⟩
    exact .go hm hc hrest

end Trail

/-- A trail is a chain that begins at its first module, ends where it may and avoids what was passed. -/
theorem trail_iff {ends : String → Prop} {passed : List String} {m : String} {ms : List String} :
    g.Trail ends passed m ms ↔
      g.Chain ms ∧ ms.head? = some m ∧ (∃ e, ms.getLast? = some e ∧ ends e) ∧ ∀ x ∈ ms, x ∉ passed := by
  constructor
  · -- by induction on the trail: what is ahead avoids what was passed, and so this module
    intro h
    induction h with
    | stop hm he => exact ⟨⟨.singleton _, List.nodup_singleton _⟩, rfl, ⟨_, rfl, he⟩, by simpa using hm⟩
    | @go passed m c ms hm hc hrest ih =>
      obtain ⟨rest, rfl⟩ := hrest.exists_cons
      obtain ⟨⟨hlinked, hnodup⟩, -, hend, havoid⟩ := ih
      have hoff : m ∉ c :: rest := fun hx => havoid m hx List.mem_cons_self
      refine ⟨⟨List.isChain_cons_cons.2 ⟨hc, hlinked⟩, List.nodup_cons.2 ⟨hoff, hnodup⟩⟩, rfl, ?_, ?_⟩
      · simpa using hend
      · rintro x hx
        rcases List.mem_cons.1 hx with rfl | hx
        · exact hm
        · exact fun hp => havoid x hx (List.mem_cons_of_mem _ hp)
  · -- by induction on the chain, whose first module joins those that were passed
    induction ms generalizing passed m with
    | nil => rintro ⟨-, h, -⟩; cases h
    | cons n rest ih =>
      rintro ⟨⟨hlinked, hnodup⟩, hhead, ⟨e, hlast, he⟩, havoid⟩
      obtain rfl : n = m := by simpa using hhead
      have hn : n ∉ passed := havoid n List.mem_cons_self
      obtain ⟨hoff, hnodup⟩ := List.nodup_cons.1 hnodup
      cases rest with
      | nil =>
        obtain rfl : n = e := by simpa using hlast
        exact .stop hn he
      | cons c rest =>
        obtain ⟨hc, hlinked⟩ := List.isChain_cons_cons.1 hlinked
        refine .go hn hc (ih ⟨⟨hlinked, hnodup⟩, rfl, ⟨e, by simpa using hlast, he⟩, ?_⟩)
        intro x hx hp
        rcases List.mem_cons.1 hp with rfl | hp
        · exact hoff hx
        · exact havoid x (List.mem_cons_of_mem _ hx) hp

theorem Chain.trail {ends : String → Prop} {m e : String} {ms : List String} (h : g.Chain ms)
    (hhead : ms.head? = some m) (hlast : ms.getLast? = some e) (he : ends e) : g.Trail ends [] m ms :=
  trail_iff.2 ⟨h, hhead, ⟨e, hlast, he⟩, fun _ _ => List.not_mem_nil⟩

/-- A chain from a known module stays among the known ones. -/
theorem WF.known_of_trail (hg : g.WF) {ends : String → Prop} {passed : List String} {m : String}
    {ms : List String} (h : g.Trail ends passed m ms) (hm : m ∈ g.names) : ms ⊆ g.names := by
  induction h with
  | stop _ _ => simpa using hm
  | go _ hc _ ih => exact List.cons_subset.2 ⟨hm, ih (hg.known _ _ hc)⟩

/-! ## The modules above -/

/-- The modules above the one at hand, each once, and fuel for all that are left. -/
structure Above (g : Graph) (fuel : Nat) (passed : List String) : Prop where
  nodup : passed.Nodup
  known : passed ⊆ g.names
  fuel : fuel + passed.length = g.nodes.size + 1

theorem above_nil (g : Graph) : g.Above (g.nodes.size + 1) [] :=
  ⟨List.nodup_nil, List.nil_subset _, rfl⟩

theorem Above.cons {fuel : Nat} {passed : List String} {name : String} (h : g.Above (fuel + 1) passed)
    (hname : name ∈ g.names) (hoff : name ∉ passed) : g.Above fuel (name :: passed) := by
  refine ⟨List.nodup_cons.2 ⟨hoff, h.nodup⟩, List.cons_subset.2 ⟨hname, h.known⟩, ?_⟩
  have := h.fuel
  rw [List.length_cons]
  omega

/-- The same where the modules above are kept outermost first. -/
theorem Above.concat {fuel : Nat} {passed : List String} {name : String} (h : g.Above (fuel + 1) passed)
    (hname : name ∈ g.names) (hoff : name ∉ passed) : g.Above fuel (passed ++ [name]) := by
  have hperm := List.perm_append_singleton name passed
  obtain ⟨hnodup, hknown, hfuel⟩ := h.cons hname hoff
  exact ⟨hperm.nodup_iff.2 hnodup, fun m hm => hknown (hperm.subset hm), hperm.length_eq ▸ hfuel⟩

/-- Where fuel has run out, all modules are above. -/
theorem Above.mem_of_zero {passed : List String} {name : String} (h : g.Above 0 passed)
    (hname : name ∈ g.names) : name ∈ passed := by
  by_contra hoff
  have hle := length_le_size (List.nodup_cons.2 ⟨hoff, h.nodup⟩) (List.cons_subset.2 ⟨hname, h.known⟩)
  have := h.fuel
  rw [List.length_cons] at hle
  omega

/-! ## The order of a depth-first search -/

/-- Which of the options a chain takes: first of `options`, then of the children of where it stands. -/
def choices (g : Graph) : List String → List String → List Nat
  | _, [] => []
  | options, m :: ms => options.idxOf m :: choices g (g.childrenOf m) ms

/-- A depth-first search that tries `options` in turn comes to one chain before another. -/
def Earlier (g : Graph) (options ms ns : List String) : Prop :=
  g.choices options ms < g.choices options ns

theorem Earlier.asymm {options ms ns : List String} (h : g.Earlier options ms ns) :
    ¬g.Earlier options ns ms :=
  List.lt_asymm h

theorem Earlier.cons {m : String} {ms ns : List String} (options : List String)
    (h : g.Earlier (g.childrenOf m) ms ns) : g.Earlier options (m :: ms) (m :: ns) :=
  List.cons_lt_cons_self.2 h

theorem pairwise_idxOf {l : List String} (hl : l.Nodup) :
    l.Pairwise fun a b => l.idxOf a < l.idxOf b := by
  rw [List.pairwise_iff_getElem]
  intro i j hi hj hij
  rwa [hl.idxOf_getElem i hi, hl.idxOf_getElem j hj]

/-- What comes under an option stands before what comes under a later one. -/
theorem pairwise_earlier {options : List String} (hnodup : options.Nodup)
    {P : String → List String → Prop} (hP : ∀ o ms, P o ms → ∃ rest, ms = o :: rest) :
    options.Pairwise fun o o' => ∀ ms ns, P o ms → P o' ns → g.Earlier options ms ns := by
  refine (pairwise_idxOf hnodup).imp ?_
  intro o o' hlt ms ns hms hns
  obtain ⟨ms, rfl⟩ := hP _ _ hms
  obtain ⟨ns, rfl⟩ := hP _ _ hns
  exact List.cons_lt_cons_iff.2 (Or.inl hlt)

/-! ## The best chain of a kind -/

/-- A chain of a kind that is better than every other one of that kind. -/
structure Best (better : List String → List String → Prop) (P : List String → Prop)
    (best : List String) : Prop where
  holds : P best
  better : ∀ ms, P ms → ms = best ∨ better best ms

/-- A search answers with the best chain of a kind, or with none if there is none of that kind. -/
def Finds (better : List String → List String → Prop) (P : List String → Prop) :
    Option (List String) → Prop
  | none => ∀ ms, ¬P ms
  | some best => Best better P best

section Finds

variable {better better' : List String → List String → Prop} {P Q : List String → Prop}
  {found : Option (List String)}

theorem Best.unique (hbetter : ∀ ms ns, better ms ns → ¬better ns ms) {ms ns : List String}
    (h : Best better P ms) (h' : Best better P ns) : ms = ns := by
  rcases h.better ns h'.holds with e | hns
  · exact e.symm
  · rcases h'.better ms h.holds with e | hms
    · exact e
    · exact absurd hms (hbetter _ _ hns)

/-- Without any options there is nothing to find. -/
theorem finds_none : Finds better (fun _ => False) none := fun _ h => h

theorem Finds.congr (h : Finds better P found) (hPQ : ∀ ms, P ms ↔ Q ms) : Finds better Q found := by
  rwa [← show P = Q from funext fun ms => propext (hPQ ms)]

/-- What is found below a module is found for it with the module in front. -/
theorem Finds.cons {m : String} (h : Finds better P found)
    (hbetter : ∀ ms ns, better ms ns → better' (m :: ms) (m :: ns)) :
    Finds better' (fun ms => ∃ rest, P rest ∧ m :: rest = ms) (found.map (m :: ·)) := by
  cases found with
  | none =>
    rintro _ ⟨rest, hrest, rfl⟩
    exact h rest hrest
  | some best =>
    refine ⟨⟨best, h.holds, rfl⟩, ?_⟩
    rintro _ ⟨rest, hrest, rfl⟩
    rcases h.better rest hrest with rfl | hlater
    · exact Or.inl rfl
    · exact Or.inr (hbetter _ _ hlater)

end Finds

end RtlAtlas.Graph
