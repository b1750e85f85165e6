/-
What the search for circles leaves behind. As long as it is not stopped by its limit, the modules it
has done with are settled: every edge from one of them leads to a module that was done before it, or
closes a circle that was found. So a search that finds no circle has put all modules in an order in
which every edge leads one way.
-/
import Mathlib.Data.List.TakeWhile
import RtlAtlas.Graph.Cycle
import RtlAtlas.Proofs.Graph.Chain

namespace RtlAtlas.Graph

open OrderedMap

/-- An edge closes a circle if it leads from the last module of the circle to its first. -/
def Closes (circles : List (List String)) (p c : String) : Prop :=
  ∃ circle ∈ circles, circle.getLast? = some p ∧ circle.head? = some c

/-- Modules in the order in which the search has done with them, the last one first: an edge leads to
a module that was done before, or closes a circle. -/
inductive Settled (g : Graph) (circles : List (List String)) : List String → Prop
  | nil : Settled g circles []
  | cons {m : String} {done : List String} : m ∉ done →
    (∀ c ∈ g.childrenOf m, c ∈ done ∨ Closes circles m c) → Settled g circles done →
    Settled g circles (m :: done)

/-- The state of a search below a chain of modules: those visited are done with or stand on the
chain. -/
structure Searched (g : Graph) (chain done : List String) (s : CycleSearch) : Prop where
  settled : Settled g s.cycles done
  visited : ∀ m, m ∈ s.visited ↔ m ∈ done ∨ m ∈ chain
  apart : ∀ m ∈ done, m ∉ chain

variable {g : Graph} {limit : Int} {search : CycleSearch → String → CycleSearch}

theorem Closes.mono {circles circles' : List (List String)} (h : circles ⊆ circles') {p c : String}
    (hc : Closes circles p c) : Closes circles' p c := by
  obtain ⟨circle, hcircle, hends⟩ := hc
  exact ⟨circle, h hcircle, hends⟩

theorem Settled.mono {circles circles' : List (List String)} (h : circles ⊆ circles')
    {done : List String} (hs : g.Settled circles done) : g.Settled circles' done := by
  induction hs with
  | nil => exact .nil
  | cons hm hc _ ih => exact .cons hm (fun c hcm => (hc c hcm).imp_right (Closes.mono h)) ih

/-! ## One module after another -/

/-- Goes on to a child: into it if it is new, else looking whether it stands on the chain. -/
def visitChild (search : CycleSearch → String → CycleSearch) (limit : Int) (chain : List String)
    (state : CycleSearch) (child : String) : CycleSearch :=
  if child ∉ state.visited then search state child
  else if child ∈ chain ∧ (state.cycles.length : Int) < limit then
    { state with cycles := state.cycles ++ [chain.dropWhile (· != child)] }
  else state

theorem cyclesFrom_succ (g : Graph) (limit : Int) (fuel : Nat) (chain : List String)
    (state : CycleSearch) (name : String) : g.cyclesFrom limit (fuel + 1) chain state name =
      if limit ≤ state.cycles.length then state
      else (g.childrenOf name).foldl
        (visitChild (g.cyclesFrom limit fuel (chain ++ [name])) limit (chain ++ [name]))
        { state with visited := name :: state.visited } := by
  have hstep : (fun (state : CycleSearch) child =>
      if !state.visited.contains child then g.cyclesFrom limit fuel (chain ++ [name]) state child
      else if (chain ++ [name]).contains child && decide ((state.cycles.length : Int) < limit) then
        { state with cycles := state.cycles ++ [(chain ++ [name]).dropWhile (· != child)] }
      else state) =
      visitChild (g.cyclesFrom limit fuel (chain ++ [name])) limit (chain ++ [name]) := by
    funext state child
    unfold visitChild
    simp
  rw [← hstep]
  rfl

/-- Circles that were found stay. -/
theorem prefix_foldl_visitChild {chain : List String}
    (hsearch : ∀ state child, state.cycles <+: (search state child).cycles) :
    ∀ (cs : List String) (state : CycleSearch),
      state.cycles <+: (cs.foldl (visitChild search limit chain) state).cycles
  | [], state => List.prefix_rfl
  | c :: cs, state => by
    refine List.IsPrefix.trans ?_ (prefix_foldl_visitChild hsearch cs _)
    unfold visitChild
    split
    · exact hsearch state c
    · split
      · exact List.prefix_append _ _
      · exact List.prefix_rfl

theorem prefix_cyclesFrom : ∀ (fuel : Nat) (chain : List String) (state : CycleSearch) (name : String),
    state.cycles <+: (g.cyclesFrom limit fuel chain state name).cycles
  | 0, _, _, _ => List.prefix_rfl
  | fuel + 1, chain, state, name => by
    rw [cyclesFrom_succ]
    split
    · exact List.prefix_rfl
    · exact prefix_foldl_visitChild (prefix_cyclesFrom fuel _) _ { state with visited := name :: state.visited }

/-- The part of a chain from a child on leads from the child to the last module of the chain. -/
theorem ends_dropWhile {chain : List String} {child name : String} (h : child ∈ chain ++ [name]) :
    ((chain ++ [name]).dropWhile (· != child)).getLast? = some name ∧
      ((chain ++ [name]).dropWhile (· != child)).head? = some child := by
  have hne : (chain ++ [name]).dropWhile (· != child) ≠ [] := fun he => by
    have := List.dropWhile_eq_nil_iff.1 he child h
    simp at this
  constructor
  · obtain ⟨front, hfront⟩ := List.dropWhile_suffix (l := chain ++ [name]) (· != child)
    rw [← List.getLast?_append_of_ne_nil front hne, hfront, List.getLast?_concat]
  · have hhead := List.head?_dropWhile_not (· != child) (chain ++ [name])
    obtain ⟨x, xs, hd⟩ := List.exists_cons_of_ne_nil hne
    rw [hd] at hhead ⊢
    simpa using hhead

/-- A child on the chain closes a circle with the last module of the chain. -/
theorem closes_dropWhile {chain : List String} {child name : String} (h : child ∈ chain ++ [name])
    (circles : List (List String)) :
    Closes (circles ++ [(chain ++ [name]).dropWhile (· != child)]) name child :=
  ⟨_, List.mem_append_right _ (List.mem_singleton_self _), ends_dropWhile h⟩

/-- A new module that is gone into stands on the chain. -/
theorem Searched.enter {chain done : List String} {s : CycleSearch} {name : String}
    (h : g.Searched chain done s) (hnew : name ∉ s.visited) :
    g.Searched (chain ++ [name]) done { s with visited := name :: s.visited } := by
  refine ⟨h.settled, fun m => ?_, fun m hm => ?_⟩
  · rw [List.mem_cons, h.visited, List.mem_append, List.mem_singleton]
    tauto
  · rw [List.mem_append, List.mem_singleton, not_or]
    exact ⟨h.apart m hm, fun e => hnew ((h.visited name).2 (Or.inl (e ▸ hm)))⟩

/-- A module whose children are done with, or close a circle with it, is done with itself. -/
theorem Searched.leave {chain done : List String} {s : CycleSearch} {name : String}
    (h : g.Searched (chain ++ [name]) done s) (hoff : name ∉ chain)
    (hchildren : ∀ c ∈ g.childrenOf name, c ∈ done ∨ Closes s.cycles name c) :
    g.Searched chain (name :: done) s := by
  have hfree : name ∉ done := fun hm => h.apart name hm (by simp)
  refine ⟨.cons hfree hchildren h.settled, fun m => ?_, fun m hm => ?_⟩
  · rw [h.visited, List.mem_append, List.mem_singleton, List.mem_cons]
    tauto
  · rcases List.mem_cons.1 hm with rfl | hm
    · exact hoff
    · exact fun hc => h.apart m hm (List.mem_append_left _ hc)

/-- Children gone on to in turn are done with, or close a circle with the module they belong to. -/
theorem searched_foldl_visitChild {chain : List String} {name : String}
    (hgrows : ∀ state child, state.cycles <+: (search state child).cycles)
    (hsearch : ∀ state child done, g.Searched (chain ++ [name]) done state → child ∈ g.names →
      child ∉ state.visited → ((search state child).cycles.length : Int) < limit →
      ∃ done', g.Searched (chain ++ [name]) done' (search state child) ∧ done ⊆ done' ∧ child ∈ done') :
    ∀ {cs : List String} {state : CycleSearch} {done : List String},
      g.Searched (chain ++ [name]) done state → (∀ c ∈ cs, c ∈ g.names) →
      ((cs.foldl (visitChild search limit (chain ++ [name])) state).cycles.length : Int) < limit →
      ∃ done', g.Searched (chain ++ [name]) done'
          (cs.foldl (visitChild search limit (chain ++ [name])) state) ∧ done ⊆ done' ∧
        ∀ c ∈ cs, c ∈ done' ∨
          Closes (cs.foldl (visitChild search limit (chain ++ [name])) state).cycles name c
  | [], state, done, h, _, _ => ⟨done, h, List.Subset.refl _, fun c hc => by cases hc⟩
  | c :: cs, state, done, h, hcs, hlimit => by
    rw [List.foldl_cons] at hlimit ⊢
    have hrest : (visitChild search limit (chain ++ [name]) state c).cycles <+:
        (cs.foldl (visitChild search limit (chain ++ [name]))
          (visitChild search limit (chain ++ [name]) state c)).cycles :=
      prefix_foldl_visitChild hgrows cs _
    have hlater : ((visitChild search limit (chain ++ [name]) state c).cycles.length : Int) < limit :=
      Int.lt_of_le_of_lt (Int.ofNat_le.2 hrest.length_le) hlimit
    -- what the first child comes to
    obtain ⟨done₁, h₁, hsub₁, hfirst⟩ : ∃ done', g.Searched (chain ++ [name]) done'
        (visitChild search limit (chain ++ [name]) state c) ∧ done ⊆ done' ∧
          (c ∈ done' ∨ Closes (visitChild search limit (chain ++ [name]) state c).cycles name c) := by
      unfold visitChild at hlater ⊢
      by_cases hnew : c ∉ state.visited
      · rw [if_pos hnew] at hlater ⊢
        obtain ⟨done', h', hsub, hc⟩ := hsearch state c done h (hcs c List.mem_cons_self) hnew hlater
        exact ⟨done', h', hsub, Or.inl hc⟩
      · rw [if_neg hnew] at hlater ⊢
        by_cases hchain : c ∈ chain ++ [name] ∧ (state.cycles.length : Int) < limit
        · rw [if_pos hchain]
          exact ⟨done, ⟨h.settled.mono (List.subset_append_left _ _), h.visited, h.apart⟩,
            List.Subset.refl _, Or.inr (closes_dropWhile hchain.1 _)⟩
        · rw [if_neg hchain] at hlater ⊢
          have hdone := ((h.visited c).1 (not_not.1 hnew)).resolve_right fun hc => hchain ⟨hc, hlater⟩
          exact ⟨done, h, List.Subset.refl _, Or.inl hdone⟩
    obtain ⟨done₂, h₂, hsub₂, hothers⟩ := searched_foldl_visitChild hgrows hsearch h₁
      (fun d hd => hcs d (List.mem_cons_of_mem _ hd)) hlimit
    refine ⟨done₂, h₂, List.Subset.trans hsub₁ hsub₂, fun d hd => ?_⟩
    rcases List.mem_cons.1 hd with rfl | hd
    · exact hfirst.imp (fun hm => hsub₂ hm) (Closes.mono hrest.subset)
    · exact hothers d hd

/-- A search from a new module that is not stopped by its limit is done with that module, when there
is fuel for every module that is not on the chain. -/
theorem searched_cyclesFrom (hg : g.WF) : ∀ (fuel : Nat) (chain : List String) (state : CycleSearch)
    (name : String) (done : List String), g.Searched chain done state → g.Above fuel chain →
    name ∈ g.names → name ∉ state.visited →
    ((g.cyclesFrom limit fuel chain state name).cycles.length : Int) < limit →
    ∃ done', g.Searched chain done' (g.cyclesFrom limit fuel chain state name) ∧ done ⊆ done' ∧
      name ∈ done'
  | fuel, chain, state, name, done, h, habove, hname, hnew, hlimit => by
    have hoff : name ∉ chain := fun hc => hnew ((h.visited name).2 (Or.inr hc))
    cases fuel with
    | zero => exact absurd (habove.mem_of_zero hname) hoff
    | succ fuel =>
      rw [cyclesFrom_succ] at hlimit ⊢
      split at hlimit
      · rename_i hfull
        omega
      · rename_i hopen
        rw [if_neg hopen]
        -- The children keep the invariant below the name; leaving it adds the name to what is done.
        obtain ⟨done', h', hgrow, hchildren⟩ := searched_foldl_visitChild (prefix_cyclesFrom fuel _)
          (fun state child done hs hc hn hl => searched_cyclesFrom hg fuel (chain ++ [name]) state child
            done hs (habove.concat hname hoff) hc hn hl)
          (h.enter hnew) (fun c hc => hg.known _ _ hc) hlimit
        exact ⟨name :: done', h'.leave hoff hchildren,
          List.Subset.trans hgrow (List.subset_cons_self _ _), List.mem_cons_self⟩

/-! ## All modules -/

/-- Starts from a module that no earlier start has come to. -/
def startFrom (g : Graph) (limit : Int) (state : CycleSearch) (name : String) : CycleSearch :=
  if state.visited.contains name then state
  else g.cyclesFrom limit (g.nodes.size + 1) [] state name

theorem prefix_foldl_startFrom : ∀ (names : List String) (state : CycleSearch),
    state.cycles <+: (names.foldl (g.startFrom limit) state).cycles
  | [], _ => List.prefix_rfl
  | name :: names, state => by
    refine List.IsPrefix.trans ?_ (prefix_foldl_startFrom names _)
    unfold startFrom
    split
    · exact List.prefix_rfl
    · exact prefix_cyclesFrom _ [] state name

theorem searched_foldl_startFrom (hg : g.WF) : ∀ {names : List String} {state : CycleSearch}
    {done : List String}, g.Searched [] done state → (∀ m ∈ names, m ∈ g.names) →
    ((names.foldl (g.startFrom limit) state).cycles.length : Int) < limit →
    ∃ done', g.Searched [] done' (names.foldl (g.startFrom limit) state) ∧ done ⊆ done' ∧
      names ⊆ done'
  | [], state, done, h, _, _ => ⟨done, h, List.Subset.refl _, List.nil_subset _⟩
  | name :: names, state, done, h, hnames, hlimit => by
    rw [List.foldl_cons] at hlimit ⊢
    have hlater : ((g.startFrom limit state name).cycles.length : Int) < limit :=
      Int.lt_of_le_of_lt (Int.ofNat_le.2 (prefix_foldl_startFrom names _).length_le) hlimit
    obtain ⟨done₁, h₁, hsub₁, hname⟩ : ∃ done', g.Searched [] done' (g.startFrom limit state name) ∧
        done ⊆ done' ∧ name ∈ done' := by
      unfold startFrom at hlater ⊢
      split at hlater
      · rename_i hold
        rw [if_pos hold]
        exact ⟨done, h, List.Subset.refl _,
          ((h.visited name).1 (List.contains_iff_mem.1 hold)).resolve_right List.not_mem_nil⟩
      · rename_i hnew
        rw [if_neg hnew]
        exact searched_cyclesFrom hg _ [] state name done h (above_nil g) (hnames name List.mem_cons_self)
          (fun hm => hnew (List.contains_iff_mem.2 hm)) hlater
    obtain ⟨done₂, h₂, hsub₂, hothers⟩ := searched_foldl_startFrom hg h₁
      (fun m hm => hnames m (List.mem_cons_of_mem _ hm)) hlimit
    exact ⟨done₂, h₂, List.Subset.trans hsub₁ hsub₂, List.cons_subset.2 ⟨hsub₂ hname, hothers⟩⟩

/-- A search that comes back with fewer circles than it may has settled all modules. -/
theorem exists_settled (hg : g.WF) (h : ((g.cycles limit).length : Int) < limit) :
    ∃ done, g.Settled (g.cycles limit) done ∧ g.names ⊆ done := by
  have hstart : g.Searched [] [] ⟨[], []⟩ := ⟨.nil, fun m => by simp, fun m hm => by cases hm⟩
  obtain ⟨done, hdone, -, hnames⟩ := searched_foldl_startFrom hg hstart (fun _ hm => hm) h
  exact ⟨done, hdone.settled, hnames⟩

/-! ## The order of settled modules -/

/-- An edge closes a circle that was found, or leads further down in the order of the settled modules. -/
theorem Settled.closes_or_later {circles : List (List String)} {done : List String}
    (h : g.Settled circles done) {p c : String} (hp : p ∈ done) (hc : c ∈ g.childrenOf p) :
    Closes circles p c ∨ c ∈ done ∧ done.idxOf p < done.idxOf c := by
  induction h with
  | nil => cases hp
  | @cons m done hm hchildren hdone ih =>
    have hlater : c ∈ done → done.idxOf c + 1 = (m :: done).idxOf c := fun hcm =>
      (List.idxOf_cons_ne _ fun e : m = c => hm (e ▸ hcm)).symm
    rcases List.mem_cons.1 hp with rfl | hp
    · rcases hchildren c hc with hcm | hcloses
      · refine Or.inr ⟨List.mem_cons_of_mem _ hcm, ?_⟩
        rw [List.idxOf_cons_self, ← hlater hcm]
        exact Nat.succ_pos _
      · exact Or.inl hcloses
    · rcases ih hp with hcloses | ⟨hcm, hlt⟩
      · exact Or.inl hcloses
      · refine Or.inr ⟨List.mem_cons_of_mem _ hcm, ?_⟩
        rw [← hlater hcm, List.idxOf_cons_ne _ fun e : m = p => hm (e ▸ hp)]
        exact Nat.succ_lt_succ hlt

end RtlAtlas.Graph
