/-
What lies below a module. `Below` says that forward edges lead from one module down to another while
avoiding some modules; the search for a way down finds one exactly when the target lies below the
start. A search that finds nothing has marked a set of modules that holds all their children and not
the target, so marking a module for good loses no way.
-/
import Mathlib.Data.List.Nodup
import RtlAtlas.Graph.Route
import RtlAtlas.Proofs.Graph.Shape

namespace RtlAtlas.Graph

open OrderedMap

/-- One module lies at or below another, along forward edges between modules that are not among
`passed`. -/
inductive Below (g : Graph) (passed : List String) : String → String → Prop
  | here {m : String} : m ∉ passed → Below g passed m m
  | down {p c m : String} : p ∉ passed → c ∈ g.childrenOf p → Below g passed c m → Below g passed p m

variable {g : Graph}

theorem Below.notMem {passed : List String} {p m : String} (h : g.Below passed p m) : p ∉ passed := by
  cases h with
  | here h => exact h
  | down h _ _ => exact h

theorem Below.trans {passed : List String} {p m n : String} (h : g.Below passed p m)
    (h' : g.Below passed m n) : g.Below passed p n := by
  induction h with
  | here _ => exact h'
  | down hp hc _ ih => exact .down hp hc (ih h')

/-- A way that comes to a module it should avoid goes on from there as a way of its own. -/
theorem Below.avoid {passed : List String} {p m : String} (h : g.Below passed p m) (a : String) :
    g.Below (a :: passed) p m ∨ m = a ∨ ∃ c ∈ g.childrenOf a, g.Below (a :: passed) c m := by
  induction h with
  | @here m hm =>
    by_cases hma : m = a
    · exact Or.inr (Or.inl hma)
    · exact Or.inl (.here (by simp [hma, hm]))
  | @down p c m hp hc _ ih =>
    rcases ih with ih | ih | ih
    · by_cases hpa : p = a
      · subst hpa
        exact Or.inr (Or.inr ⟨c, hc, ih⟩)
      · exact Or.inl (.down (by simp [hpa, hp]) hc ih)
    · exact Or.inr (Or.inl ih)
    · exact Or.inr (Or.inr ih)

/-- A module below another one is that module, or lies below one of its children without coming back
to it. -/
theorem Below.cases_child {passed : List String} {p m : String} (h : g.Below passed p m) :
    m = p ∨ ∃ c ∈ g.childrenOf p, g.Below (p :: passed) c m := by
  rcases h.avoid p with h | h | h
  · exact absurd List.mem_cons_self h.notMem
  · exact Or.inl h
  · exact Or.inr h

/-! ## Trying one child after another -/

/-- Tries a child, unless one before it has led to a way. -/
def tryChild (search : List String → String → Option (List String) × List String)
    (state : Option (List String) × List String) (child : String) :
    Option (List String) × List String :=
  if state.1.isSome then state else search state.2 child

theorem routeFrom_succ (g : Graph) (target : String) (fuel : Nat) (visited : List String)
    (name : String) : g.routeFrom target (fuel + 1) visited name =
      if name = target then (some [name], visited)
      else if name ∈ visited then (none, visited)
      else
        let last := (g.childrenOf name).foldl (tryChild (g.routeFrom target fuel)) (none, name :: visited)
        (last.1.map (name :: ·), last.2) := by
  simp only [routeFrom, List.contains_iff_mem]
  refine ite_congr rfl (fun _ => rfl) fun _ => ite_congr rfl (fun _ => rfl) fun _ => ?_
  refine congrArg (fun last : Option (List String) × List String => (last.1.map (name :: ·), last.2)) ?_
  refine List.foldl_ext _ _ _ fun state child _ => ?_
  unfold tryChild
  cases state.1 <;> rfl

variable {search : List String → String → Option (List String) × List String}

/-- Once a way is found, no further child is tried. -/
theorem foldl_tryChild_of_some (way visited : List String) : ∀ cs : List String,
    cs.foldl (tryChild search) (some way, visited) = (some way, visited)
  | [] => rfl
  | _ :: cs => foldl_tryChild_of_some way visited cs

theorem foldl_tryChild_cons (visited : List String) (c : String) (cs : List String) :
    (c :: cs).foldl (tryChild search) (none, visited) =
      if (search visited c).1.isSome then search visited c
      else cs.foldl (tryChild search) (none, (search visited c).2) := by
  rw [List.foldl_cons, show tryChild search (none, visited) c = search visited c from rfl]
  obtain ⟨found, marked⟩ := search visited c
  cases found with
  | none => rfl
  | some way => exact foldl_tryChild_of_some way marked cs

/-! ## Ways that are found -/

/-- A way that some child leads to was found from that child. -/
theorem exists_of_foldl_tryChild {way : List String} : ∀ {cs visited : List String},
    (cs.foldl (tryChild search) (none, visited)).1 = some way →
    ∃ c ∈ cs, ∃ marked, (search marked c).1 = some way
  | [], _, h => by cases h
  | c :: cs, visited, h => by
    rw [foldl_tryChild_cons] at h
    split at h
    · exact ⟨c, List.mem_cons_self, visited, h⟩
    · obtain ⟨d, hd, hway⟩ := exists_of_foldl_tryChild h
      exact ⟨d, List.mem_cons_of_mem _ hd, hway⟩

/-- A way that is found leads down to the target. -/
theorem below_of_routeFrom {target : String} : ∀ {fuel : Nat} {visited : List String} {name : String}
    {way : List String}, (g.routeFrom target fuel visited name).1 = some way → g.Below [] name target
  | 0, _, _, _, h => by cases h
  | fuel + 1, visited, name, way, h => by
    rw [routeFrom_succ] at h
    split at h
    · rename_i hname
      exact hname ▸ .here List.not_mem_nil
    · split at h
      · cases h
      · obtain ⟨rest, hrest, -⟩ := Option.map_eq_some_iff.1 h
        obtain ⟨c, hc, marked, hway⟩ := exists_of_foldl_tryChild hrest
        exact .down List.not_mem_nil hc (below_of_routeFrom hway)

/-! ## Searches that find nothing -/

/-- What a search that finds nothing leaves: more modules are marked, and those that are new are not
the target and have all their children marked. -/
structure Fruitless (g : Graph) (target : String) (before after : List String) : Prop where
  grows : before ⊆ after
  closed : ∀ m ∈ after, m ∉ before → m ≠ target ∧ g.childrenOf m ⊆ after

theorem Fruitless.refl (target : String) (marked : List String) :
    g.Fruitless target marked marked :=
  ⟨List.Subset.refl _, fun _ hm hn => absurd hm hn⟩

theorem Fruitless.trans {target : String} {a b c : List String} (h : g.Fruitless target a b)
    (h' : g.Fruitless target b c) : g.Fruitless target a c := by
  refine ⟨List.Subset.trans h.grows h'.grows, fun m hm hn => ?_⟩
  by_cases hb : m ∈ b
  · obtain ⟨hne, hsub⟩ := h.closed m hb hn
    exact ⟨hne, List.Subset.trans hsub h'.grows⟩
  · exact h'.closed m hm hb

/-- After a search from the beginning that finds nothing, the target lies below no marked module. -/
theorem Fruitless.not_below {target : String} {after : List String}
    (h : g.Fruitless target [] after) {p : String} (hp : p ∈ after) : ¬g.Below [] p target := by
  intro hb
  induction hb with
  | here _ => exact (h.closed _ hp List.not_mem_nil).1 rfl
  | down _ hc _ ih => exact ih h ((h.closed _ hp List.not_mem_nil).2 hc)

/-- The known modules that are not marked. -/
def unmarked (g : Graph) (marked : List String) : List String := g.names.filter fun m => m ∉ marked

theorem length_unmarked_le (g : Graph) {before after : List String} (h : before ⊆ after) :
    (g.unmarked after).length ≤ (g.unmarked before).length := by
  refine (List.monotone_filter_right g.names fun m hm => ?_).length_le
  simp only [decide_eq_true_eq] at hm ⊢
  exact fun hb => hm (h hb)

theorem length_unmarked_cons_lt {name : String} {marked : List String} (hname : name ∈ g.names)
    (hn : name ∉ marked) : (g.unmarked (name :: marked)).length < (g.unmarked marked).length := by
  have hsplit : g.unmarked (name :: marked) = (g.unmarked marked).filter (· ≠ name) := by
    unfold unmarked
    rw [List.filter_filter]
    refine List.filter_congr fun m _ => ?_
    simp
  rw [hsplit]
  refine List.length_filter_lt_length_iff_exists.2 ⟨name, ?_, by simp⟩
  exact List.mem_filter.2 ⟨hname, by simpa using hn⟩

/-- Children tried in turn without finding anything are all marked. -/
theorem fruitless_foldl_tryChild {target : String} {bound : Nat}
    (hsearch : ∀ marked c, (g.unmarked marked).length < bound → c ∈ g.names →
      (search marked c).1 = none →
      g.Fruitless target marked (search marked c).2 ∧ c ∈ (search marked c).2) :
    ∀ {cs marked : List String}, (g.unmarked marked).length < bound → (∀ c ∈ cs, c ∈ g.names) →
      (cs.foldl (tryChild search) (none, marked)).1 = none →
      g.Fruitless target marked (cs.foldl (tryChild search) (none, marked)).2 ∧
        cs ⊆ (cs.foldl (tryChild search) (none, marked)).2
  | [], marked, _, _, _ => ⟨Fruitless.refl target marked, List.nil_subset _⟩
  | c :: cs, marked, hbound, hcs, h => by
    rw [foldl_tryChild_cons] at h ⊢
    split at h
    · rename_i hsome
      rw [h] at hsome
      cases hsome
    · rename_i hnone
      rw [if_neg hnone]
      obtain ⟨hfirst, hmem⟩ := hsearch marked c hbound (hcs c List.mem_cons_self)
        (Option.not_isSome_iff_eq_none.1 hnone)
      obtain ⟨hrest, hsub⟩ := fruitless_foldl_tryChild hsearch
        (Nat.lt_of_le_of_lt (length_unmarked_le g hfirst.grows) hbound)
        (fun d hd => hcs d (List.mem_cons_of_mem _ hd)) h
      exact ⟨hfirst.trans hrest, List.cons_subset.2 ⟨hrest.grows hmem, hsub⟩⟩

/-- With fuel for every module that is not marked, a search that finds nothing has marked all that it
came to. -/
theorem fruitless_routeFrom (hg : g.WF) {target : String} : ∀ (fuel : Nat) (visited : List String)
    (name : String), (g.unmarked visited).length < fuel → name ∈ g.names →
    (g.routeFrom target fuel visited name).1 = none →
    g.Fruitless target visited (g.routeFrom target fuel visited name).2 ∧
      name ∈ (g.routeFrom target fuel visited name).2
  | 0, _, _, hfuel, _, _ => absurd hfuel (Nat.not_lt_zero _)
  | fuel + 1, visited, name, hfuel, hname, h => by
    rw [routeFrom_succ] at h ⊢
    split at h
    · cases h
    · rename_i hne
      split at h
      · rename_i hmem
        rw [if_neg hne, if_pos hmem]
        exact ⟨Fruitless.refl target visited, hmem⟩
      · rename_i hmem
        -- No child led to the target, so nothing that their searches marked does.
        rw [if_neg hne, if_neg hmem]
        obtain ⟨hrest, hsub⟩ := fruitless_foldl_tryChild
          (fun marked c => fruitless_routeFrom hg fuel marked c)
          (Nat.lt_of_lt_of_le (length_unmarked_cons_lt hname hmem) (Nat.le_of_lt_succ hfuel))
          (fun c hc => hg.known _ _ hc) (Option.map_eq_none_iff.1 h)
        have hmarked := hrest.grows (List.mem_cons_self (a := name) (l := visited))
        refine ⟨⟨List.Subset.trans (List.subset_cons_self _ _) hrest.grows, fun m hm hn => ?_⟩, hmarked⟩
        by_cases hmn : m = name
        · subst hmn
          exact ⟨hne, hsub⟩
        · exact hrest.closed m hm (by simp [hmn, hn])

/-- There is a way down from one known module to another exactly when the second lies below the
first. -/
theorem isSome_route?_iff (hg : g.WF) {start target : String} (hs : start ∈ g.names)
    (ht : target ∈ g.names) : (g.route? start target).isSome = true ↔ g.Below [] start target := by
  unfold route?
  rw [mem_names_iff.2 hs, mem_names_iff.2 ht, Bool.and_self, if_pos rfl]
  constructor
  · intro h
    obtain ⟨way, hway⟩ := Option.isSome_iff_exists.1 h
    exact below_of_routeFrom hway
  · intro h
    by_contra hnone
    have hbound : (g.unmarked []).length < g.nodes.size + 1 := by
      have hle : (g.unmarked []).length ≤ g.names.length := List.length_filter_le _ _
      exact Nat.lt_succ_of_le (length_names g ▸ hle)
    obtain ⟨hfruitless, hstart⟩ := fruitless_routeFrom hg _ [] start hbound hs
      (Option.not_isSome_iff_eq_none.1 hnone)
    exact hfruitless.not_below hstart h

end RtlAtlas.Graph
