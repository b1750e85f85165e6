/-
The way that is found is the first. A search that keeps only the modules on the current way marked, and
frees each of them when it goes back, finds the first way in depth-first order. The search in use marks
modules for good, and still finds that same way: a module that is marked but not on the way has all its
children marked and is not the target, so a way from it would come back to the current one.
-/
import Mathlib.Logic.Relation
import RtlAtlas.Proofs.Graph.Chain
import RtlAtlas.Proofs.Graph.Route

namespace RtlAtlas.Graph

open OrderedMap

variable {g : Graph}

/-- A chain from one module to another. -/
structure Way (g : Graph) (start target : String) (ms : List String) : Prop where
  chain : g.Chain ms
  starts : ms.head? = some start
  ends : ms.getLast? = some target

/-! ## The search that frees modules -/

/-- The first way to the target that avoids the modules in `passed`, where going back frees a module. -/
def wayFrom (g : Graph) (target : String) : Nat → List String → String → Option (List String)
  | 0, _, _ => none
  | fuel + 1, passed, name =>
    if name ∈ passed then none
    else if name = target then some [name]
    else ((g.childrenOf name).findSome? (wayFrom g target fuel (name :: passed))).map (name :: ·)

/-- The first way that a search through all of them finds. -/
def firstWay? (g : Graph) (start target : String) : Option (List String) :=
  if g.contains start && g.contains target then g.wayFrom target (g.nodes.size + 1) [] start else none

/-- Options tried in turn give the earliest of what is found under them. -/
theorem finds_findSome? {options : List String} {P : String → List String → Prop}
    {search : String → Option (List String)} : ∀ {os : List String},
      (∀ o ∈ os, Finds (g.Earlier options) (P o) (search o)) →
      (os.Pairwise fun o o' => ∀ ms ns, P o ms → P o' ns → g.Earlier options ms ns) →
      Finds (g.Earlier options) (fun ms => ∃ o ∈ os, P o ms) (os.findSome? search)
  | [], _, _ => by rintro ms ⟨o, ho, -⟩; cases ho
  | o :: os, hsearch, hpairwise => by
    obtain ⟨hlater, hos⟩ := List.pairwise_cons.1 hpairwise
    have ho := hsearch o List.mem_cons_self
    have hrest := finds_findSome? (fun o' ho' => hsearch o' (List.mem_cons_of_mem _ ho')) hos
    rw [List.findSome?_cons]
    cases hfound : search o with
    | none =>
      rw [hfound] at ho
      refine hrest.congr fun ms => ?_
      rw [List.exists_mem_cons_iff, or_iff_right (ho ms)]
    | some best =>
      rw [hfound] at ho
      refine ⟨⟨o, List.mem_cons_self, ho.holds⟩, ?_⟩
      rintro ms ⟨o', ho', hms⟩
      rcases List.mem_cons.1 ho' with rfl | ho'
      · exact ho.better ms hms
      · exact Or.inr (hlater o' ho' _ _ ho.holds hms)

/-- Below the modules above it, the search finds the earliest trail from a module to the target. -/
theorem finds_wayFrom (hg : g.WF) (target : String) : ∀ {fuel : Nat} {passed : List String} {name : String}
    (options : List String), g.Above fuel passed → name ∈ g.names →
    Finds (g.Earlier options) (g.Trail (· = target) passed name) (g.wayFrom target fuel passed name)
  | 0, passed, name, options, habove, hname => fun ms hms => hms.notMem (habove.mem_of_zero hname)
  | fuel + 1, passed, name, options, habove, hname => by
    rw [wayFrom]
    split
    · rename_i hpassed
      exact fun ms hms => hms.notMem hpassed
    · rename_i hoff
      split
      · rename_i htarget
        refine ⟨.stop hoff htarget, ?_⟩
        rintro ms hms
        cases hms with
        | stop _ _ => exact Or.inl rfl
        | go _ _ hrest =>
          -- a trail that goes on from the target would have to end there once more
          obtain ⟨-, -, ⟨e, hlast, rfl⟩, havoid⟩ := trail_iff.1 hrest
          exact absurd (htarget ▸ List.mem_cons_self) (havoid e (List.mem_of_getLast? hlast))
      · rename_i hne
        have hbest := finds_findSome? (P := g.Trail (· = target) (name :: passed))
          (fun c hc => finds_wayFrom hg target (g.childrenOf name) (habove.cons hname hoff)
            (hg.known _ _ hc))
          (pairwise_earlier (hg.nodup name) fun _ _ h => h.exists_cons)
        refine (hbest.cons fun ms ns h => h.cons options).congr fun ms => ?_
        rw [Trail.iff_go (· = target) hne]
        simp only [hoff, not_false_eq_true, true_and]

theorem way_iff {start target : String} {ms : List String} :
    g.Way start target ms ↔ g.Trail (· = target) [] start ms := by
  constructor
  · rintro ⟨hchain, hstart, hend⟩
    exact hchain.trail hstart hend rfl
  · intro h
    obtain ⟨hchain, hstart, ⟨_, hend, rfl⟩, -⟩ := trail_iff.1 h
    exact ⟨hchain, hstart, hend⟩

/-! ## Modules marked for good -/

/-- From a module that is marked but not on the way, no trail leads to the target. -/
theorem Fruitless.not_trail {target : String} {passed marked : List String} {m : String} {ms : List String}
    (h : g.Fruitless target passed marked) (hm : m ∈ marked) : ¬g.Trail (· = target) passed m ms := by
  intro htrail
  induction htrail with
  | stop hoff htarget => exact (h.closed _ hm hoff).1 htarget
  | go hoff hc hrest ih =>
    refine ih ⟨List.cons_subset.2 ⟨hm, h.grows⟩, fun n hn hnoff => ?_⟩ ((h.closed _ hm hoff).2 hc)
    exact h.closed n hn fun hp => hnoff (List.mem_cons_of_mem _ hp)

/-- A module that is gone into stands on the way and is marked. -/
theorem Fruitless.enter {target : String} {passed marked : List String}
    (h : g.Fruitless target passed marked) (name : String) :
    g.Fruitless target (name :: passed) (name :: marked) := by
  refine ⟨List.cons_subset_cons _ h.grows, fun m hm hn => ?_⟩
  rw [List.mem_cons, not_or] at hn
  obtain ⟨hne, hsub⟩ := h.closed m ((List.mem_cons.1 hm).resolve_left hn.1) hn.2
  exact ⟨hne, List.Subset.trans hsub (List.subset_cons_self _ _)⟩

/-- Fuel for all modules that are not on the way is fuel for those that are not marked. -/
theorem Above.length_unmarked_lt {fuel : Nat} {passed marked : List String} (h : g.Above fuel passed)
    (hg : g.WF) (hmarked : passed ⊆ marked) : (g.unmarked marked).length < fuel := by
  have hapart : (g.unmarked marked ++ passed).Nodup := by
    refine List.nodup_append.2 ⟨hg.unique.filter _, h.nodup, ?_⟩
    rintro m hm n hn rfl
    simp only [unmarked, List.mem_filter, decide_eq_true_eq] at hm
    exact hm.2 (hmarked hn)
  have hle := length_le_size hapart (List.append_subset.2 ⟨List.filter_subset_self _, h.known⟩)
  have := h.fuel
  rw [List.length_append] at hle
  omega

/-- Trying the children in turn comes to the same way, whether modules are freed or not. -/
theorem foldl_tryChild_eq {target : String} {passed : List String}
    {search : List String → String → Option (List String) × List String}
    {free : String → Option (List String)}
    (hsame : ∀ marked c, g.Fruitless target passed marked → c ∈ g.names → (search marked c).1 = free c)
    (hfruitless : ∀ marked c, g.Fruitless target passed marked → c ∈ g.names →
      (search marked c).1 = none → g.Fruitless target marked (search marked c).2) :
    ∀ {cs marked : List String}, g.Fruitless target passed marked → (∀ c ∈ cs, c ∈ g.names) →
      (cs.foldl (tryChild search) (none, marked)).1 = cs.findSome? free
  | [], _, _, _ => rfl
  | c :: cs, marked, hmarked, hcs => by
    have hc : c ∈ g.names := hcs c List.mem_cons_self
    rw [foldl_tryChild_cons, List.findSome?_cons, ← hsame marked c hmarked hc]
    split
    · rename_i hsome
      obtain ⟨way, hway⟩ := Option.isSome_iff_exists.1 hsome
      rw [hway]
    · rename_i hnone
      have hnone := Option.not_isSome_iff_eq_none.1 hnone
      rw [hnone]
      exact foldl_tryChild_eq hsame hfruitless
        (hmarked.trans (hfruitless marked c hmarked hc hnone))
        fun d hd => hcs d (List.mem_cons_of_mem _ hd)

/-- Marking for good finds the way that freeing finds: what is marked besides the modules on the way is
closed under children up to these, and the target is not in it. -/
theorem routeFrom_eq_wayFrom (hg : g.WF) {target : String} : ∀ {fuel : Nat} {visited passed : List String}
    {name : String}, g.Above fuel passed → g.Fruitless target passed visited → target ∉ passed →
    name ∈ g.names → (g.routeFrom target fuel visited name).1 = g.wayFrom target fuel passed name
  | 0, _, _, _, _, _, _, _ => rfl
  | fuel + 1, visited, passed, name, habove, hvisited, htarget, hname => by
    by_cases hfound : name = target
    · rw [routeFrom_succ, wayFrom, if_pos hfound, if_neg (hfound ▸ htarget), if_pos hfound]
    · by_cases hmarked : name ∈ visited
      · -- the search that frees modules comes back from here with nothing
        have hfree := finds_wayFrom hg target [] habove hname
        rw [routeFrom_succ, if_neg hfound, if_pos hmarked]
        cases hway : g.wayFrom target (fuel + 1) passed name with
        | none => rfl
        | some way =>
          rw [hway] at hfree
          exact absurd hfree.holds (hvisited.not_trail hmarked)
      · have hoff : name ∉ passed := fun hp => hmarked (hvisited.grows hp)
        have hbelow := habove.cons hname hoff
        have hsame : ∀ marked c, g.Fruitless target (name :: passed) marked → c ∈ g.names →
            (g.routeFrom target fuel marked c).1 = g.wayFrom target fuel (name :: passed) c :=
          fun marked c hm hc => routeFrom_eq_wayFrom hg hbelow hm
            (List.not_mem_cons_of_ne_of_not_mem (fun e => hfound e.symm) htarget) hc
        have hfruitless : ∀ marked c, g.Fruitless target (name :: passed) marked → c ∈ g.names →
            (g.routeFrom target fuel marked c).1 = none →
            g.Fruitless target marked (g.routeFrom target fuel marked c).2 :=
          fun marked c hm hc hnone =>
            (fruitless_routeFrom hg fuel marked c (hbelow.length_unmarked_lt hg hm.grows) hc hnone).1
        rw [routeFrom_succ, wayFrom, if_neg hfound, if_neg hmarked, if_neg hoff, if_neg hfound]
        exact congrArg (Option.map (name :: ·))
          (foldl_tryChild_eq hsame hfruitless (hvisited.enter name) fun c hc => hg.known _ _ hc)

/-- The search that marks modules for good and the one that frees them find the same way. -/
theorem route?_eq_firstWay? (hg : g.WF) (start target : String) :
    g.route? start target = g.firstWay? start target := by
  unfold route? firstWay?
  split
  · rename_i hknown
    have hstart : start ∈ g.names := mem_names_iff.1 (Bool.and_eq_true_iff.1 hknown).1
    exact routeFrom_eq_wayFrom hg (above_nil g) (Fruitless.refl target []) List.not_mem_nil hstart
  · rfl

/-! ## The way that is found -/

theorem below_iff {start target : String} :
    g.Below [] start target ↔ Relation.ReflTransGen g.Edge start target := by
  constructor
  · intro h
    induction h with
    | here _ => exact .refl
    | down _ hc _ ih => exact .head hc ih
  · intro h
    induction h using Relation.ReflTransGen.head_induction_on with
    | refl => exact .here List.not_mem_nil
    | head hc _ ih => exact .down List.not_mem_nil hc ih

theorem route?_of_unknown {start target : String} (h : ¬(start ∈ g.names ∧ target ∈ g.names)) :
    g.route? start target = none := by
  unfold route?
  rw [if_neg fun hk => h ((Bool.and_eq_true_iff.1 hk).imp mem_names_iff.1 mem_names_iff.1)]

/-- Between known modules, the way that is found is the first of all. -/
theorem finds_route? (hg : g.WF) {start target : String} (hs : start ∈ g.names) (ht : target ∈ g.names) :
    Finds (g.Earlier [start]) (g.Way start target) (g.route? start target) := by
  rw [route?_eq_firstWay? hg, firstWay?,
    if_pos (Bool.and_eq_true_iff.2 ⟨mem_names_iff.2 hs, mem_names_iff.2 ht⟩)]
  exact (finds_wayFrom hg target _ (above_nil g) hs).congr fun ms => way_iff.symm

/-- There is no way from one module down to another just when one of them is unknown or no edges lead
from the first to the second. A way that is found is a chain of edges from the one to the other that
visits no module twice, and the first of all these in depth-first order, children taken in the order of
the edges. So it is what a search finds that tries all of them by freeing each module it goes back from,
although no module is gone into twice. -/
theorem route_eq_first (hg : g.WF) (start target : String) :
    (g.route? start target = none ↔
      start ∉ g.names ∨ target ∉ g.names ∨ ¬Relation.ReflTransGen g.Edge start target) ∧
    (∀ way, g.route? start target = some way ↔
      start ∈ g.names ∧ target ∈ g.names ∧ Best (g.Earlier [start]) (g.Way start target) way) ∧
    g.route? start target = g.firstWay? start target := by
  by_cases hknown : start ∈ g.names ∧ target ∈ g.names
  · obtain ⟨hs, ht⟩ := hknown
    refine ⟨?_, fun way => ?_, route?_eq_firstWay? hg start target⟩
    · rw [← Option.not_isSome_iff_eq_none, isSome_route?_iff hg hs ht, below_iff]
      simp [hs, ht]
    · -- Two best ways would each be before the other, so the one the search finds is the only one.
      have hfinds := finds_route? hg hs ht
      cases hroute : g.route? start target with
      | none =>
        rw [hroute] at hfinds
        exact iff_of_false (by simp) fun h => hfinds way h.2.2.holds
      | some found =>
        rw [hroute] at hfinds
        constructor
        · rintro ⟨⟩
          exact ⟨hs, ht, hfinds⟩
        · rintro ⟨-, -, hbest⟩
          exact congrArg some (hfinds.unique (fun _ _ h => h.asymm) hbest)
  · have hnone := route?_of_unknown hknown
    refine ⟨iff_of_true hnone ?_, fun way => ?_, route?_eq_firstWay? hg start target⟩
    · tauto
    · rw [hnone]
      exact iff_of_false (by simp) fun h => hknown ⟨h.1, h.2.1⟩

/-- Below `d` and `e` there is nothing but a ring, and `e` is met again below `c`. -/
def deadEnd : Graph :=
  design [("a", ["d", "c"]), ("d", ["e"]), ("e", ["d", "a"]), ("c", ["e", "t"]), ("t", [])]

/-- The search goes through the ring first and is not led into it again below `c`; no edges lead up from
`t`, and nothing is known of `x`. -/
theorem route_eq_first_deadEnd :
    Best (deadEnd.Earlier ["d"]) (deadEnd.Way "d" "t") ["d", "e", "a", "c", "t"] ∧
    ¬Relation.ReflTransGen deadEnd.Edge "t" "a" ∧
    deadEnd.route? "a" "x" = none := by
  have hway : deadEnd.route? "d" "t" = some ["d", "e", "a", "c", "t"] := by decide +kernel
  have hnone : deadEnd.route? "t" "a" = none := by decide +kernel
  have hknown : "t" ∈ deadEnd.names ∧ "a" ∈ deadEnd.names := by decide +kernel
  refine ⟨(((route_eq_first (wf_design _) "d" "t").2.1 _).1 hway).2.2, ?_, ?_⟩
  · rcases (route_eq_first (wf_design _) "t" "a").1.1 hnone with h | h | h
    · exact absurd hknown.1 h
    · exact absurd hknown.2 h
    · exact h
  · exact (route_eq_first (wf_design _) "a" "x").1.2 (Or.inr (Or.inl (by decide +kernel)))

end RtlAtlas.Graph
