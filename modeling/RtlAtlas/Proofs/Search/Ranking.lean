/-
How a search by name ranks the symbols of a repository. The points fall into bands: the name itself,
names that begin with the query, names that hold it, and names a few edits away, which never reach the
bands above because a name that differs is at least one edit off. Two sorts make the order, first of the
table by place and then of the hits by points and place, and it tells all symbols apart; so the order
in which the symbols were added does not show.
-/
import Mathlib.Data.List.Infix
import Mathlib.Data.List.Pairwise
import RtlAtlas.Proofs.Search.Distance
import RtlAtlas.Proofs.Symbol.Identity
import RtlAtlas.Proofs.Symbol.Table
import RtlAtlas.Proofs.Text.Lower
import RtlAtlas.Search.Engine

namespace RtlAtlas.Search

open RtlAtlas.Text

/-! ## Bands of points -/

/-- How far a name is off a query when letter case does not count: it is the query (0), goes on after it
(1), holds it elsewhere (2), or does not hold it (3). -/
def remoteness (name query : String) : Nat :=
  if lower name.toList = lower query.toList then 0
  else if lower query.toList <+: lower name.toList then 1
  else if lower query.toList <:+: lower name.toList then 2
  else 3

/-- The points of a name, by how far it is off. -/
theorem score_cases (name query : String) :
    (remoteness name query = 0 ∧ score name query = 100) ∨
    (remoteness name query = 1 ∧ score name query = 90) ∨
    (remoteness name query = 2 ∧ score name query = 70) ∨
    (remoteness name query = 3 ∧ score name query ≤ 55) := by
  unfold remoteness score scoreLower
  generalize lower name.toList = n
  generalize lower query.toList = q
  simp only [List.isPrefixOf_iff_prefix, occurs_iff]
  by_cases hsame : n = q
  · simp [hsame]
  by_cases hbegins : q <+: n
  · simp [hsame, hbegins]
  by_cases hholds : q <:+: n
  · simp [hsame, hbegins, hholds]
  · have hedits : editDistance n q ≠ 0 := fun h => hsame (editDistance_eq_zero_iff.1 h)
    refine Or.inr (Or.inr (Or.inr ?_))
    simp only [hsame, hbegins, hholds, if_false, true_and]
    split <;> omega

/-- More points mean that a name is no farther off. -/
theorem remoteness_mono {query a b : String} (h : score b query ≤ score a query) :
    remoteness a query ≤ remoteness b query := by
  rcases score_cases a query with ⟨ha, hpoints⟩ | ⟨ha, hpoints⟩ | ⟨ha, hpoints⟩ | ⟨ha, hpoints⟩ <;>
    rcases score_cases b query with ⟨hb, hpoints'⟩ | ⟨hb, hpoints'⟩ | ⟨hb, hpoints'⟩ | ⟨hb, hpoints'⟩ <;>
    omega

/-! ## Hits -/

/-- The hit that shows a symbol. -/
def symbolHit (query : String) (s : Symbol) : Hit :=
  { origin := .symbol, file := s.file, line := s.line, snippet := s!"{s.kind.word} {s.name}",
    score := score s.name query, symbol := some s }

/-- A symbol is listed before another: it has more points, or as many and an earlier place in the order
of file, line and name. -/
def Ahead (query : String) (a b : Symbol) : Prop :=
  score b.name query < score a.name query ∨
    score b.name query = score a.name query ∧ Symbol.ord a b = .lt

instance (query : String) (a b : Symbol) : Decidable (Ahead query a b) :=
  inferInstanceAs (Decidable (_ ∨ _))

theorem Ahead.asymm {query : String} {a b : Symbol} (h : Ahead query a b) : ¬Ahead query b a := by
  rintro (hpoints | ⟨hpoints, hplace⟩)
  · rcases h with h | ⟨h, -⟩ <;> omega
  · rcases h with h | ⟨-, h⟩
    · omega
    · have hgt : Symbol.ord b a = .gt := Std.OrientedCmp.gt_iff_lt.2 h
      rw [hgt] at hplace
      cases hplace

/-- The order of hits goes by points, then file and line; the order of symbols then adds the name. -/
theorem ahead_of_then {query : String} {a b : Symbol}
    (h : (Hit.ord (symbolHit query a) (symbolHit query b)).then (Symbol.ord a b) = .lt) :
    Ahead query a b := by
  have hrank : compare Origin.symbol.rank Origin.symbol.rank = .eq := rfl
  unfold Hit.ord symbolHit at h
  simp only [hrank, Ordering.eq_then] at h
  rcases Ordering.then_eq_lt.1 h with hlt | ⟨heq, hlt⟩
  · rcases Ordering.then_eq_lt.1 hlt with hpoints | ⟨hpoints, hplace⟩
    · have := Int.compare_eq_lt.1 hpoints
      exact Or.inl (by omega)
    · have := Int.compare_eq_eq.1 hpoints
      refine Or.inr ⟨by omega, ?_⟩
      unfold Symbol.ord
      rw [← Ordering.then_assoc, hplace]
      rfl
  · have hpoints := Int.compare_eq_eq.1 (Ordering.then_eq_eq.1 heq).1
    exact Or.inr ⟨by omega, hlt⟩

/-- The symbols of a list that answer a query, each with its hit. -/
theorem filterMap_symbolHit? (query : String) (ss : List Symbol) :
    ss.filterMap (symbolHit? query) =
      (ss.filter fun s => 0 < score s.name query).map (symbolHit query) := by
  induction ss with
  | nil => rfl
  | cons s ss ih =>
    by_cases hs : 0 < score s.name query
    · have hhit : symbolHit? query s = some (symbolHit query s) := if_pos hs
      rw [List.filterMap_cons_some hhit, List.filter_cons_of_pos (by simpa using hs), List.map_cons, ih]
    · have hhit : symbolHit? query s = none := if_neg hs
      rw [List.filterMap_cons_none hhit, List.filter_cons_of_neg (by simpa using hs), ih]

/-- What a search answers that is not refused: lines only if no symbol answers, or if lines are asked
for. -/
theorem search_of_mode (t : Table) (bs : List Backend) (scope : Option Scope) (limit : Int)
    {query : String} {mode : Option String} {wanted : Mode}
    (hblank : ¬query.toList.all isBlank = true) (hmode : Mode.ofWord mode = .ok wanted)
    {found : List Hit} (hfound : (if wanted = .symbols then searchSymbols t query else []) = found) :
    search t bs scope limit query mode = if found.isEmpty || wanted = .text then
      (searchLines bs scope limit query).map fun lines => Hit.sort (found ++ lines)
    else .ok (Hit.sort found) := by
  subst hfound
  rw [search, if_neg hblank, hmode]
  rfl

/-! ## The symbols of a repository -/

/-- Symbols of one repository: each is identified from its root, stands in an absolute file and has a
name without a colon, and no two agree in file, name and line. -/
structure OfRepository (root : Path) (ss : List Symbol) : Prop where
  identified : ∀ s ∈ ss, s.id = Symbol.idOf root s.file s.name s.line
  proper : ∀ s ∈ ss, s.file.Proper
  absolute : ∀ s ∈ ss, s.file.isAbsolute = true
  noColon : ∀ s ∈ ss, ':' ∉ s.name.toList
  distinct : ss.Pairwise fun a b => ¬(a.file = b.file ∧ a.name = b.name ∧ a.line = b.line)

section OfRepository

variable {root : Path} {ss ss' : List Symbol}

theorem OfRepository.perm (h : OfRepository root ss) (hp : ss'.Perm ss) : OfRepository root ss' where
  identified := fun s hs => h.identified s (hp.subset hs)
  proper := fun s hs => h.proper s (hp.subset hs)
  absolute := fun s hs => h.absolute s (hp.subset hs)
  noColon := fun s hs => h.noColon s (hp.subset hs)
  distinct := by
    refine (hp.pairwise_iff ?_).2 h.distinct
    rintro a b hab ⟨hfile, hname, hline⟩
    exact hab ⟨hfile.symm, hname.symm, hline.symm⟩

theorem OfRepository.nodup_ids (h : OfRepository root ss) : (ss.map (·.id)).Nodup := by
  refine List.pairwise_map.2 (h.distinct.imp_of_mem ?_)
  intro a b ha hb hab hid
  rw [h.identified a ha, h.identified b hb] at hid
  exact hab ((Symbol.idOf_inj (h.proper a ha) (h.proper b hb) (h.absolute a ha) (h.absolute b hb)
    (h.noColon a ha) (h.noColon b hb)).1 hid)

/-- Symbols in different places, or with different names, are told apart by the order of symbols. -/
theorem OfRepository.apart (h : OfRepository root ss) :
    ss.Pairwise fun a b => Symbol.ord a b ≠ .eq := by
  refine h.distinct.imp_of_mem ?_
  intro a b ha hb hab heq
  obtain ⟨hfile, hline, hname⟩ := Symbol.ord_eq_iff.1 heq
  exact hab ⟨Path.text_injective (h.proper a ha) (h.proper b hb) hfile, hname, hline⟩

/-- A table lists its symbols by place, whatever order they were added in. -/
theorem OfRepository.list_eq (h : OfRepository root ss) (hp : ss'.Perm ss) :
    (ss'.foldl Table.add .empty).list = Symbol.sort ss := by
  have hvalues := (Table.perm_values_foldl_add (h.perm hp).nodup_ids).trans hp
  have : Std.Symm fun a b : Symbol => Symbol.ord a b ≠ .eq :=
    ⟨fun _ _ hab heq => hab (Std.OrientedCmp.eq_symm heq)⟩
  refine Symbol.sort_eq_of_perm hvalues ?_
  intro a ha b hb heq
  by_contra hne
  exact h.apart.forall (hvalues.subset ha) (hvalues.subset hb) hne heq

theorem OfRepository.pairwise_sort (h : OfRepository root ss) :
    (Symbol.sort ss).Pairwise fun a b => Symbol.ord a b = .lt :=
  pairwise_lt_mergeSort Symbol.ord h.apart

end OfRepository

/-! ## The ranking -/

instance : Std.TransCmp Hit.ord :=
  have : Std.TransCmp fun a b : Hit => compareOn (fun h : Hit => h.score) b a := .opposite
  inferInstanceAs (Std.TransCmp (compareLex (compareOn fun h : Hit => h.origin.rank)
    (compareLex (fun a b => compareOn (fun h : Hit => h.score) b a)
      (compareLex (compareOn fun h : Hit => h.file.text) (compareOn fun h : Hit => h.line)))))

/-- The order of symbols by their hits. -/
def ordOfHits (query : String) (a b : Symbol) : Ordering :=
  Hit.ord (symbolHit query a) (symbolHit query b)

instance (query : String) : Std.TransCmp (ordOfHits query) where
  eq_swap := by
    unfold ordOfHits
    exact Std.OrientedCmp.eq_swap
  isLE_trans := by
    unfold ordOfHits
    exact Std.TransCmp.isLE_trans

/-- The symbols that answer a query, best first: sorted by place and then by their hits. -/
def ranked (query : String) (ss : List Symbol) : List Symbol :=
  ((Symbol.sort ss).filter fun s => 0 < score s.name query).mergeSort fun a b =>
    (ordOfHits query a b).isLE

theorem perm_ranked (query : String) (ss : List Symbol) :
    (ranked query ss).Perm (ss.filter fun s => 0 < score s.name query) :=
  (List.mergeSort_perm _ _).trans ((Symbol.perm_sort ss).filter _)

/-- After both sorts the ranked symbols are in strict order. -/
theorem pairwise_ranked {root : Path} {ss : List Symbol} (h : OfRepository root ss) (query : String) :
    (ranked query ss).Pairwise (Ahead query) :=
  (pairwise_mergeSort_then (ordOfHits query) Symbol.ord (h.pairwise_sort.filter _)).imp ahead_of_then

/-- A search by name that some symbol answers shows the ranked symbols and no lines. -/
theorem search_eq_ranked {root : Path} {ss ss' : List Symbol} (h : OfRepository root ss)
    (hp : ss'.Perm ss) {query : String} (hblank : ¬query.toList.all isBlank = true)
    (hsome : ∃ s ∈ ss, 0 < score s.name query) {mode : Option String}
    (hmode : Mode.ofWord mode = .ok .symbols) (bs : List Backend) (scope : Option Scope) (limit : Int) :
    search (ss'.foldl Table.add .empty) bs scope limit query mode =
      .ok ((ranked query ss).map (symbolHit query)) := by
  have hfound : searchSymbols (ss'.foldl Table.add .empty) query =
      ((Symbol.sort ss).filter fun s => 0 < score s.name query).map (symbolHit query) := by
    rw [searchSymbols, h.list_eq hp, filterMap_symbolHit?]
  have hnonempty : (((Symbol.sort ss).filter fun s => 0 < score s.name query).map
      (symbolHit query)).isEmpty = false := by
    obtain ⟨s, hs, hpoints⟩ := hsome
    rw [List.isEmpty_eq_false_iff_exists_mem]
    exact ⟨_, List.mem_map_of_mem (List.mem_filter.2 ⟨Symbol.mem_sort.2 hs, by simpa using hpoints⟩)⟩
  have hsort : Hit.sort (((Symbol.sort ss).filter fun s => 0 < score s.name query).map
      (symbolHit query)) = (ranked query ss).map (symbolHit query) :=
    (List.map_mergeSort (f := symbolHit query) fun _ _ _ _ => rfl).symm
  rw [search_of_mode _ bs scope limit hblank hmode hfound, hnonempty, hsort]
  rfl

/-- A search by name in a table of symbols of one repository shows, if any symbol answers, all that do
and nothing else: each once, by points downwards and then by file, line and name. So the name asked for
comes before names that go on after it, those before names that hold it, and those before names that are
a few edits away and score at most 55 points. In which order the symbols were added makes no difference,
nor do the lines that could be searched. -/
theorem search_ranked {root : Path} {ss : List Symbol} (h : OfRepository root ss) {query : String}
    (hblank : ¬query.toList.all isBlank = true) (hsome : ∃ s ∈ ss, 0 < score s.name query)
    {mode : Option String} (hmode : mode = none ∨ mode = some "symbol") :
    ∃ best : List Symbol,
      (∀ (ss' : List Symbol) (bs : List Backend) (scope : Option Scope) (limit : Int), ss'.Perm ss →
        search (ss'.foldl Table.add .empty) bs scope limit query mode =
          .ok (best.map (symbolHit query))) ∧
      best.Perm (ss.filter fun s => 0 < score s.name query) ∧
      best.Pairwise (Ahead query) ∧
      (best.Pairwise fun a b => remoteness a.name query ≤ remoteness b.name query) ∧
      ∀ s ∈ best, remoteness s.name query = 3 → 1 ≤ score s.name query ∧ score s.name query ≤ 55 := by
  have hsymbols : Mode.ofWord mode = .ok .symbols := by
    rcases hmode with rfl | rfl <;> rfl
  have hahead := pairwise_ranked h query
  refine ⟨ranked query ss, ?_, perm_ranked query ss, hahead, ?_, ?_⟩
  · intro ss' bs scope limit hp
    exact search_eq_ranked h hp hblank hsome hsymbols bs scope limit
  · refine hahead.imp ?_
    intro a b hab
    -- Fewer points mean a class at least as far away, whatever the order decided on.
    apply remoteness_mono
    rcases hab with hpoints | ⟨hpoints, -⟩ <;> omega
  · intro s hs hfar
    have hpositive := (List.mem_filter.1 ((perm_ranked query ss).subset hs)).2
    rw [decide_eq_true_eq] at hpositive
    rcases score_cases s.name query with ⟨hoff, -⟩ | ⟨hoff, -⟩ | ⟨hoff, -⟩ | ⟨-, hpoints⟩ <;> omega

/-- Names that are nearer and nearer off `cnt`, two of them in one line, and one that is too far off. -/
def counters : List Symbol :=
  let inFile (file name : String) (line : Int) : Symbol :=
    .create (Path.ofString "/repo") (Path.ofString file) name .signal line line "net_declaration"
  [inFile "/repo/b.v" "CNT" 3, inFile "/repo/a.v" "cnt_en" 7, inFile "/repo/a.v" "a_cnt" 5,
    inFile "/repo/a.v" "b_cnt" 5, inFile "/repo/a.v" "cmt" 1, inFile "/repo/b.v" "reset" 4]

theorem search_ranked_counters :
    OfRepository (Path.ofString "/repo") counters ∧ ¬"cnt".toList.all isBlank = true ∧
    (∃ s ∈ counters, 0 < score s.name "cnt") ∧
    search (counters.foldl Table.add .empty) [] none 0 "cnt" none =
      .ok (counters.dropLast.map (symbolHit "cnt")) ∧
    search (counters.reverse.foldl Table.add .empty) [] none 0 "cnt" none =
      .ok (counters.dropLast.map (symbolHit "cnt")) ∧
    counters.dropLast.map (fun s => score s.name "cnt") = [100, 90, 70, 70, 55] := by
  have hcounters : OfRepository (Path.ofString "/repo") counters :=
    ⟨by simp [counters, Symbol.create], by decide +kernel, by decide +kernel, by decide +kernel,
      by decide +kernel⟩
  have hblank : ¬"cnt".toList.all isBlank = true := by decide +kernel
  have hsome : ∃ s ∈ counters, 0 < score s.name "cnt" := by decide +kernel
  obtain ⟨best, hsearch, hperm, hahead, -⟩ := search_ranked hcounters hblank hsome (Or.inl rfl)
  have hshown : (counters.filter fun s => 0 < score s.name "cnt") = counters.dropLast := by rfl
  have hsorted : counters.dropLast.Pairwise (Ahead "cnt") := by decide +kernel
  have hbest : best = counters.dropLast :=
    (hshown ▸ hperm).eq_of_pairwise (fun _ _ _ _ hab hba => absurd hba (Ahead.asymm hab)) hahead hsorted
  subst hbest
  exact ⟨hcounters, hblank, hsome, hsearch counters [] none 0 (List.Perm.refl _),
    hsearch counters.reverse [] none 0 (List.reverse_perm _), by decide +kernel⟩

end RtlAtlas.Search
