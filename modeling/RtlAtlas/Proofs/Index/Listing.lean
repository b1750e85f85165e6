/-
What an index lists does not depend on the order in which its files came. Two indexes with one root
that represent copies with the same texts list the same symbols, modules, instances and records, in
the same order, and so have the same graph; the order of taking in, of dropping and of reading back
from a database leaves no trace.
-/
import RtlAtlas.Proofs.Index.Copies

namespace RtlAtlas

open OrderedMap

/-- The texts of copies, file by file. -/
def textsOf (copies : Path → Option Copy) (file : Path) : Option (List Char) :=
  (copies file).map (·.text)

theorem declarations_congr {file : Path} {copy copy' : Option Copy}
    (h : copy.map (·.text) = copy'.map (·.text)) : declarations file copy = declarations file copy' := by
  have key : ∀ c : Option Copy, declarations file c =
      ((c.map (·.text)).bind fun t => (Source.extract file t).toOption).getD ⟨file, [], [], []⟩ :=
    fun c => by cases c <;> rfl
  rw [key, key, h]

/-! ## Maps from files to lists -/

theorem flatMap_filter_ne_nil {α β : Type} [DecidableEq β] (f : α → List β) : ∀ l : List α,
    (l.filter fun a => f a ≠ []).flatMap f = l.flatMap f
  | [] => rfl
  | a :: l => by
    rw [List.filter_cons, List.flatMap_cons, ← flatMap_filter_ne_nil f l]
    by_cases h : f a = []
    · simp [h]
    · simp [h]

/-- Listing file by file skips files with nothing in them, so only the values count. -/
theorem Index.byFile_congr {α : Type} [DecidableEq α] {m n : OrderedMap Path (List α)}
    (hm : m.Unique) (hn : n.Unique) (h : ∀ f, (m.get? f).getD [] = (n.get? f).getD [])
    (hroot : ∀ f, (m.get? f).getD [] ≠ [] → f.anchor = .root) : Index.byFile m = Index.byFile n := by
  have hmem : ∀ {o : OrderedMap Path (List α)} {f : Path}, (o.get? f).getD [] ≠ [] → f ∈ o.keys := by
    intro o f hne
    by_contra hk
    rw [get?_eq_none_iff.2 hk] at hne
    exact hne rfl
  have hfun : (fun f => (n.get? f).getD []) = fun f => (m.get? f).getD [] := funext fun f => (h f).symm
  -- files with something in them are the same in both maps, and sorting orders them alike
  have hkeys : ((Path.sortByParts m.keys).filter fun f => (m.get? f).getD [] ≠ []) =
      (Path.sortByParts n.keys).filter fun f => (m.get? f).getD [] ≠ [] := by
    have hperm : (m.keys.filter fun f => (m.get? f).getD [] ≠ []).Perm
        (n.keys.filter fun f => (m.get? f).getD [] ≠ []) := by
      refine (List.perm_ext_iff_of_nodup (hm.filter _) (hn.filter _)).2 fun f => ?_
      simp only [List.mem_filter, decide_eq_true_eq]
      exact ⟨fun hf => ⟨hmem (h f ▸ hf.2), hf.2⟩, fun hf => ⟨hmem hf.2, hf.2⟩⟩
    refine eq_of_perm_of_sorted Path.ordByParts
      ((((Path.perm_sortByParts m.keys).filter _).trans hperm).trans
        ((Path.perm_sortByParts n.keys).filter _).symm)
      ((Path.pairwise_sortByParts m.keys).filter _) ((Path.pairwise_sortByParts n.keys).filter _) ?_
    intro p hp q hq
    exact Path.eq_of_ordByParts_eq (hroot p (by simpa using (List.mem_filter.1 hp).2))
      (hroot q (by simpa using (List.mem_filter.1 hq).2))
  unfold Index.byFile
  rw [hfun, ← flatMap_filter_ne_nil _ (Path.sortByParts m.keys), hkeys, flatMap_filter_ne_nil]

namespace Index

variable {i j : Index} {copies copies' : Path → Option Copy}

/-! ## Symbols -/

theorem apart_of_held (root : Path) {symbols : List Symbol}
    (h : ∀ s ∈ symbols, s.file.Resolved ∧ s.id = Symbol.idOf root s.file s.name s.line)
    (hid : ∀ s ∈ symbols, ∀ s' ∈ symbols, s.id = s'.id → s = s') : Symbol.Apart symbols := by
  intro a ha b hb hab
  obtain ⟨hfile, hline, hname⟩ := Symbol.ord_eq_iff.1 hab
  obtain ⟨hra, hia⟩ := h a ha
  obtain ⟨hrb, hib⟩ := h b hb
  refine hid a ha b hb ?_
  rw [hia, hib, Path.text_injective hra.proper hrb.proper hfile, hline, hname]

theorem Represents.apart (h : i.Represents copies) : Symbol.Apart i.table.symbols.values := by
  refine apart_of_held i.root (fun s hs => ?_) fun s hs s' hs' hid => ?_
  · have hheld := h.mem_values.1 hs
    exact ⟨h.resolved_of_mem hheld, (of_mem_symbolsHeld hheld).2.1⟩
  · rw [h.table.mem_values] at hs hs'
    rw [hid, hs'] at hs
    exact (Option.some.inj hs).symm

theorem Represents.perm_inFile (h : i.Represents copies) (f : Path) :
    (i.table.inFile f).Perm (symbolsHeld i.root f (copies f)) := by
  have hnodup : (symbolsHeld i.root f (copies f)).Nodup := (Symbol.nodup_lastPerId _).of_map
  refine (h.table.perm_inFile f).trans
    ((List.perm_ext_iff_of_nodup (h.table.nodup_values.filter _) hnodup).2 fun s => ?_)
  rw [List.mem_filter, h.mem_values, decide_eq_true_eq]
  constructor
  · rintro ⟨hs, rfl⟩; exact hs
  · intro hs
    obtain rfl := (of_mem_symbolsHeld hs).1
    exact ⟨hs, rfl⟩

/-- The symbols listed of a file are those its copy holds, in order. -/
theorem Represents.inFile_eq (h : i.Represents copies) (f : Path) :
    i.table.inFile f = Symbol.sort (symbolsHeld i.root f (copies f)) := by
  have hmem := fun s => (h.table.perm_idsAt h.table.byFile f).mem_iff (a := s)
  have hperm := (Symbol.perm_sort _).symm.trans (h.perm_inFile f)
  refine Symbol.sort_eq_of_perm hperm fun a ha b hb => ?_
  exact h.apart a (List.mem_filter.1 ((hmem a).1 ha)).1 b (List.mem_filter.1 ((hmem b).1 hb)).1

/-! ## Listings depend on the texts alone -/

theorem symbolsHeld_congr {root file : Path} {copy copy' : Option Copy}
    (h : copy.map (·.text) = copy'.map (·.text)) :
    symbolsHeld root file copy = symbolsHeld root file copy' := by
  unfold symbolsHeld
  rw [declarations_congr h]

theorem Represents.get?_eq (hi : i.Represents copies) (hj : j.Represents copies')
    (hr : i.root = j.root) (ht : textsOf copies = textsOf copies') (k : String) :
    i.table.get? k = j.table.get? k := by
  have key : ∀ s, i.table.get? s.id = some s ↔ j.table.get? s.id = some s := fun s => by
    rw [hi.symbols, hj.symbols, hr, symbolsHeld_congr (congrFun ht s.file)]
  refine Option.ext fun s => ?_
  constructor
  · intro hs
    obtain rfl := hi.table.ids k s hs
    exact (key s).1 hs
  · intro hs
    obtain rfl := hj.table.ids k s hs
    exact (key s).2 hs

theorem Represents.list_eq (hi : i.Represents copies) (hj : j.Represents copies')
    (hr : i.root = j.root) (ht : textsOf copies = textsOf copies') : i.table.list = j.table.list :=
  hi.table.list_eq hj.table (hi.get?_eq hj hr ht) hi.apart

theorem Represents.inFile_congr (hi : i.Represents copies) (hj : j.Represents copies')
    (hr : i.root = j.root) {f : Path} (ht : textsOf copies f = textsOf copies' f) :
    i.table.inFile f = j.table.inFile f := by
  rw [hi.inFile_eq, hj.inFile_eq, hr, symbolsHeld_congr ht]

theorem Represents.allModules_eq (hi : i.Represents copies) (hj : j.Represents copies')
    (ht : textsOf copies = textsOf copies') : i.allModules = j.allModules :=
  byFile_congr hi.uniqueModules hj.uniqueModules
    (fun f => by rw [hi.modules, hj.modules, declarations_congr (congrFun ht f)])
    fun f hne => (hi.resolved fun hn => hne (by rw [hi.modules, hn]; rfl)).anchor

theorem Represents.allInstances_eq (hi : i.Represents copies) (hj : j.Represents copies')
    (ht : textsOf copies = textsOf copies') : i.allInstances = j.allInstances :=
  byFile_congr hi.uniqueInstances hj.uniqueInstances
    (fun f => by rw [hi.instances, hj.instances, declarations_congr (congrFun ht f)])
    fun f hne => (hi.resolved fun hn => hne (by rw [hi.instances, hn]; rfl)).anchor

theorem Represents.freshGraph_eq (hi : i.Represents copies) (hj : j.Represents copies')
    (ht : textsOf copies = textsOf copies') : i.freshGraph = j.freshGraph := by
  unfold freshGraph
  rw [hi.allModules_eq hj ht, hi.allInstances_eq hj ht]

theorem Represents.hash_eq (h : i.Represents copies) (f : Path) :
    i.hashes.get? f = (textsOf copies f).map textHash := by
  rw [h.hashes]
  unfold textsOf
  rw [Option.map_map]
  rfl

theorem Represents.mem_recorded (h : i.Represents copies) {f : Path} :
    f ∈ i.hashes.keys ↔ ∃ c, copies f = some c := by
  rw [← exists_get?_iff, h.hashes]
  cases copies f <;> simp

theorem Represents.recorded_resolved (h : i.Represents copies) {f : Path} (hf : f ∈ i.hashes.keys) :
    f.Resolved := by
  obtain ⟨c, hc⟩ := h.mem_recorded.1 hf
  exact h.resolved (by rw [hc]; exact Option.some_ne_none c)

/-- The files with a record are the same, in whatever order. -/
theorem Represents.perm_recorded (hi : i.Represents copies) (hj : j.Represents copies')
    (ht : textsOf copies = textsOf copies') : i.hashes.keys.Perm j.hashes.keys := by
  refine (List.perm_ext_iff_of_nodup hi.uniqueHashes hj.uniqueHashes).2 fun f => ?_
  rw [← exists_get?_iff, ← exists_get?_iff, hi.hash_eq, hj.hash_eq, ht]

/-- The records of an index tell of the files with a record, by their components. -/
theorem path_records (i : Index) : i.records.map (·.path) = Path.sortByParts i.hashes.keys := by
  unfold records
  rw [List.map_map]
  exact List.map_id _

theorem Represents.mem_records (h : i.Represents copies) {f : Path} :
    f ∈ i.records.map (·.path) ↔ ∃ c, copies f = some c := by
  rw [path_records, Path.mem_sortByParts, h.mem_recorded]

theorem Represents.records_eq (hi : i.Represents copies) (hj : j.Represents copies')
    (ht : textsOf copies = textsOf copies') : i.records = j.records := by
  have hget : ∀ f, i.hashes.get? f = j.hashes.get? f := fun f => by
    rw [hi.hash_eq, hj.hash_eq, ht]
  have hkeys : Path.sortByParts i.hashes.keys = Path.sortByParts j.hashes.keys :=
    Path.sortByParts_eq_of_perm (hi.perm_recorded hj ht) fun f hf => (hi.recorded_resolved hf).anchor
  unfold records
  rw [hkeys]
  exact List.map_congr_left fun f _ => by rw [hget]

end Index

end RtlAtlas
