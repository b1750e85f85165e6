/-
A saved index reads back as it was. The rows of its snapshot give its root, its symbols, modules,
instances and records again, whatever the database held before, and an index made of them represents
the same texts; only that a text was held in memory is forgotten.
-/
import RtlAtlas.Proofs.Index.Listing
import RtlAtlas.Store.Snapshot

namespace RtlAtlas

open OrderedMap

/-! ## Reading rows back -/

theorem SymbolKind.ofWord?_word (k : SymbolKind) : SymbolKind.ofWord? k.word = some k := by
  cases k <;> rfl

/-- The rows of sorted symbols are sorted, and each gives its symbol. -/
theorem Database.mapM_symbolOf_sortRows {symbols : List Symbol}
    (h : symbols.Pairwise fun a b => (Symbol.ord a b).isLE = true) :
    (sortRows (symbols.map fun s => ⟨s, s.kind.word⟩)).mapM symbolOf = .ok symbols := by
  have hsorted : sortRows (symbols.map fun s => ⟨s, s.kind.word⟩) =
      symbols.map fun s => ⟨s, s.kind.word⟩ :=
    List.mergeSort_of_pairwise (List.pairwise_map.2 h)
  have hrow : symbolOf ∘ (fun s : Symbol => ⟨s, s.kind.word⟩) = Except.ok := by
    funext s
    simp [symbolOf, SymbolKind.ofWord?_word]
  rw [hsorted, List.mapM_map, hrow]
  exact (List.mapM_pure (m := Except Damage) (f := id)).trans (by rw [List.map_id]; rfl)

theorem Database.perm_sortRecords (rs : List FileRecord) : (sortRecords rs).Perm rs :=
  List.mergeSort_perm rs _

namespace Snapshot

variable (s : Snapshot) (time : String) (d : Database)

theorem get?_root : (s.replace time d).properties.get? Database.rootKey = some s.root.text := by
  simp [replace, properties, get?_insert, Database.rootKey, Database.versionKey, Database.savedAtKey,
    Database.hasGraphKey]

theorem get?_version :
    (s.replace time d).properties.get? Database.versionKey = some Database.version := by
  simp [replace, properties, get?_insert, Database.versionKey, Database.savedAtKey,
    Database.hasGraphKey]

theorem get?_hasGraph : (s.replace time d).properties.get? Database.hasGraphKey =
    some (if s.graph.isSome then "1" else "0") := by
  simp [replace, properties, get?_insert]

end Snapshot

/-- What is read back of a saved index, if its graph can be put together again. -/
theorem Index.snapshot_replace {i : Index} {graph : Option Graph} {time : String} {old : Database}
    (hroot : i.root.Resolved) {s : Snapshot}
    (h : ((Snapshot.ofIndex i graph).replace time old).snapshot = .ok s) :
    ((Snapshot.ofIndex i graph).replace time old).graph? = .ok s.graph ∧
      s = ⟨i.root, i.table.list, i.allModules, i.allInstances, Database.sortRecords i.records,
        s.graph⟩ := by
  unfold Database.snapshot at h
  rw [Snapshot.get?_root, Snapshot.get?_version] at h
  simp only [if_true] at h
  have hsymbols : (Database.sortRows ((Snapshot.ofIndex i graph).replace time old).symbols).mapM
      Database.symbolOf = .ok i.table.list :=
    Database.mapM_symbolOf_sortRows (pairwise_mergeSort_isLE Symbol.ord _)
  have hofText : Path.ofString (Snapshot.ofIndex i graph).root.text = i.root :=
    Path.ofString_text hroot.proper
  unfold Database.rows at h
  rw [hsymbols, hofText] at h
  -- all that can still be damaged are the rows of the graph
  cases hg : ((Snapshot.ofIndex i graph).replace time old).graph? with
  | error damage => rw [hg] at h; cases h
  | ok g =>
    rw [hg] at h
    cases h
    exact ⟨rfl, rfl⟩

/-! ## Grouping by file -/

theorem Index.unique_groupByFile {α : Type} (file : α → Path) (values : List α) :
    (groupByFile file values).Unique := by
  unfold groupByFile
  suffices h : ∀ m : OrderedMap Path (List α), m.Unique → (values.foldl
      (fun m v => m.insert (file v) ((m.get? (file v)).getD [] ++ [v])) m).Unique from h _ unique_empty
  induction values with
  | nil => exact fun m hm => hm
  | cons v values ih => exact fun m hm => ih _ (hm.insert _ _)

/-- The group of a file holds the values of that file, in order. -/
theorem Index.get?_groupByFile {α : Type} (file : α → Path) (values : List α) (f : Path) :
    ((groupByFile file values).get? f).getD [] = values.filter fun v => file v = f := by
  suffices h : ∀ m : OrderedMap Path (List α), ((values.foldl
      (fun m v => m.insert (file v) ((m.get? (file v)).getD [] ++ [v])) m).get? f).getD [] =
        (m.get? f).getD [] ++ values.filter fun v => file v = f by
    exact h .empty
  induction values with
  | nil => exact fun m => by simp
  | cons v values ih =>
    intro m
    rw [List.foldl_cons, ih, get?_insert, List.filter_cons]
    by_cases hf : file v = f
    · subst hf; simp
    · have hf' : ¬f = file v := fun e => hf e.symm
      simp [hf, hf']

theorem filter_flatMap_of_nodup {α : Type} {file : α → Path} {g : Path → List α}
    (hg : ∀ f, ∀ v ∈ g f, file v = f) (f : Path) : ∀ {fs : List Path}, fs.Nodup →
    (fs.flatMap g).filter (fun v => file v = f) = if f ∈ fs then g f else []
  | [], _ => rfl
  | f' :: fs, hn => by
    rw [List.nodup_cons] at hn
    rw [List.flatMap_cons, List.filter_append, filter_flatMap_of_nodup hg f hn.2]
    by_cases hf : f = f'
    · subst hf
      have hall : (g f).filter (fun v => file v = f) = g f :=
        List.filter_eq_self.2 fun v hv => decide_eq_true (hg f v hv)
      rw [if_neg hn.1, if_pos List.mem_cons_self, hall, List.append_nil]
    · have hnone : (g f').filter (fun v => file v = f) = [] :=
        List.filter_eq_nil_iff.2 fun v hv => by simpa [hg f' v hv] using fun e : f' = f => hf e.symm
      rw [hnone, List.nil_append]
      simp [hf]

/-- Grouping what was listed file by file gives the values of each file again. -/
theorem Index.get?_groupByFile_byFile {α : Type} {file : α → Path} {m : OrderedMap Path (List α)}
    (hm : m.Unique) (hfile : ∀ f, ∀ v ∈ (m.get? f).getD [], file v = f) (f : Path) :
    ((groupByFile file (byFile m)).get? f).getD [] = (m.get? f).getD [] := by
  have hn : (Path.sortByParts m.keys).Nodup := (Path.perm_sortByParts _).nodup_iff.2 hm
  rw [get?_groupByFile]
  unfold byFile
  rw [filter_flatMap_of_nodup hfile f hn]
  split
  · rfl
  · rename_i hf
    rw [Path.mem_sortByParts, ← get?_eq_none_iff] at hf
    rw [hf]
    rfl

/-! ## Putting a saved index in place -/

/-- A copy as it is after it was saved: nothing is held in memory. -/
def Copy.saved (c : Copy) : Copy := { c with inMemory := false }

theorem textsOf_saved (copies : Path → Option Copy) :
    textsOf (fun f => (copies f).map Copy.saved) = textsOf copies := by
  funext f
  unfold textsOf
  rw [Option.map_map]
  rfl

namespace Index

variable {i : Index} {copies : Path → Option Copy}

/-- The records of an index, in whatever order, give the digests of its files again. -/
theorem get?_ofList_records (hu : i.hashes.Unique) {rs : List FileRecord} (hp : rs.Perm i.records)
    (f : Path) :
    (OrderedMap.ofList (rs.map fun r => (r.path, r.hash))).get? f = i.hashes.get? f := by
  have hpaths : (rs.map fun r => (r.path, r.hash)).map (·.1) = rs.map (·.path) := by
    rw [List.map_map]
    rfl
  have hnodup : ((rs.map fun r => (r.path, r.hash)).map (·.1)).Nodup := by
    rw [hpaths, (hp.map _).nodup_iff, path_records, (Path.perm_sortByParts _).nodup_iff]
    exact hu
  refine Option.ext fun v => ?_
  rw [get?_eq_some_iff (unique_ofList _), entries_ofList hnodup, List.mem_map]
  constructor
  · rintro ⟨r, hr, he⟩
    obtain ⟨f', hf', rfl⟩ := List.mem_map.1 (hp.mem_iff.1 hr)
    obtain ⟨rfl, rfl⟩ := Prod.ext_iff.1 he
    obtain ⟨w, hw⟩ := exists_get?_iff.2 (Path.mem_sortByParts.1 hf')
    simp [hw]
  · intro hv
    refine ⟨⟨f, v⟩, hp.mem_iff.2 (List.mem_map.2 ⟨f, ?_, by rw [hv]; rfl⟩), rfl⟩
    exact Path.mem_sortByParts.2 (mem_keys_of_get? hv)

/-- A saved index put in place represents the texts it had when it was saved. -/
theorem Represents.restore (h : i.Represents copies) (j : Index) (graph : Option Graph) :
    (j.restore ⟨i.root, i.table.list, i.allModules, i.allInstances,
      Database.sortRecords i.records, graph⟩).Represents fun f => (copies f).map Copy.saved := by
  have hlist : (i.table.list.map (·.id)).Nodup := by
    have hp : (i.table.list.map (·.id)).Perm (i.table.symbols.values.map (·.id)) :=
      (Symbol.perm_sort _).map _
    rw [hp.nodup_iff]
    refine List.Nodup.map_on (fun a ha b hb hab => ?_) h.table.nodup_values
    rw [h.table.mem_values] at ha hb
    rw [hab, hb] at ha
    exact (Option.some.inj ha).symm
  -- saving changes no text, so every file declares what it did
  have htexts := fun f => congrFun (textsOf_saved copies) f
  refine
    { accepted := fun f c hc => ?_
      table := Table.wf_empty.foldl_add _
      symbols := fun s => ?_
      uniqueModules := unique_groupByFile _ _
      modules := fun f => ?_
      uniqueInstances := unique_groupByFile _ _
      instances := fun f => ?_
      uniqueHashes := unique_ofList _
      hashes := fun f => ?_
      uniqueContents := unique_empty
      contents := fun f => ?_ }
  · obtain ⟨c', hc', rfl⟩ := Option.map_eq_some_iff.1 hc
    exact h.accepted f c' hc'
  · show (i.table.list.foldl Table.add .empty).get? s.id = some s ↔
      s ∈ symbolsHeld i.root s.file ((copies s.file).map Copy.saved)
    rw [symbolsHeld_congr (htexts s.file), ← h.mem_values, Table.get?_foldl_add,
      show Table.empty.get? s.id = none from rfl, Option.or_none]
    have key : (Symbol.lastPerId i.table.list).find? (·.id == s.id) = some s ↔
        s ∈ Symbol.lastPerId i.table.list ∧ s.id = s.id := Symbol.find?_lastPerId_eq_some
    rw [Symbol.lastPerId_eq_self hlist] at key ⊢
    rw [key]
    exact ⟨fun hs => Symbol.mem_sort.1 hs.1, fun hs => ⟨Symbol.mem_sort.2 hs, rfl⟩⟩
  · show ((groupByFile (·.file) i.allModules).get? f).getD [] = _
    rw [declarations_congr (htexts f), ← h.modules]
    refine get?_groupByFile_byFile h.uniqueModules (fun f' m hm => ?_) f
    rw [h.modules] at hm
    exact file_of_mem_modules m hm
  · show ((groupByFile (·.file) i.allInstances).get? f).getD [] = _
    rw [declarations_congr (htexts f), ← h.instances]
    refine get?_groupByFile_byFile h.uniqueInstances (fun f' x hx => ?_) f
    rw [h.instances] at hx
    exact file_of_mem_instances x hx
  · show (OrderedMap.ofList ((Database.sortRecords i.records).map fun r => (r.path, r.hash))).get? f = _
    rw [get?_ofList_records h.uniqueHashes (Database.perm_sortRecords _), h.hashes, Option.map_map]
    rfl
  · cases copies f <;> rfl

end Index

end RtlAtlas
