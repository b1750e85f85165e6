/-
Coherence of an index: what it knows of a recorded file is what one text declares, the text whose
digest stands in the record. Whatever is done with an index, in whatever order and whether it fails
or is stopped part-way, keeps the symbol table, the modules, the instances, the records and the texts
held in memory together in this way.
-/
import RtlAtlas.Proofs.Workspace.Reach

namespace RtlAtlas

open OrderedMap

namespace Index

/-- What is known of a file is what a text declares. -/
structure Knows (i : Index) (file : Path) (text : List Char) (e : Source.Extraction) : Prop where
  clean : Char.ofNat 0 ∉ text
  extracted : Source.extract file text = .ok e
  hash : i.hashes.get? file = some (textHash text)
  symbols : (i.table.symbols.values.filter fun s => s.file = file).Perm
    (Symbol.lastPerId (symbolsOf i.root file e))
  listed : i.table.inFile file = Symbol.sort (Symbol.lastPerId (symbolsOf i.root file e))
  modules : (i.modules.get? file).getD [] = e.modules
  instances : (i.instances.get? file).getD [] = e.instances
  held : ∀ kept, i.contents.get? file = some kept → kept.toList = text

/-- The symbols, modules, instances, records and texts of an index belong together. -/
structure Coherent (i : Index) : Prop where
  /-- The three maps of the symbol table agree. -/
  table : i.table.WF
  recorded : ∀ file hash, i.hashes.get? file = some hash → ∃ text e, i.Knows file text e
  symbols : ∀ s ∈ i.table.symbols.values, i.hashes.contains s.file = true
  modules : ∀ file, (i.modules.get? file).getD [] ≠ [] → i.hashes.contains file = true
  instances : ∀ file, (i.instances.get? file).getD [] ≠ [] → i.hashes.contains file = true
  contents : ∀ file, i.contents.contains file = true → i.hashes.contains file = true

variable {i : Index} {copies : Path → Option Copy}

theorem Represents.contains_hashes (h : i.Represents copies) {f : Path} (hc : copies f ≠ none) :
    i.hashes.contains f = true := by
  obtain ⟨c, hc⟩ := Option.ne_none_iff_exists'.1 hc
  exact OrderedMap.mem_keys.1 (h.mem_recorded.2 ⟨c, hc⟩)

/-- An index that represents copies of files is coherent. -/
theorem Represents.coherent (h : i.Represents copies) : i.Coherent where
  table := h.table
  recorded := fun f hash hh => by
    rw [h.hashes] at hh
    obtain ⟨c, hc, -⟩ := Option.map_eq_some_iff.1 hh
    obtain ⟨-, e, he⟩ := h.accepted f c hc
    have hd : declarations f (copies f) = e := by rw [hc]; exact declarations_some he
    refine ⟨c.text, e, Source.extract_isOk_iff.1 ⟨e, he⟩, he, ?_, ?_, ?_, ?_, ?_, fun kept hk => ?_⟩
    · rw [h.hashes, hc]; rfl
    · have hp := (h.table.perm_inFile f).symm.trans (h.perm_inFile f)
      rwa [symbolsHeld, hd] at hp
    · rw [h.inFile_eq, symbolsHeld, hd]
    · rw [h.modules, hd]
    · rw [h.instances, hd]
    · rw [h.contents, hc, Option.bind_some] at hk
      unfold Copy.kept at hk
      split at hk
      · cases hk; exact String.toList_ofList
      · cases hk
  -- A symbol, a module or a kept text of a file with no record would be one that no copy holds.
  symbols := fun s hs => h.contains_hashes fun hn => by
    rw [h.mem_values, hn, symbolsHeld_none] at hs
    cases hs
  modules := fun f hne => h.contains_hashes fun hn => hne (by rw [h.modules, hn]; rfl)
  instances := fun f hne => h.contains_hashes fun hn => hne (by rw [h.instances, hn]; rfl)
  contents := fun f hf => h.contains_hashes fun hn => by
    rw [contains_eq_isSome, h.contents, hn] at hf
    cases hf

end Index

namespace Workspace

/-! ## Every action keeps an index to copies of files -/

/-- An index at a resolved root represents some copies of files. -/
structure Kept (i : Index) : Prop where
  root : i.root.Resolved
  represents : ∃ copies, i.Represents copies

theorem kept_new {config : Config} {index : Index} (h : Index.new config = .ok index)
    (hroot : config.root.Resolved) : Kept index := by
  obtain rfl := Index.eq_of_new h
  exact ⟨hroot, _, Index.Represents.clear { config := config, root := config.root } config.root⟩

variable {w : Workspace}

theorem Kept.build (hw : w.tree.WF) (hk : Kept w.index) {directory : Option Path}
    (hp : (directory.getD w.index.config.root).Proper) (stopAfter : Option Int) :
    Kept (w.build directory stopAfter).2.index := by
  rcases build_cases w directory stopAfter with ⟨e, h⟩ | ⟨root, hplace, hbuild⟩
  · rw [h]; exact hk
  · have hroot := (FileTree.isPlace_of_resolve hw hp hplace).resolved
    rcases hbuild with ⟨e, -, h⟩ | ⟨-, h⟩
    · rw [h]
      exact ⟨hroot, _, Index.Represents.clear w.index root⟩
    · rw [h]
      refine ⟨?_, _, Index.Represents.build w.index hw hroot stopAfter⟩
      rwa [(Index.stays_build w.index w.tree root stopAfter).root]

theorem Kept.refresh (hw : w.tree.WF) (hk : Kept w.index) (stopAfter : Option Int) :
    Kept (w.refresh stopAfter).2.index := by
  obtain ⟨hroot, copies, hc⟩ := hk
  rcases refresh_cases w stopAfter with ⟨e, -, h⟩ | ⟨-, h⟩
  · rw [h]; exact ⟨hroot, copies, hc⟩
  · rw [h]
    exact ⟨(Index.stays_refresh w.index w.tree stopAfter).root.symm ▸ hroot, _,
      hc.refresh hroot hw stopAfter⟩

theorem Kept.updateFile (hw : w.tree.WF) (hk : Kept w.index) {file : Path} (hp : file.Proper) (content : Option String) :
    Kept (w.updateFile file content).2.index := by
  obtain ⟨hroot, copies, h⟩ := hk
  unfold Workspace.updateFile
  split
  · exact ⟨hroot, copies, h⟩
  · rename_i place hplace
    have hfile := (FileTree.isPlace_of_resolve hw hp hplace).resolved
    exact ⟨(Index.stays_updateFile w.index w.tree place content).root.symm ▸ hroot, _,
      h.updateFile w.tree hfile content⟩

theorem Kept.removeFile (hk : Kept w.index) (file : Path) : Kept (w.removeFile file).2.index := by
  obtain ⟨hroot, copies, h⟩ := hk
  unfold Workspace.removeFile
  split
  · exact ⟨hroot, copies, h⟩
  · rename_i place _
    exact ⟨(Index.stays_removeFile w.index place).root.symm ▸ hroot, _, h.removeFile _⟩

/-- What is loaded is an index of the run that saved it. -/
theorem load_cases (w : Workspace) {database : Path} (hp : database.Proper) :
    (w.load database).2.index = w.index ∨ ∃ d s, w.tree.Holds d ∧ d.snapshot = .ok s ∧
      (w.load database).2.index = w.index.restore s := by
  unfold Workspace.load
  split
  · rename_i s tree h
    obtain ⟨d, hd, hs⟩ := FileTree.exists_of_loadSnapshot hp h
    exact Or.inr ⟨d, s, hd, hs, rfl⟩
  · exact Or.inl rfl

/-- Loading what saves a represented index gives a represented index. -/
theorem represents_restore {d : Database} {s : Snapshot} {i : Index} {copies : Path → Option Copy}
    (hd : d.Saves i) (hs : d.snapshot = .ok s) (hroot : i.root.Resolved) (h : i.Represents copies)
    (j : Index) : (j.restore s).root = i.root ∧
      (j.restore s).Represents fun f => (copies f).map Copy.saved := by
  obtain ⟨time, old, rfl⟩ := hd
  rw [(Index.snapshot_replace hroot hs).2]
  exact ⟨rfl, h.restore j s.graph⟩

theorem Kept.load (hk : Kept w.index)
    (hsaved : ∀ d, w.tree.Holds d → d = .empty ∨ ∃ i, Kept i ∧ d.Saves i) {database : Path}
    (hp : database.Proper) : Kept (w.load database).2.index := by
  rcases load_cases w hp with h | ⟨d, s, hd, hs, h⟩
  · rw [h]; exact hk
  · rw [h]
    rcases hsaved d hd with rfl | ⟨i, ⟨hroot, copies, hi⟩, hd⟩
    · cases hs
    · obtain ⟨hr, hrestored⟩ := represents_restore hd hs hroot hi w.index
      exact ⟨hr ▸ hroot, _, hrestored⟩

theorem Kept.act (h : w.Holding Kept) {a : Action} (hp : ∀ p ∈ a.paths, p.Proper) :
    Kept (w.act a).index := by
  obtain ⟨hroot, copies, hc⟩ := h.index
  cases a with
  | build directory stopAfter => exact Kept.build h.wf h.index (h.proper_root hp) stopAfter
  | refresh stopAfter => exact Kept.refresh h.wf h.index stopAfter
  | update file content => exact Kept.updateFile h.wf h.index (hp file (by simp [Action.paths])) content
  | remove file => exact Kept.removeFile h.index file
  | query => exact ⟨(Index.stays_withGraph w.index).root.symm ▸ hroot, copies, hc.withGraph⟩
  | rebuildGraph => exact ⟨hroot, copies, hc.congr rfl rfl rfl rfl rfl rfl⟩
  | save database time => exact ⟨(Index.stays_withGraph w.index).root.symm ▸ hroot, copies, hc.withGraph⟩
  | load database => exact Kept.load h.index h.saved (hp database (by simp [Action.paths]))
  | close =>
    exact ⟨hroot, _, (Index.Represents.clear w.index w.index.root).congr rfl rfl rfl rfl rfl rfl⟩

theorem Reachable.kept (h : w.Reachable) : w.Holding Kept :=
  ReachableBy.holds (fun _ _ hn hr => kept_new hn hr) (fun _ _ hw hp _ => Kept.act hw hp) h

/-- Every index that a run leads to is coherent. -/
theorem coherent_of_reachable (h : w.Reachable) : w.index.Coherent := by
  obtain ⟨-, copies, hc⟩ := h.kept.index
  exact hc.coherent

/-- One module handed over in memory leads to a coherent index with a record of its file. -/
theorem coherent_oneModule : Reachable oneModule ∧
    oneModule.index.hashes.keys = [⟨.root, ["r", "a.v"]⟩] ∧ oneModule.index.Coherent :=
  ⟨reachable_oneModule, by decide +kernel, coherent_of_reachable reachable_oneModule⟩

end Workspace

end RtlAtlas
