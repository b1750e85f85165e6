/-
Saving an index and loading it again. Whatever an index holds, also a graph of modules that were
handed over, a save that succeeds can be loaded into any index with the same settings, which then
answers every question as the saved one did, and comes to the same when both are refreshed.
-/
import RtlAtlas.Proofs.FileTree.Reopen
import RtlAtlas.Proofs.Index.Alike
import RtlAtlas.Proofs.Workspace.GraphCache

namespace RtlAtlas

open OrderedMap

/-- The rows of an index with a graph that was built are read back. -/
theorem Index.snapshot_saved {i : Index} {g : Graph} (hg : i.graph = some g) {ms : List ModuleDef}
    {is : List Instance} (hb : g.Agrees (Graph.build ms is)) (hroot : i.root.Resolved) (time : String)
    (old : Database) : ∃ h, h.Agrees g ∧ ((Snapshot.ofIndex i i.graph).replace time old).snapshot =
      .ok ⟨i.root, i.table.list, i.allModules, i.allInstances, Database.sortRecords i.records,
        some h⟩ := by
  obtain ⟨h, hgraph, ha⟩ := Index.graph_replace hg hb time old
  have hsymbols : (Database.sortRows ((Snapshot.ofIndex i i.graph).replace time old).symbols).mapM
      Database.symbolOf = .ok i.table.list :=
    Database.mapM_symbolOf_sortRows (pairwise_mergeSort_isLE Symbol.ord _)
  have hofText : Path.ofString (Snapshot.ofIndex i i.graph).root.text = i.root :=
    Path.ofString_text hroot.proper
  refine ⟨h, ha, ?_⟩
  unfold Database.snapshot Database.rows
  rw [Snapshot.get?_root, Snapshot.get?_version, hgraph, hsymbols]
  simp only [if_true, hofText]
  rfl

namespace Workspace

/-! ## Runs with graphs that are handed over -/

/-- The workspaces that runs lead to in which a graph of any modules and instances may be set, besides
everything else that can be done with an index. -/
inductive Attainable : Workspace → Prop
  | start {tree : FileTree} {config : Config} {index : Index} :
    tree.WF → (∀ d, tree.Holds d → d = .empty) → Index.new config = .ok index →
    config.root.Resolved → Attainable ⟨tree, index⟩
  | edit {w : Workspace} {tree : FileTree} :
    Attainable w → tree.WF → (∀ d, tree.Holds d → w.tree.Holds d ∨ d = .empty) →
    Attainable ⟨tree, w.index⟩
  | adopt {w v : Workspace} {d : Database} {place : Path} :
    Attainable w → Attainable v → v.tree.Holds d → place.Resolved →
    Attainable ⟨w.tree.put place (.database d), w.index⟩
  | act {w : Workspace} {a : Action} :
    Attainable w → (∀ p ∈ a.paths, p.Proper) → Attainable (w.act a)
  /-- A graph of given modules and instances is set. -/
  | setGraph {w : Workspace} (modules : Option (List ModuleDef)) (instances : Option (List Instance)) :
    Attainable w → Attainable ⟨w.tree, w.index.setGraph modules instances⟩

theorem Reachable.attainable {w : Workspace} (h : w.Reachable) : Attainable w := by
  induction h with
  | start ht hd hn hr => exact .start ht hd hn hr
  | edit _ ht hd ih => exact .edit ih ht hd
  | adopt _ _ hd hp ih ih' => exact .adopt ih ih' hd hp
  | act _ hp _ ih => exact .act ih hp

/-- An index of copies of files, whose graph was built of some modules and instances. -/
structure Savable (i : Index) : Prop where
  kept : Kept i
  built : ∀ g, i.graph = some g → ∃ ms is, g.Agrees (Graph.build ms is)

variable {w : Workspace} {i : Index}

theorem savable_of_none (hk : Kept i) (hg : i.graph = none) : Savable i :=
  ⟨hk, fun g h => by rw [hg] at h; cases h⟩

/-- The graph that is kept, or made when there is none, was built. -/
theorem Savable.built_withGraph (h : Savable i) :
    ∃ ms is, i.withGraph.1.Agrees (Graph.build ms is) := by
  unfold Index.withGraph
  split
  · rename_i g hg
    exact h.built g hg
  · exact ⟨i.allModules, i.allInstances, Graph.Agrees.refl _⟩

theorem Savable.withGraph (h : Savable i) : Savable i.withGraph.2 := by
  obtain ⟨hroot, copies, hr⟩ := h.kept
  refine ⟨⟨(Index.stays_withGraph i).root.symm ▸ hroot, copies, hr.withGraph⟩, fun g hg => ?_⟩
  obtain rfl : i.withGraph.1 = g := Option.some.inj ((graph_withGraph i).symm.trans hg)
  exact h.built_withGraph

/-- What an action does to the graph that is kept, if it neither makes one nor loads one: it stays, or
goes. -/
theorem graph_act {a : Action} (hquery : a ≠ .query) (hmake : a ≠ .rebuildGraph)
    (hsave : ∀ p time, a ≠ .save p time) (hload : ∀ p, a ≠ .load p) :
    (w.act a).index.graph = w.index.graph ∨ (w.act a).index.graph = none := by
  cases a with
  | build directory stopAfter =>
    show (w.build directory stopAfter).2.index.graph = _ ∨ (w.build directory stopAfter).2.index.graph = _
    rcases build_cases w directory stopAfter with ⟨e, h⟩ | ⟨root, -, ⟨e, -, h⟩ | ⟨-, h⟩⟩
    · rw [h]; exact Or.inl rfl
    · -- the files are dropped before the build raises, the graph is not
      rw [h]; exact Or.inl rfl
    · rw [h]; exact Or.inr (Index.graph_build w.index w.tree root stopAfter)
  | refresh stopAfter =>
    show (w.refresh stopAfter).2.index.graph = _ ∨ (w.refresh stopAfter).2.index.graph = _
    rcases refresh_cases w stopAfter with ⟨e, -, h⟩ | ⟨-, h⟩
    · rw [h]; exact Or.inl rfl
    · rw [h]; exact Or.inr (Index.graph_refresh w.index w.tree stopAfter)
  | update file content =>
    show (w.updateFile file content).2.index.graph = _ ∨ (w.updateFile file content).2.index.graph = _
    unfold Workspace.updateFile
    cases w.tree.resolve file with
    | error e => exact Or.inl rfl
    | ok place =>
      simp only
      rcases Index.updateFile_cases w.index w.tree place content with ⟨e, h, -⟩ | ⟨e, c, h, -⟩
      · rw [h]; exact Or.inl rfl
      · rw [h]; exact Or.inr rfl
  | remove file =>
    show (w.removeFile file).2.index.graph = _ ∨ (w.removeFile file).2.index.graph = _
    unfold Workspace.removeFile Index.removeFile
    cases w.tree.resolve file with
    | error e => exact Or.inl rfl
    | ok place =>
      simp only
      split
      · exact Or.inr rfl
      · exact Or.inl rfl
  | query => exact absurd rfl hquery
  | rebuildGraph => exact absurd rfl hmake
  | save database time => exact absurd rfl (hsave database time)
  | load database => exact absurd rfl (hload database)
  | close => exact Or.inr rfl

theorem Savable.act (h : w.Holding Savable) {a : Action} (hp : ∀ p ∈ a.paths, p.Proper) :
    Savable (w.act a).index := by
  have hkept : Kept (w.act a).index := Kept.act (h.mono fun _ hi => hi.kept) hp
  have hstays (hg : (w.act a).index.graph = w.index.graph ∨ (w.act a).index.graph = none) :
      Savable (w.act a).index := by
    rcases hg with hg | hg
    · exact ⟨hkept, fun g hs => h.index.built g (hg ▸ hs)⟩
    · exact savable_of_none hkept hg
  cases a with
  | query => exact h.index.withGraph
  | save database time => exact h.index.withGraph
  | rebuildGraph =>
    refine ⟨hkept, fun g hg => ?_⟩
    cases hg
    exact ⟨w.index.allModules, w.index.allInstances, Graph.Agrees.refl _⟩
  | load database =>
    refine ⟨hkept, fun g hg => ?_⟩
    rcases load_cases w (hp database (by simp [Action.paths])) with hl | ⟨d, s, hd, hs, hl⟩
    · rw [show (w.act (.load database)).index = w.index from hl] at hg
      exact h.index.built g hg
    · rw [show (w.act (.load database)).index = w.index.restore s from hl] at hg
      -- what was saved is an index of this kind, whose graph comes back up to the order of parents
      rcases h.saved d hd with rfl | ⟨i, hi, hd⟩
      · cases hs
      · obtain ⟨g', hg', ha⟩ := Index.graph_of_snapshot hi.kept.root hi.built hd hs hg
        obtain ⟨ms, is, hb⟩ := hi.built g' hg'
        exact ⟨ms, is, ha.trans hb⟩
  | build directory stopAfter => exact hstays (graph_act (by simp) (by simp) (by simp) (by simp))
  | refresh stopAfter => exact hstays (graph_act (by simp) (by simp) (by simp) (by simp))
  | update file content => exact hstays (graph_act (by simp) (by simp) (by simp) (by simp))
  | remove file => exact hstays (graph_act (by simp) (by simp) (by simp) (by simp))
  | close => exact hstays (graph_act (by simp) (by simp) (by simp) (by simp))

theorem Attainable.savable (h : Attainable w) : w.Holding Savable := by
  induction h with
  | start ht hd hn hr =>
    exact holding_new ht hd hn hr (savable_of_none (kept_new hn hr) (Index.eq_of_new hn ▸ rfl))
  | edit _ ht hd ih => exact ih.edit ht hd
  | adopt _ _ hd hp ih ih' => exact ih.adopt ih' hd hp
  | act _ hp ih => exact ih.act hp (Savable.act ih hp)
  | @setGraph w modules instances _ ih =>
    obtain ⟨hroot, copies, hr⟩ := ih.index.kept
    refine ⟨ih.wf, ih.config, ⟨⟨hroot, copies, hr.congr rfl rfl rfl rfl rfl rfl⟩, fun g hg => ?_⟩,
      ih.saved⟩
    cases hg
    exact ⟨_, _, Graph.Agrees.refl _⟩

/-! ## Saving and loading -/

/-- Indexes with the same texts are refreshed alike, also over a tree that cannot be looked at from the
root on. -/
theorem refresh_alike {i j : Index} {copies copies' : Path → Option Copy} (hi : i.Represents copies)
    (hj : j.Represents copies') (ha : i.Alike j) (hc : i.config = j.config)
    (ht : textsOf copies = textsOf copies') (hroot : i.root.Resolved) {tree : FileTree} (hw : tree.WF)
    (stopAfter : Option Int) :
    (refresh ⟨tree, i⟩ stopAfter).1 = (refresh ⟨tree, j⟩ stopAfter).1 ∧
      (refresh ⟨tree, i⟩ stopAfter).2.index.Alike (refresh ⟨tree, j⟩ stopAfter).2.index := by
  unfold refresh
  simp only [ha.root]
  cases tree.survey j.root with
  | error e => exact ⟨rfl, ha⟩
  | ok found =>
    have hsame : (i.refresh tree stopAfter).2 = (j.refresh tree stopAfter).2 :=
      hi.refresh_snd_eq hj ha.root hc ht stopAfter
    exact ⟨congrArg Except.ok hsame, hi.alike_refresh hj ha.root hc ht hroot hw stopAfter⟩

theorem withGraph_eq (i : Index) :
    i.withGraph = (i.withGraph.1, { i with graph := some i.withGraph.1 }) := by
  unfold Index.withGraph
  split
  · rename_i g hg
    rw [← hg]
  · rfl

/-- Saving writes an index that differs at most by its graph, which is made if there is none. -/
theorem save_eq (w : Workspace) (database : Path) (time : String) :
    w.save database time =
      ((w.tree.saveSnapshot database time (.ofIndex { w.index with graph := some w.index.withGraph.1 }
          (some w.index.withGraph.1))).1,
        ⟨(w.tree.saveSnapshot database time (.ofIndex { w.index with graph := some w.index.withGraph.1 }
          (some w.index.withGraph.1))).2, { w.index with graph := some w.index.withGraph.1 }⟩) := by
  unfold save
  rw [withGraph_eq w.index]

/-- What a save has written is read back, with a graph that agrees with the one of the index. -/
theorem loadSnapshot_of_save (h : Savable w.index) {database : Path} {time : String}
    {saved : Workspace} (hs : w.save database time = (.ok (), saved)) :
    ∃ g, g.Agrees w.index.withGraph.1 ∧ saved.tree.loadSnapshot database =
      (.ok ⟨w.index.root, w.index.table.list, w.index.allModules, w.index.allInstances,
        Database.sortRecords w.index.records, some g⟩, saved.tree) := by
  obtain ⟨ms, is, hb⟩ := h.built_withGraph
  rw [save_eq, Prod.mk.injEq] at hs
  obtain ⟨hreply, rfl⟩ := hs
  let kept : Index := { w.index with graph := some w.index.withGraph.1 }
  have hsaved : w.tree.saveSnapshot database time (.ofIndex kept kept.graph) =
      (.ok (), (w.tree.saveSnapshot database time (.ofIndex kept kept.graph)).2) := Prod.ext hreply rfl
  obtain ⟨old, hopens⟩ := FileTree.opens_of_saveSnapshot hsaved
  obtain ⟨g, hagrees, hsnapshot⟩ :=
    Index.snapshot_saved (rfl : kept.graph = _) hb h.kept.root time old
  refine ⟨g, hagrees, ?_⟩
  have hload := hopens.loadSnapshot
  rw [hsnapshot] at hload
  exact hload

/-- An index that was saved can be loaded into any index with the same settings. What is loaded answers
every question as the saved index did, and a refresh over any tree counts and reports the same for
both and leaves them alike. -/
theorem load_save (h : Attainable w) {database : Path} (hp : database.Proper) {time : String}
    {saved : Workspace} (hs : w.save database time = (.ok (), saved)) {other : Index}
    (hother : other.config = w.index.config) :
    ∃ loaded, load ⟨saved.tree, other⟩ database = (.ok (), loaded) ∧ loaded.tree = saved.tree ∧
      loaded.tree.WF ∧ loaded.index.Alike w.index ∧
      ∀ tree : FileTree, tree.WF → ∀ stopAfter,
        (refresh ⟨tree, loaded.index⟩ stopAfter).1 = (refresh ⟨tree, w.index⟩ stopAfter).1 ∧
        (refresh ⟨tree, loaded.index⟩ stopAfter).2.index.Alike
          (refresh ⟨tree, w.index⟩ stopAfter).2.index := by
  have hheld := h.savable
  obtain ⟨hroot, copies, hr⟩ := hheld.index.kept
  have hwf : saved.tree.WF := by
    have hpaths : ∀ p ∈ (Action.save database time).paths, p.Proper := fun p hm =>
      List.mem_singleton.1 hm ▸ hp
    have hact := (tree_act w hpaths).1 hheld.wf
    rwa [show w.act (.save database time) = saved from congrArg Prod.snd hs] at hact
  obtain ⟨g, hagrees, hload⟩ := loadSnapshot_of_save hheld.index hs
  let found : Snapshot := ⟨w.index.root, w.index.table.list, w.index.allModules,
    w.index.allInstances, Database.sortRecords w.index.records, some g⟩
  have hrestored : (other.restore found).Represents fun f => (copies f).map Copy.saved :=
    hr.restore other (some g)
  have htexts := textsOf_saved copies
  have halike : (other.restore found).Alike w.index := hrestored.alike hr rfl htexts hagrees
  refine ⟨⟨_, other.restore found⟩, ?_, rfl, hwf, halike, fun tree hw stopAfter => ?_⟩
  · unfold load
    rw [hload]
  exact refresh_alike hrestored hr halike hother htexts hroot hw stopAfter

/-- An index that has taken in another file than the one of the small run. -/
def otherModule : Index :=
  (blank.act (.update ⟨.root, ["r", "b.v"]⟩ (some "module n; endmodule"))).index

/-- The small run is saved and loaded in place of another index. -/
theorem load_save_oneModule : ∃ saved loaded,
    oneModule.save ⟨.root, ["r", "index.db"]⟩ "now" = (.ok (), saved) ∧
      load ⟨saved.tree, otherModule⟩ ⟨.root, ["r", "index.db"]⟩ = (.ok (), loaded) ∧
      loaded.index.Alike oneModule.index ∧
      (refresh ⟨onDisk, loaded.index⟩ none).2.index.Alike (refresh ⟨onDisk, oneModule.index⟩ none).2.index := by
  have hreply : (oneModule.save ⟨.root, ["r", "index.db"]⟩ "now").1.toOption = some () := by
    decide +kernel
  cases hs : oneModule.save ⟨.root, ["r", "index.db"]⟩ "now" with
  | mk reply saved =>
    rw [hs] at hreply
    cases reply with
    | error e => cases hreply
    | ok u =>
      have hconfig : otherModule.config = oneModule.index.config :=
        (config_act blank _).trans (config_act blank _).symm
      obtain ⟨loaded, hload, -, -, halike, hrefresh⟩ := load_save reachable_oneModule.attainable
        (by decide) hs hconfig
      exact ⟨saved, loaded, rfl, hload, halike, (hrefresh onDisk wf_onDisk none).2⟩

end Workspace

end RtlAtlas
