/-
Runs of a workspace. A run starts with an empty index at a resolved root and goes on with anything
that can be done with an index, failing or stopped or not; between two steps the tree may be edited
in any way, and databases that other runs have saved may be put into it. `ReachableBy.holds` is the
principle by which everything about such runs is shown: what every step keeps holds of every index
reached, and of the index that any database saves.
-/
import RtlAtlas.Proofs.Index.Run
import RtlAtlas.Proofs.Store.Reload
import RtlAtlas.Workspace

namespace RtlAtlas

/-- A database saves an index if saving the index, with its graph, has written it. -/
def Database.Saves (d : Database) (i : Index) : Prop :=
  ∃ time old, d = (Snapshot.ofIndex i i.graph).replace time old

namespace Workspace

/-- What can be done with an index. -/
inductive Action where
  | build (directory : Option Path) (stopAfter : Option Int)
  | refresh (stopAfter : Option Int)
  | update (file : Path) (content : Option String)
  | remove (file : Path)
  /-- Any question that needs the graph of modules; the others leave no trace. -/
  | query
  /-- Makes the graph anew from everything indexed. -/
  | rebuildGraph
  | save (database : Path) (time : String)
  | load (database : Path)
  | close
  deriving DecidableEq, Repr

/-- The paths that an action is given. -/
def Action.paths : Action → List Path
  | .build directory _ => directory.toList
  | .update file _ => [file]
  | .remove file => [file]
  | .save database _ => [database]
  | .load database => [database]
  | _ => []

/-- The workspace after an action, also when the action raises. -/
def act (w : Workspace) : Action → Workspace
  | .build directory stopAfter => (w.build directory stopAfter).2
  | .refresh stopAfter => (w.refresh stopAfter).2
  | .update file content => (w.updateFile file content).2
  | .remove file => (w.removeFile file).2
  | .query => { w with index := w.index.withGraph.2 }
  | .rebuildGraph => { w with index := w.index.setGraph none none }
  | .save database time => (w.save database time).2
  | .load database => (w.load database).2
  | .close => { w with index := w.index.close }

/-- The workspaces that runs of allowed actions lead to. -/
inductive ReachableBy (allowed : Workspace → Action → Prop) : Workspace → Prop
  /-- A run starts with an empty index, at a tree without saved indexes. -/
  | start {tree : FileTree} {config : Config} {index : Index} :
    tree.WF → (∀ d, tree.Holds d → d = .empty) → Index.new config = .ok index →
    config.root.Resolved → ReachableBy allowed ⟨tree, index⟩
  /-- The tree changes in any way that makes up no saved index. -/
  | edit {w : Workspace} {tree : FileTree} :
    ReachableBy allowed w → tree.WF → (∀ d, tree.Holds d → w.tree.Holds d ∨ d = .empty) →
    ReachableBy allowed ⟨tree, w.index⟩
  /-- A database comes over from another run. -/
  | adopt {w v : Workspace} {d : Database} {place : Path} :
    ReachableBy allowed w → ReachableBy allowed v → v.tree.Holds d → place.Resolved →
    ReachableBy allowed ⟨w.tree.put place (.database d), w.index⟩
  | act {w : Workspace} {a : Action} :
    ReachableBy allowed w → (∀ p ∈ a.paths, p.Proper) → allowed w a → ReachableBy allowed (w.act a)

/-- The workspaces that any run leads to. -/
def Reachable (w : Workspace) : Prop := ReachableBy (fun _ _ => True) w

theorem ReachableBy.mono {allowed allowed' : Workspace → Action → Prop} {w : Workspace}
    (h : ReachableBy allowed w) (hall : ∀ v a, allowed v a → allowed' v a) : ReachableBy allowed' w := by
  induction h with
  | start ht hd hn hr => exact .start ht hd hn hr
  | edit _ ht hd ih => exact .edit ih ht hd
  | adopt _ _ hd hp ih ih' => exact .adopt ih ih' hd hp
  | act _ hp ha ih => exact .act ih hp (hall _ _ ha)

/-! ## A small run -/

/-- The workspace before a small run: the empty index at `/r` over the empty tree. -/
def blank : Workspace := ⟨.empty, { config := { root := ⟨.root, ["r"]⟩ }, root := ⟨.root, ["r"]⟩ }⟩

/-- The workspace after one module was handed over for `/r/a.v`. -/
def oneModule : Workspace := blank.act (.update ⟨.root, ["r", "a.v"]⟩ (some "module m; endmodule"))

theorem wf_empty : FileTree.empty.WF := by decide

/-- The tree that holds the module of the small run on disk. -/
def onDisk : FileTree := FileTree.empty.write ⟨.root, ["r", "a.v"]⟩ (Text.bytesOf "module m; endmodule")

theorem wf_onDisk : onDisk.WF := wf_empty.put (by decide) rfl

theorem reachableBy_blank (allowed : Workspace → Action → Prop) : ReachableBy allowed blank :=
  .start wf_empty (fun d hd => absurd hd (FileTree.not_holds_empty d))
    (rfl : Index.new blank.index.config = _) (by decide)

theorem reachable_oneModule : Reachable oneModule :=
  .act (reachableBy_blank _) (by decide) trivial

/-! ## What actions leave alone -/

/-- A build raises at once, or after it has emptied the index, or gives an answer. -/
theorem build_cases (w : Workspace) (directory : Option Path) (stopAfter : Option Int) :
    (∃ e, w.build directory stopAfter = (.error e, w)) ∨
    ∃ root, w.tree.resolve (directory.getD w.index.config.root) = .ok root ∧
      ((∃ e, w.tree.survey root = .error e ∧ w.build directory stopAfter =
          (.error e, { w with index := { w.index.clear with root := root } })) ∨
        w.tree.survey root = .ok () ∧ w.build directory stopAfter =
          (.ok (w.index.build w.tree (some root) stopAfter).2,
            { w with index := (w.index.build w.tree (some root) stopAfter).1 })) := by
  unfold Workspace.build
  cases w.tree.resolve (directory.getD w.index.config.root) with
  | error e => exact Or.inl ⟨e, rfl⟩
  | ok root =>
    refine Or.inr ⟨root, rfl, ?_⟩
    cases hsurvey : w.tree.survey root with
    | error e => exact Or.inl ⟨e, rfl, by simp only [hsurvey]⟩
    | ok found => exact Or.inr ⟨rfl, by simp only [hsurvey]⟩

/-- A refresh raises and changes nothing, or gives an answer. -/
theorem refresh_cases (w : Workspace) (stopAfter : Option Int) :
    (∃ e, w.tree.survey w.index.root = .error e ∧ w.refresh stopAfter = (.error e, w)) ∨
    w.tree.survey w.index.root = .ok () ∧ w.refresh stopAfter =
      (.ok (w.index.refresh w.tree stopAfter).2,
        { w with index := (w.index.refresh w.tree stopAfter).1 }) := by
  unfold Workspace.refresh
  cases hsurvey : w.tree.survey w.index.root with
  | error e => exact Or.inl ⟨e, rfl, rfl⟩
  | ok found => exact Or.inr ⟨rfl, rfl⟩

theorem build_leaves (w : Workspace) (directory : Option Path) (stopAfter : Option Int) :
    (w.build directory stopAfter).2.tree = w.tree ∧
      (w.build directory stopAfter).2.index.config = w.index.config := by
  rcases build_cases w directory stopAfter with ⟨e, h⟩ | ⟨root, -, ⟨e, -, h⟩ | ⟨-, h⟩⟩
  · rw [h]; exact ⟨rfl, rfl⟩
  · rw [h]; exact ⟨rfl, rfl⟩
  · rw [h]; exact ⟨rfl, (Index.stays_build w.index w.tree root stopAfter).config⟩

theorem refresh_leaves (w : Workspace) (stopAfter : Option Int) :
    (w.refresh stopAfter).2.tree = w.tree ∧ (w.refresh stopAfter).2.index.config = w.index.config := by
  rcases refresh_cases w stopAfter with ⟨e, -, h⟩ | ⟨-, h⟩
  · rw [h]; exact ⟨rfl, rfl⟩
  · rw [h]; exact ⟨rfl, (Index.stays_refresh w.index w.tree stopAfter).config⟩

theorem updateFile_leaves (w : Workspace) (file : Path) (content : Option String) :
    (w.updateFile file content).2.tree = w.tree ∧
      (w.updateFile file content).2.index.config = w.index.config := by
  unfold Workspace.updateFile
  split
  · exact ⟨rfl, rfl⟩
  · rename_i place _
    exact ⟨rfl, (Index.stays_updateFile w.index w.tree place content).config⟩

theorem removeFile_leaves (w : Workspace) (file : Path) :
    (w.removeFile file).2.tree = w.tree ∧ (w.removeFile file).2.index.config = w.index.config := by
  unfold Workspace.removeFile
  split
  · exact ⟨rfl, rfl⟩
  · rename_i place _
    exact ⟨rfl, (Index.stays_removeFile w.index place).config⟩

theorem load_leaves (w : Workspace) (database : Path) :
    (w.load database).2.tree = (w.tree.loadSnapshot database).2 ∧
      (w.load database).2.index.config = w.index.config := by
  unfold Workspace.load
  split <;> rename_i h <;> rw [h] <;> exact ⟨rfl, rfl⟩

/-- The settings of an index stay for good. -/
theorem config_act (w : Workspace) (a : Action) : (w.act a).index.config = w.index.config := by
  cases a with
  | build directory stopAfter => exact (build_leaves w directory stopAfter).2
  | refresh stopAfter => exact (refresh_leaves w stopAfter).2
  | update file content => exact (updateFile_leaves w file content).2
  | remove file => exact (removeFile_leaves w file).2
  | query => exact (Index.stays_withGraph w.index).config
  | rebuildGraph => rfl
  | save database time => exact (Index.stays_withGraph w.index).config
  | load database => exact (load_leaves w database).2
  | close => rfl

theorem graph_withGraph (i : Index) : i.withGraph.2.graph = some i.withGraph.1 := by
  unfold Index.withGraph
  split
  · assumption
  · rfl

/-- Paths of the tree stay resolved, and an action brings no database into it but blank ones and the
one that saves the index it leaves. -/
theorem tree_act (w : Workspace) {a : Action} (hp : ∀ p ∈ a.paths, p.Proper) :
    (w.tree.WF → (w.act a).tree.WF) ∧ ∀ d, (w.act a).tree.Holds d →
      w.tree.Holds d ∨ d = .empty ∨ d.Saves (w.act a).index := by
  -- All but a save and a load leave the tree as it is.
  have same (h : (w.act a).tree = w.tree) : (w.tree.WF → (w.act a).tree.WF) ∧
      ∀ d, (w.act a).tree.Holds d → w.tree.Holds d ∨ d = .empty ∨ d.Saves (w.act a).index := by
    rw [h]
    exact ⟨id, fun d => Or.inl⟩
  cases a with
  | build directory stopAfter => exact same (build_leaves w directory stopAfter).1
  | refresh stopAfter => exact same (refresh_leaves w stopAfter).1
  | update file content => exact same (updateFile_leaves w file content).1
  | remove file => exact same (removeFile_leaves w file).1
  | query => exact same rfl
  | rebuildGraph => exact same rfl
  | close => exact same rfl
  | save database time =>
    have hs := FileTree.of_saveSnapshot (hp database (by simp [Action.paths])) w.tree time
      (.ofIndex w.index.withGraph.2 (some w.index.withGraph.1))
    refine ⟨hs.1, fun d hd => (hs.2 d hd).imp_right (Or.imp_right fun ⟨old, h⟩ => ⟨time, old, ?_⟩)⟩
    rw [h, ← graph_withGraph]
    rfl
  | load database =>
    have hk := FileTree.keeps_loadSnapshot (hp database (by simp [Action.paths])) w.tree
    rw [show (w.act (.load database)).tree = _ from (load_leaves w database).1]
    exact ⟨hk.wf, fun d hd => (hk.holds d hd).imp_right Or.inl⟩

/-! ## What runs keep -/

/-- A workspace whose index has a property, as has every index saved in its tree. -/
structure Holding (P : Index → Prop) (w : Workspace) : Prop where
  wf : w.tree.WF
  config : w.index.config.root.Resolved
  index : P w.index
  saved : ∀ d, w.tree.Holds d → d = .empty ∨ ∃ i, P i ∧ d.Saves i

section Holding

variable {P : Index → Prop} {w v : Workspace}

theorem Holding.mono {Q : Index → Prop} (h : w.Holding P) (hPQ : ∀ i, P i → Q i) : w.Holding Q :=
  ⟨h.wf, h.config, hPQ _ h.index, fun d hd =>
    (h.saved d hd).imp_right fun ⟨i, hi, hs⟩ => ⟨i, hPQ i hi, hs⟩⟩

/-- A build is given a proper path for its root, by itself or by the settings. -/
theorem Holding.proper_root (h : w.Holding P) {directory : Option Path} {stopAfter : Option Int}
    (hp : ∀ p ∈ (Action.build directory stopAfter).paths, p.Proper) :
    (directory.getD w.index.config.root).Proper := by
  cases directory with
  | none => exact h.config.proper
  | some p => exact hp p (by simp [Action.paths])

theorem holding_new {tree : FileTree} {config : Config} {index : Index} (ht : tree.WF)
    (hd : ∀ d, tree.Holds d → d = .empty) (hn : Index.new config = .ok index)
    (hr : config.root.Resolved) (hP : P index) : Holding P ⟨tree, index⟩ := by
  obtain rfl := Index.eq_of_new hn
  exact ⟨ht, hr, hP, fun d h => Or.inl (hd d h)⟩

theorem Holding.edit (h : w.Holding P) {tree : FileTree} (ht : tree.WF)
    (hd : ∀ d, tree.Holds d → w.tree.Holds d ∨ d = .empty) : Holding P ⟨tree, w.index⟩ :=
  ⟨ht, h.config, h.index, fun d hh => (hd d hh).elim (h.saved d) Or.inl⟩

theorem Holding.adopt (h : w.Holding P) (h' : v.Holding P) {d : Database} {place : Path}
    (hd : v.tree.Holds d) (hp : place.Resolved) :
    Holding P ⟨w.tree.put place (.database d), w.index⟩ := by
  refine ⟨h.wf.put hp rfl, h.config, h.index, fun d' hd' => ?_⟩
  rcases FileTree.holds_putAt hd' with hd' | hd'
  · -- what was brought over lay in the tree of the other run
    cases hd'
    exact h'.saved _ hd
  · exact h.saved d' hd'

theorem Holding.act (h : w.Holding P) {a : Action} (hp : ∀ p ∈ a.paths, p.Proper)
    (hP : P (w.act a).index) : (w.act a).Holding P := by
  obtain ⟨hwf, hsaved⟩ := tree_act w hp
  refine ⟨hwf h.wf, config_act w a ▸ h.config, hP, fun d hd => ?_⟩
  rcases hsaved d hd with hd | hd | hd
  · exact h.saved d hd
  · exact Or.inl hd
  · -- the action has saved the index that it leaves
    exact Or.inr ⟨_, hP, hd⟩

end Holding

/-- A property of indexes that new ones have and every allowed action keeps holds throughout. -/
theorem ReachableBy.holds {allowed : Workspace → Action → Prop} {P : Index → Prop}
    (new : ∀ config index, Index.new config = .ok index → config.root.Resolved → P index)
    (step : ∀ w a, w.Holding P → (∀ p ∈ a.paths, p.Proper) → allowed w a → P (w.act a).index)
    {w : Workspace} (h : ReachableBy allowed w) : w.Holding P := by
  induction h with
  | start ht hd hn hr => exact holding_new ht hd hn hr (new _ _ hn hr)
  | edit _ ht hd ih => exact ih.edit ht hd
  | adopt _ _ hd hp ih ih' => exact ih.adopt ih' hd hp
  | @act w a _ hp ha ih => exact ih.act hp (step w a ih hp ha)

end Workspace

end RtlAtlas
