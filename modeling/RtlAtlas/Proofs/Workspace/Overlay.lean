/-
The texts held in memory, told by the history of a run. An update with a text puts it over the file on
disk; taking the file in from disk, removing it, building, loading and closing take the text away again,
and what fails changes nothing. `Supplies` carries these texts along a run, and an index holds just
them.
-/
import RtlAtlas.Proofs.Index.Refresh
import RtlAtlas.Proofs.Workspace.Coherence

namespace RtlAtlas

open OrderedMap

namespace Index

variable {i j : Index} {copies copies' : Path → Option Copy} {tree : FileTree} {file : Path}

theorem Represents.contents_eq (h : i.Represents copies) :
    i.contents.get? = fun f => (copies f).bind Copy.kept := funext h.contents

/-- Nothing is held in memory of a file that was read from disk. -/
theorem kept_diskCopy (tree : FileTree) (file : Path) : (diskCopy tree file).bind Copy.kept = none := by
  unfold diskCopy
  cases (extractFile tree file).toOption <;> rfl

/-- What is held in memory after an update is the text that it was given. -/
theorem kept_offered {content : Option String} {c : Copy} (h : offered tree file content = some c) :
    c.kept = content := by
  cases content with
  | none =>
    have := kept_diskCopy tree file
    rwa [show diskCopy tree file = some c from h] at this
  | some text =>
    simp only [offered, Option.ite_none_left_eq_some, Option.some.injEq] at h
    rw [← h.2]
    exact congrArg some String.ofList_toList

/-- Only the text of the file whose copy changes is another one. -/
theorem Represents.contents_update (h : i.Represents copies) {copy : Option Copy}
    (hj : j.Represents (Function.update copies file copy)) :
    j.contents.get? = Function.update i.contents.get? file (copy.bind Copy.kept) := by
  funext f
  rw [hj.contents]
  by_cases hf : f = file
  · subst hf; rw [Function.update_self, Function.update_self]
  · rw [Function.update_of_ne hf, Function.update_of_ne hf, h.contents]

end Index

namespace Workspace

/-- A file that a refresh drops, or takes in anew. -/
def Renewed (w : Workspace) (stopAfter : Option Int) (f : Path) : Prop :=
  f ∈ w.index.dropped w.tree ∨
    f ∈ Index.reached stopAfter 0 (w.index.fresh w.tree) ∧ (diskCopy w.tree f).isSome = true

instance (w : Workspace) (stopAfter : Option Int) (f : Path) : Decidable (w.Renewed stopAfter f) :=
  inferInstanceAs (Decidable (_ ∨ _))

/-- The texts supplied for files after an action: for each file the one that the last successful update
of it came with, if it came with one. -/
def suppliedBy (w : Workspace) (a : Action) (supplied : Path → Option String) : Path → Option String :=
  match a with
  | .update file content =>
    match w.tree.resolve file, (w.updateFile file content).1 with
    | .ok place, .ok _ => Function.update supplied place content
    | _, _ => supplied
  | .remove file =>
    match w.tree.resolve file with
    | .ok place => Function.update supplied place none
    | .error _ => supplied
  | .build directory _ =>
    match w.tree.resolve (directory.getD w.index.config.root) with
    | .ok _ => fun _ => none
    | .error _ => supplied
  | .refresh stopAfter =>
    match (w.refresh stopAfter).1 with
    | .ok _ => fun f => if w.Renewed stopAfter f then none else supplied f
    | .error _ => supplied
  | .load database =>
    match (w.load database).1 with
    | .ok _ => fun _ => none
    | .error _ => supplied
  | .close => fun _ => none
  | .query | .rebuildGraph | .save _ _ => supplied

/-- The workspaces that runs lead to, with the texts supplied for their files. -/
inductive Supplies : Workspace → (Path → Option String) → Prop
  | start {tree : FileTree} {config : Config} {index : Index} :
    tree.WF → (∀ d, tree.Holds d → d = .empty) → Index.new config = .ok index →
    config.root.Resolved → Supplies ⟨tree, index⟩ fun _ => none
  | edit {w : Workspace} {supplied : Path → Option String} {tree : FileTree} :
    Supplies w supplied → tree.WF → (∀ d, tree.Holds d → w.tree.Holds d ∨ d = .empty) →
    Supplies ⟨tree, w.index⟩ supplied
  | adopt {w v : Workspace} {supplied : Path → Option String} {d : Database} {place : Path} :
    Supplies w supplied → v.Reachable → v.tree.Holds d → place.Resolved →
    Supplies ⟨w.tree.put place (.database d), w.index⟩ supplied
  | act {w : Workspace} {supplied : Path → Option String} {a : Action} :
    Supplies w supplied → (∀ p ∈ a.paths, p.Proper) → Supplies (w.act a) (w.suppliedBy a supplied)

variable {w : Workspace} {supplied : Path → Option String}

theorem Supplies.reachable (h : w.Supplies supplied) : w.Reachable := by
  induction h with
  | start ht hd hn hr => exact .start ht hd hn hr
  | edit _ ht hd ih => exact .edit ih ht hd
  | adopt _ hv hd hp ih => exact .adopt ih hv hd hp
  | act _ hp ih => exact .act ih hp trivial

/-- Every run supplies some texts. -/
theorem Reachable.exists_supplies (h : w.Reachable) : ∃ supplied, w.Supplies supplied := by
  induction h with
  | start ht hd hn hr => exact ⟨_, .start ht hd hn hr⟩
  | edit _ ht hd ih => exact ih.imp fun _ hs => .edit hs ht hd
  | adopt _ hv hd hp ih _ => exact ih.imp fun _ hs => .adopt hs hv hd hp
  | act _ hp _ ih =>
    obtain ⟨_, hs⟩ := ih
    exact ⟨_, .act hs hp⟩

/-! ## What is held is what was supplied -/

theorem contents_updateFile (hw : w.tree.WF) (h : Kept w.index) {file : Path} (hp : file.Proper)
    (content : Option String) : (w.act (.update file content)).index.contents.get? =
      w.suppliedBy (.update file content) w.index.contents.get? := by
  obtain ⟨-, copies, hc⟩ := h
  show (w.updateFile file content).2.index.contents.get? = _
  simp only [suppliedBy, Workspace.updateFile]
  cases hplace : w.tree.resolve file with
  | error e => rfl
  | ok place =>
    have hfile := (FileTree.isPlace_of_resolve hw hp hplace).resolved
    have hupdate := hc.updateFile w.tree hfile content
    rcases Index.updateFile_cases w.index w.tree place content with ⟨e, hu, -⟩ | ⟨e, c, hu, ho, -⟩
    · simp only [hu]
    · rw [ho, Option.some_or] at hupdate
      have hcontents := hc.contents_update hupdate
      rw [Option.bind_some, Index.kept_offered ho] at hcontents
      simp only [hu] at hcontents ⊢
      exact hcontents

theorem contents_removeFile (h : Kept w.index) (file : Path) :
    (w.act (.remove file)).index.contents.get? =
      w.suppliedBy (.remove file) w.index.contents.get? := by
  obtain ⟨-, copies, hc⟩ := h
  show (w.removeFile file).2.index.contents.get? = _
  simp only [suppliedBy, Workspace.removeFile]
  cases w.tree.resolve file with
  | error e => rfl
  | ok place => exact hc.contents_update (hc.removeFile place)

/-- After a build every file is as it is on disk. -/
theorem contents_build (hw : w.tree.WF) {directory : Option Path}
    (hp : (directory.getD w.index.config.root).Proper) (stopAfter : Option Int) :
    (w.act (.build directory stopAfter)).index.contents.get? =
      w.suppliedBy (.build directory stopAfter) w.index.contents.get? := by
  show (w.build directory stopAfter).2.index.contents.get? = _
  simp only [suppliedBy, Workspace.build]
  cases hplace : w.tree.resolve (directory.getD w.index.config.root) with
  | error e => rfl
  | ok root =>
    have hroot := (FileTree.isPlace_of_resolve hw hp hplace).resolved
    cases hsurvey : w.tree.survey root with
    | error e => simp only [hsurvey]; rfl
    | ok found =>
      simp only [hsurvey]
      rw [(Index.Represents.build w.index hw hroot stopAfter).contents_eq]
      funext f
      unfold takenFrom
      split
      · rw [Option.or_none, Index.kept_diskCopy]
      · rfl

theorem contents_refresh (hw : w.tree.WF) (h : Kept w.index) (stopAfter : Option Int) :
    (w.act (.refresh stopAfter)).index.contents.get? =
      w.suppliedBy (.refresh stopAfter) w.index.contents.get? := by
  obtain ⟨hroot, copies, hc⟩ := h
  show (w.refresh stopAfter).2.index.contents.get? = _
  simp only [suppliedBy]
  rcases refresh_cases w stopAfter with ⟨e, -, hr⟩ | ⟨-, hr⟩
  · rw [hr]
  · rw [hr]
    simp only
    rw [(hc.refresh hroot hw stopAfter).contents_eq]
    funext f
    simp only [Index.refreshedCopies, takenFrom, without, hc.contents, Renewed]
    have hdisk := Index.kept_diskCopy w.tree f
    by_cases hreached : f ∈ Index.reached stopAfter 0 (w.index.fresh w.tree)
    · -- a file that is taken in holds no text, and one that cannot be is as it was, unless dropped
      cases hcopy : diskCopy w.tree f with
      | none => by_cases hdropped : f ∈ w.index.dropped w.tree <;> simp [hdropped]
      | some c =>
        rw [hcopy] at hdisk
        simpa [hreached] using hdisk
    · by_cases hdropped : f ∈ w.index.dropped w.tree <;> simp [hdropped, hreached]

theorem contents_load (database : Path) : (w.act (.load database)).index.contents.get? =
    w.suppliedBy (.load database) w.index.contents.get? := by
  show (w.load database).2.index.contents.get? = _
  simp only [suppliedBy, Workspace.load]
  rcases w.tree.loadSnapshot database with ⟨e | s, tree⟩ <;> rfl

theorem contents_act (h : w.Holding Kept) {a : Action} (hp : ∀ p ∈ a.paths, p.Proper) :
    (w.act a).index.contents.get? = w.suppliedBy a w.index.contents.get? := by
  have hgraph : w.index.withGraph.2.contents = w.index.contents := by
    unfold Index.withGraph
    split <;> rfl
  cases a with
  | build directory stopAfter => exact contents_build h.wf (h.proper_root hp) stopAfter
  | refresh stopAfter => exact contents_refresh h.wf h.index stopAfter
  | update file content =>
    exact contents_updateFile h.wf h.index (hp file (by simp [Action.paths])) content
  | remove file => exact contents_removeFile h.index file
  | query => exact congrArg OrderedMap.get? hgraph
  | rebuildGraph => rfl
  | save database time => exact congrArg OrderedMap.get? hgraph
  | load database => exact contents_load database
  | close => rfl

/-- An index holds in memory what its run has supplied. -/
theorem Supplies.contents (h : w.Supplies supplied) : w.index.contents.get? = supplied := by
  induction h with
  | start _ _ hn _ => rw [Index.eq_of_new hn]; rfl
  | edit _ _ _ ih => exact ih
  | adopt _ _ _ _ ih => exact ih
  | act hs hp ih => rw [contents_act hs.reachable.kept hp, ih]

end Workspace

end RtlAtlas
