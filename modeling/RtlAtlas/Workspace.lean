/-
An index together with the tree of files it describes. Whatever touches both is here: making an index
for a directory, searching, saving and loading. An operation gives its answer and what it leaves
behind, also when it fails.
-/
import RtlAtlas.Config.Load
import RtlAtlas.Index.Update
import RtlAtlas.Search.Engine
import RtlAtlas.Search.Installed
import RtlAtlas.Store.Storage

namespace RtlAtlas

/-- What the surroundings of a run provide. -/
structure Surroundings where
  /-- The working directory. -/
  directory : Path
  /-- Where the environment wants the index saved. -/
  database : Option String := none
  /-- The time of saving, as it is told later. -/
  time : String
  deriving DecidableEq, Repr

namespace Index

/-- The search tools of an index, in the order of its settings; `here` is the working directory, if it
lies in the tree. -/
def backends (i : Index) (tree : FileTree) (here : Option Path) : List Search.Backend :=
  i.config.backends.filterMap (Search.backend? tree i.root here)

def search (i : Index) (tree : FileTree) (here : Option Path) (query : String)
    (mode : Option String) : Except Error (List Search.Hit) :=
  Search.search i.table (i.backends tree here) i.scope i.config.maxTextResults query mode

/-- Where the index is saved: where it is told to, else as its settings say. -/
def databaseAt (i : Index) (around : Surroundings) (told : Option Path) : Path :=
  told.getD (i.config.database around.database)

end Index

/-- A tree of files and an index. -/
structure Workspace where
  tree : FileTree
  index : Index
  deriving DecidableEq, Repr

namespace Workspace

/-- The empty index of the repository in a directory. -/
def forDirectory (tree : FileTree) (directory : Path) : Except Error Index := do
  Index.new (← Config.load tree directory)

/-- Indexes a directory, by default the one of the settings, starting from nothing. One that cannot
be looked at becomes the root of an empty index. -/
def build (w : Workspace) (directory : Option Path) (stopAfter : Option Int) :
    Except Error (Stats × List Progress) × Workspace :=
  match w.tree.resolve (directory.getD w.index.config.root) with
  | .error e => (.error e, w)
  | .ok root =>
    match w.tree.survey root with
    | .error e => (.error e, { w with index := { w.index.clear with root := root } })
    | .ok _ =>
      let (i, counted, reports) := w.index.build w.tree (some root) stopAfter
      (.ok (counted, reports), { w with index := i })

/-- Brings the index up to date with the tree. -/
def refresh (w : Workspace) (stopAfter : Option Int) :
    Except Error (Stats × List Progress) × Workspace :=
  match w.tree.survey w.index.root with
  | .error e => (.error e, w)
  | .ok _ =>
    let (i, counted, reports) := w.index.refresh w.tree stopAfter
    (.ok (counted, reports), { w with index := i })

/-- Takes one file in, from the tree or with a text handed over; on failure nothing changes. -/
def updateFile (w : Workspace) (file : Path) (content : Option String) :
    Except Error Stats × Workspace :=
  match w.tree.resolve file with
  | .error e => (.error e, w)
  | .ok place =>
    let (reply, i) := w.index.updateFile w.tree place content
    (reply, { w with index := i })

/-- Drops a file; tells whether anything was known of it. -/
def removeFile (w : Workspace) (file : Path) : Except Error Bool × Workspace :=
  match w.tree.resolve file with
  | .error e => (.error e, w)
  | .ok place =>
    let (known, i) := w.index.removeFile place
    (.ok known, { w with index := i })

/-- Saves the index, with a graph that is up to date. -/
def save (w : Workspace) (database : Path) (time : String) : Except Error Unit × Workspace :=
  let (g, i) := w.index.withGraph
  let (reply, tree) := w.tree.saveSnapshot database time (.ofIndex i (some g))
  (reply, ⟨tree, i⟩)

/-- Saves the index without its graph. -/
def saveBare (w : Workspace) (database : Path) (time : String) : Except Error Unit × Workspace :=
  let (reply, tree) := w.tree.saveSnapshot database time (.ofIndex w.index none)
  (reply, { w with tree := tree })

/-- Puts a saved index in place of the one at hand; if that fails the index stays as it is. -/
def load (w : Workspace) (database : Path) : Except Error Unit × Workspace :=
  match w.tree.loadSnapshot database with
  | (.ok s, tree) => (.ok (), ⟨tree, w.index.restore s⟩)
  | (.error e, tree) => (.error e, { w with tree := tree })

/-- Opens the saved index of the repository in a directory. -/
def openSaved (around : Surroundings) (tree : FileTree) (directory : Path) :
    Except Error Index × FileTree :=
  match forDirectory tree directory with
  | .error e => (.error e, tree)
  | .ok i =>
    match load ⟨tree, i⟩ (i.config.database around.database) with
    | (.ok (), w) => (.ok w.index, w.tree)
    | (.error e, w) => (.error e, w.tree)

end Workspace

end RtlAtlas
