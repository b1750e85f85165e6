/-
The index of a repository: the symbols, modules and instances of every indexed file, a record of
what each file held, and the texts that were handed over in memory. The graph of modules is kept
until the indexed files change, and made anew when it is asked for.
-/
import RtlAtlas.Config
import RtlAtlas.Graph.Build
import RtlAtlas.Search.Backend
import RtlAtlas.Store.Database
import RtlAtlas.Symbol.Table

namespace RtlAtlas

/-- The index of a repository. -/
structure Index where
  config : Config
  /-- The directory that symbols are named relative to. -/
  root : Path
  table : Table := .empty
  modules : OrderedMap Path (List ModuleDef) := .empty
  instances : OrderedMap Path (List Instance) := .empty
  /-- The digest of what each indexed file held. -/
  hashes : OrderedMap Path String := .empty
  /-- The texts of files that were handed over in memory. -/
  contents : OrderedMap Path String := .empty
  /-- The graph, if it is up to date. -/
  graph : Option Graph := none
  /-- Whether text search looks at the indexed files; it does once something was indexed. -/
  searchable : Bool := false
  deriving DecidableEq, Repr

namespace Index

def new (config : Config) : Except Error Index :=
  match Search.checkNames config.backends with
  | .ok _ => .ok { config := config, root := config.root }
  | .error _ => .error (.config (.unknownBackends (Search.unknownNames config.backends)))

/-- The values of a map from files, file by file in the order of components. -/
def byFile {α : Type} (m : OrderedMap Path (List α)) : List α :=
  (Path.sortByParts m.keys).flatMap fun f => (m.get? f).getD []

/-- All modules, file by file. -/
def allModules (i : Index) : List ModuleDef := byFile i.modules

/-- All instances, file by file. -/
def allInstances (i : Index) : List Instance := byFile i.instances

/-- The record of every indexed file, by its components. -/
def records (i : Index) : List FileRecord :=
  (Path.sortByParts i.hashes.keys).map fun f => ⟨f, (i.hashes.get? f).getD ""⟩

/-- The graph of everything indexed. -/
def freshGraph (i : Index) : Graph := Graph.build i.allModules i.allInstances

/-- The graph, made anew if the indexed files have changed, and the index that keeps it. -/
def withGraph (i : Index) : Graph × Index :=
  match i.graph with
  | some g => (g, i)
  | none => (i.freshGraph, { i with graph := some i.freshGraph })

/-- Sets a graph of given modules and instances, by default all that are indexed, in place of the
graph of the index. -/
def setGraph (i : Index) (modules : Option (List ModuleDef)) (instances : Option (List Instance)) :
    Index :=
  { i with
    graph := some (Graph.build (modules.getD i.allModules) (instances.getD i.allInstances)) }

/-- The index after its files have changed: the graph is dropped. -/
def changed (i : Index) : Index := { i with graph := none, searchable := true }

/-- Drops all files; settings, root and graph stay. -/
def clear (i : Index) : Index :=
  { i with
    table := .empty, modules := .empty, instances := .empty, hashes := .empty, contents := .empty }

/-- Drops everything but the settings and the root. -/
def close (i : Index) : Index := { i.clear with graph := none, searchable := false }

/-- What text search looks at. -/
def scope (i : Index) : Option Search.Scope :=
  if i.searchable then some ⟨i.records.map (·.path), i.contents⟩ else none

/-- The sizes of an index. -/
structure Sizes where
  files : Nat
  symbols : Nat
  modules : Nat
  instances : Nat
  nodes : Nat
  edges : Nat
  flows : Nat
  deriving DecidableEq, Repr

/-- The sizes of the index and of its graph. -/
def sizes (i : Index) : Sizes × Index :=
  let (g, i') := i.withGraph
  (⟨i.hashes.size, i.table.size, i.allModules.length, i.allInstances.length, g.nodes.size,
    g.edgeCount, g.flows.length⟩, i')

def summary (i : Index) : String := s!"HdlIndex(root={i.root.text}, symbols={i.table.size})"

end Index

end RtlAtlas
