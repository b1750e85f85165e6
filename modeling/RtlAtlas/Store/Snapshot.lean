/-
What is saved of an index, and the rows that hold it. Reading the rows back gives the same snapshot:
symbols come by file, line and name, files by the text of their path, and the graph is put together
again from its nodes, edges, unresolved types and flows. Rows may have been tampered with, so reading
can fail: an edge may lead to a module that is gone, a kind may be a word that names none.
-/
import RtlAtlas.Index.Basic

namespace RtlAtlas

/-- What is saved of an index. -/
structure Snapshot where
  root : Path
  symbols : List Symbol
  modules : List ModuleDef
  instances : List Instance
  files : List FileRecord
  graph : Option Graph
  deriving DecidableEq, Repr

namespace Snapshot

/-- The snapshot of an index, with a graph or without. -/
def ofIndex (i : Index) (graph : Option Graph) : Snapshot :=
  ⟨i.root, i.table.list, i.allModules, i.allInstances, i.records, graph⟩

/-- Whether a number fits into a column of a database. -/
def inColumn (n : Int) : Bool := -9223372036854775808 ≤ n && n ≤ 9223372036854775807

/-- Whether all numbers of a snapshot fit into the columns of a database. -/
def fits (s : Snapshot) : Bool :=
  s.symbols.all (fun x => inColumn x.line && inColumn x.endLine) &&
  s.modules.all (fun m => inColumn m.line && inColumn m.endLine) &&
  s.instances.all (fun i => inColumn i.line) &&
  s.graph.all fun g => g.nodes.values.all fun n => inColumn n.line && inColumn n.endLine

/-- The properties of a saved index, put in place of those of an earlier one. -/
def properties (s : Snapshot) (time : String) (old : OrderedMap String String) :
    OrderedMap String String :=
  let rooted := old.insert Database.rootKey s.root.text
  let versioned := rooted.insert Database.versionKey Database.version
  let dated := versioned.insert Database.savedAtKey time
  dated.insert Database.hasGraphKey (if s.graph.isSome then "1" else "0")

/-- The database that holds a snapshot in place of what it held before. -/
def replace (s : Snapshot) (time : String) (d : Database) : Database where
  properties := s.properties time d.properties
  symbols := s.symbols.map fun symbol => ⟨symbol, symbol.kind.word⟩
  files := s.files
  modules := s.modules
  instances := s.instances
  nodes := (s.graph.map (·.nodes.values)).getD []
  edges := (s.graph.map (·.edges)).getD []
  unresolved := (s.graph.map fun g => Graph.pairsOf g.unresolved).getD []
  flows := (s.graph.map (·.flows)).getD []

end Snapshot

namespace Database

/-- Joins two modules of a saved graph. -/
def joinRow (g : Graph) (edge : String × String) : Except Damage Graph :=
  match g.addEdge edge.1 edge.2 with
  | .ok g' => .ok g'
  | .error _ => .error (.unknownEdge edge.1 edge.2)

def graph (d : Database) : Except Damage Graph := do
  let named := d.nodes.foldl Graph.addNode .empty
  let joined ← d.edges.foldlM joinRow named
  let noted := d.unresolved.foldl (fun g (parent, type) => g.addUnresolved parent type) joined
  return { noted with flows := d.flows }

/-- The saved graph, if one was saved. -/
def graph? (d : Database) : Except Damage (Option Graph) :=
  if d.properties.get? hasGraphKey = some "1" then d.graph.map some else .ok none

def symbolOf (row : SymbolRow) : Except Damage Symbol :=
  match SymbolKind.ofWord? row.kind with
  | some kind => .ok { row.symbol with kind := kind }
  | none => .error (.unknownKind row.kind)

/-- The order of symbol rows: by the text of the file, line and name. -/
def sortRows (rows : List SymbolRow) : List SymbolRow :=
  rows.mergeSort fun a b => (Symbol.ord a.symbol b.symbol).isLE

/-- The order of file records: by the text of the path. -/
def sortRecords (records : List FileRecord) : List FileRecord :=
  records.mergeSort fun a b => (compare a.path.text b.path.text).isLE

/-- The rows of a database as a snapshot with a given root. -/
def rows (d : Database) (root : Path) : Except Damage Snapshot := do
  let g ← d.graph?
  let symbols ← (sortRows d.symbols).mapM symbolOf
  return ⟨root, symbols, d.modules, d.instances, sortRecords d.files, g⟩

/-- The snapshot that a database holds. -/
def snapshot (d : Database) : Except StoreFault Snapshot :=
  match d.properties.get? rootKey with
  | none => .error .neverSaved
  | some root =>
    let found := d.properties.get? versionKey
    if found = some version then
      match d.rows (Path.ofString root) with
      | .ok s => .ok s
      | .error damage => .error (.loadFailed damage)
    else .error (.wrongVersion found)

end Database

namespace Index

/-- Values grouped by their file, in order. -/
def groupByFile {α : Type} (file : α → Path) (values : List α) : OrderedMap Path (List α) :=
  values.foldl (fun m v => m.insert (file v) ((m.get? (file v)).getD [] ++ [v])) .empty

/-- The index with the contents of a snapshot in place of its own; its settings stay. -/
def restore (i : Index) (s : Snapshot) : Index where
  config := i.config
  root := s.root
  table := s.symbols.foldl Table.add .empty
  modules := groupByFile (·.file) s.modules
  instances := groupByFile (·.file) s.instances
  hashes := .ofList (s.files.map fun r => (r.path, r.hash))
  contents := .empty
  graph := s.graph
  searchable := true

end Index

end RtlAtlas
