/-
A saved index, row by row: its root and version, the symbols, files, modules and instances, and the
graph of modules if it was saved with one. Kinds of symbols are kept as words, as they are written.
-/
import RtlAtlas.Graph.Basic

namespace RtlAtlas

/-- A saved symbol: its kind is a word. -/
structure SymbolRow where
  symbol : Symbol
  kind : String
  deriving DecidableEq, Repr

/-- A file that was indexed and the digest of what it held. -/
structure FileRecord where
  path : Path
  hash : String
  deriving DecidableEq, Repr

/-- A database file. -/
structure Database where
  /-- What is known of the index as a whole; empty unless an index was saved. -/
  properties : OrderedMap String String := .empty
  symbols : List SymbolRow := []
  files : List FileRecord := []
  modules : List ModuleDef := []
  instances : List Instance := []
  nodes : List Node := []
  edges : List (String × String) := []
  unresolved : List (String × String) := []
  flows : List Flow := []
  deriving DecidableEq, Repr

namespace Database

def empty : Database := {}

/-- The version that this library writes and reads. -/
def version : String := "1"

def rootKey : String := "root"

def versionKey : String := "version"

/-- The property that tells when the index was saved. -/
def savedAtKey : String := "saved_at"

/-- The property that tells whether there is a graph. -/
def hasGraphKey : String := "has_graph"

/-- How many rows of each kind there are, and when an index was saved. -/
structure Counts where
  files : Nat
  symbols : Nat
  modules : Nat
  instances : Nat
  nodes : Nat
  edges : Nat
  saved : Option String
  deriving DecidableEq, Repr

def counts (d : Database) : Counts :=
  ⟨d.files.length, d.symbols.length, d.modules.length, d.instances.length, d.nodes.length,
    d.edges.length, (d.properties.get? savedAtKey).filter (· != "")⟩

end Database

end RtlAtlas
