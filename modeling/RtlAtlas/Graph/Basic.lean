/-
The graph of modules: which module instantiates which. Edges lead from a module to the distinct
module types it instantiates and are kept in both directions; `link` is the only way to make one, so
the two directions always agree. Module types without a definition are noted apart, and flows tell
which signals cross an instantiation.
-/
import RtlAtlas.Design
import RtlAtlas.Error

namespace RtlAtlas

/-- A module with its instances and the overrides of its parameters. -/
structure Node where
  name : String
  file : Path
  line : Int
  endLine : Int
  ports : List Port
  instances : List Instance := []
  parameters : OrderedMap String String := .empty
  deriving DecidableEq, Repr

def Node.port? (n : Node) (name : String) : Option Port := n.ports.find? fun p => p.name == name

/-- One end of a flow: a port of an instance, or a signal of a module. -/
structure Endpoint where
  module : String
  port : String
  inst : Option String := none
  deriving DecidableEq, Repr

/-- A signal that crosses an instantiation. -/
structure Flow where
  source : Endpoint
  sink : Endpoint
  signal : String
  parent : String
  child : String
  deriving DecidableEq, Repr

/-- The graph of modules. -/
structure Graph where
  nodes : OrderedMap String Node
  children : OrderedMap String (List String)
  parents : OrderedMap String (List String)
  flows : List Flow
  unresolved : OrderedMap String (List String)
  deriving DecidableEq, Repr

namespace Graph

def empty : Graph := ⟨.empty, .empty, .empty, [], .empty⟩

instance : Inhabited Graph := ⟨empty⟩

/-- Drops everything that a graph holds. -/
def clear (g : Graph) : Graph :=
  { g with
    nodes := .empty, children := .empty, parents := .empty, flows := [], unresolved := .empty }

def contains (g : Graph) (name : String) : Bool := g.nodes.contains name

def node? (g : Graph) (name : String) : Option Node := g.nodes.get? name

def names (g : Graph) : List String := g.nodes.keys

/-- The distinct module types that a module instantiates. -/
def childrenOf (g : Graph) (name : String) : List String := (g.children.get? name).getD []

/-- The modules that instantiate a module. -/
def parentsOf (g : Graph) (name : String) : List String := (g.parents.get? name).getD []

/-- The undefined module types that a module instantiates. -/
def unresolvedOf (g : Graph) (name : String) : List String := (g.unresolved.get? name).getD []

/-- Adds a module; a name that is taken stays with its first module. -/
def addNode (g : Graph) (n : Node) : Graph :=
  if g.contains n.name then g
  else
    { g with
      nodes := g.nodes.insert n.name n
      children := g.children.insertNew n.name []
      parents := g.parents.insertNew n.name [] }

/-- Joins two known modules; a second edge between them changes nothing. -/
def link (g : Graph) (parent child : String) : Graph :=
  if (g.childrenOf parent).contains child then g
  else
    { g with
      children := g.children.modify parent (· ++ [child])
      parents := g.parents.modify child (· ++ [parent]) }

/-- Joins two modules, which must be known. -/
def addEdge (g : Graph) (parent child : String) : Except Error Graph :=
  if g.contains parent && g.contains child then .ok (g.link parent child)
  else .error (.unknownEdge parent child)

/-- Notes that a module instantiates an undefined module type. -/
def addUnresolved (g : Graph) (parent moduleType : String) : Graph :=
  let types := g.unresolvedOf parent
  { g with
    unresolved :=
      g.unresolved.insert parent (if types.contains moduleType then types else types ++ [moduleType]) }

def addFlow (g : Graph) (flow : Flow) : Graph := { g with flows := g.flows ++ [flow] }

/-- The pairs of an adjacency map, in order. -/
def pairsOf (m : OrderedMap String (List String)) : List (String × String) :=
  m.entries.flatMap fun (a, bs) => bs.map (a, ·)

def edges (g : Graph) : List (String × String) := pairsOf g.children

def reverseEdges (g : Graph) : List (String × String) := pairsOf g.parents

def edgeCount (g : Graph) : Nat := g.edges.length

/-- Modules that nothing instantiates. -/
def topLevel (g : Graph) : List String := g.names.filter fun n => (g.parentsOf n).isEmpty

/-- Modules that instantiate no known module. -/
def leaves (g : Graph) : List String := g.names.filter fun n => (g.childrenOf n).isEmpty

/-- Sorts names by code points. -/
def sortNames (names : List String) : List String := names.mergeSort fun a b => (compare a b).isLE

/-- Each instantiating module with its children, sorted. -/
def hierarchy (g : Graph) : List (String × List String) :=
  (g.children.entries.filter fun e => !e.2.isEmpty).map fun (n, cs) => (n, sortNames cs)

def summary (g : Graph) : String :=
  s!"ModuleGraph(nodes={g.nodes.size}, edges={g.edgeCount}, flows={g.flows.length})"

end Graph

end RtlAtlas
