/-
All that is known about one module, and how large it is.
-/
import RtlAtlas.Graph.Chain

namespace RtlAtlas

/-- The size of a module. -/
structure Complexity where
  module : String
  instances : Nat
  ports : Nat
  connections : Nat
  depth : Nat
  deriving DecidableEq, Repr

/-- A module with its neighbours and its size. -/
structure Description where
  node : Node
  parents : List String
  children : List String
  unresolved : List String
  complexity : Complexity
  deriving DecidableEq, Repr

namespace Graph

def complexity? (g : Graph) (name : String) : Option Complexity :=
  (g.node? name).map fun n =>
    ⟨name, n.instances.length, n.ports.length, (n.instances.flatMap (·.connections)).length,
      g.depth name⟩

def describe? (g : Graph) (name : String) : Option Description := do
  let n ← g.node? name
  let c ← g.complexity? name
  return ⟨n, g.parentsOf name, g.childrenOf name, g.unresolvedOf name, c⟩

end Graph

end RtlAtlas
