/-
The hierarchy of instances below a module, as a tree. A module that is already on the way down and a
module without a definition have nothing below them, and the tree ends at the greatest depth asked
for.
-/
import RtlAtlas.Graph.Basic

namespace RtlAtlas

/-- An instance in the hierarchy, with what lies below it; the root is no instance. -/
structure Tree where
  module : String
  inst : Option String
  depth : Nat
  resolved : Bool
  children : List Tree

mutual

/-- The nodes of a tree, each before those below it. -/
def Tree.flatten : Tree → List Tree
  | t@⟨_, _, _, _, children⟩ => t :: Tree.flattenAll children

def Tree.flattenAll : List Tree → List Tree
  | [] => []
  | t :: ts => t.flatten ++ Tree.flattenAll ts

end

/-- The nodes of a tree below its root. -/
def Tree.underRoot (t : Tree) : List Tree := Tree.flattenAll t.children

mutual

/-- The number of nodes of a tree. -/
def Tree.size : Tree → Nat
  | ⟨_, _, _, _, children⟩ => 1 + Tree.sizeAll children

def Tree.sizeAll : List Tree → Nat
  | [] => 0
  | t :: ts => t.size + Tree.sizeAll ts

end

theorem Tree.sizeAll_append : ∀ ts us : List Tree,
    Tree.sizeAll (ts ++ us) = Tree.sizeAll ts + Tree.sizeAll us
  | [], us => by rw [List.nil_append, Tree.sizeAll, Nat.zero_add]
  | t :: ts, us => by
    rw [List.cons_append, Tree.sizeAll, Tree.sizeAll, Tree.sizeAll_append ts us, Nat.add_assoc]

theorem Tree.size_eq (t : Tree) : t.size = 1 + Tree.sizeAll t.children := by
  cases t
  rw [Tree.size]

/-- Goes through the nodes of trees that wait to be visited: the first tree is visited, and those below
it come before the others. -/
def Tree.walk : List Tree → List Tree
  | [] => []
  | t :: ts => t :: Tree.walk (t.children ++ ts)
termination_by ts => Tree.sizeAll ts
decreasing_by
  rw [Tree.sizeAll_append, Tree.sizeAll, t.size_eq]
  omega

/-- The nodes of a tree one after the other. -/
def Tree.iterate (t : Tree) : List Tree := Tree.walk [t]

namespace Graph

/-- Sorts instances by line; those of one line keep their order. -/
def sortInstances (is : List Instance) : List Instance :=
  is.mergeSort fun a b => (compare a.line b.line).isLE

/-- The tree below an instance, where the modules in `passed` lie above it. -/
def treeFrom (g : Graph) (maxDepth : Int) :
    Nat → List String → String → Option String → Nat → Tree
  | 0, _, module, inst, depth => ⟨module, inst, depth, g.contains module, []⟩
  | fuel + 1, passed, module, inst, depth =>
    match g.node? module with
    | none => ⟨module, inst, depth, false, []⟩
    | some n =>
      if maxDepth ≤ depth || passed.contains module then ⟨module, inst, depth, true, []⟩
      else
        ⟨module, inst, depth, true, (sortInstances n.instances).map fun i =>
          treeFrom g maxDepth fuel (module :: passed) i.moduleType (some i.name) (depth + 1)⟩

/-- The hierarchy of instances below a known module. -/
def tree? (g : Graph) (root : String) (maxDepth : Int) : Option Tree :=
  if g.contains root then some (g.treeFrom maxDepth (g.nodes.size + 1) [] root none 0) else none

end Graph

end RtlAtlas
