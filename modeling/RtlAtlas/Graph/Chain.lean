/-
The longest chains of instantiations. A chain visits no module twice, so even a hierarchy that runs
in circles has a longest one. `criticalPath` is the longest from a top-level module to a leaf, the
first found among equals; `depth` is the length of the longest chain from a module.
-/
import RtlAtlas.Graph.Basic

namespace RtlAtlas.Graph

/-- The longer of the best chain so far and a candidate; the best so far wins a tie. -/
def longer (best candidate : Option (List String)) : Option (List String) :=
  match best, candidate with
  | none, c => c
  | b, none => b
  | some b, some c => if b.length < c.length then some c else some b

/-- The longest chain from a module to a leaf that avoids the modules in `passed`. -/
def longestFrom (g : Graph) : Nat → List String → String → Option (List String)
  | 0, _, _ => none
  | fuel + 1, passed, name =>
    let children := g.childrenOf name
    if children.isEmpty then some [name]
    else
      let passed' := name :: passed
      let best := children.foldl (fun best child =>
        if passed'.contains child then best else longer best (longestFrom g fuel passed' child)) none
      best.map (name :: ·)

/-- The longest chain from a top-level module to a leaf. -/
def criticalPath (g : Graph) : List String :=
  (g.topLevel.foldl (fun best top => longer best (g.longestFrom (g.nodes.size + 1) [] top)) none).getD
    []

/-- The number of modules on the longest chain from a module that avoids those in `passed`. -/
def depthFrom (g : Graph) : Nat → List String → String → Nat
  | 0, _, _ => 0
  | fuel + 1, passed, name =>
    let passed' := name :: passed
    (g.childrenOf name).foldl (fun deepest child =>
      if passed'.contains child then deepest else max deepest (depthFrom g fuel passed' child)) 0 + 1

/-- The number of modules on the longest chain from a module; a leaf has one, an unknown name
none. -/
def depth (g : Graph) (name : String) : Nat :=
  if g.contains name then g.depthFrom (g.nodes.size + 1) [] name else 0

end RtlAtlas.Graph
