/-
A way down from one module to another: the first that a depth-first search finds. Each module is
expanded at most once, because a module that led nowhere once leads nowhere later.
-/
import RtlAtlas.Graph.Basic

namespace RtlAtlas.Graph

/-- The way from a module to the target, and the modules expanded so far. -/
def routeFrom (g : Graph) (target : String) :
    Nat → List String → String → Option (List String) × List String
  | 0, visited, _ => (none, visited)
  | fuel + 1, visited, name =>
    if name = target then (some [name], visited)
    else if visited.contains name then (none, visited)
    else
      let (found, visited') := (g.childrenOf name).foldl (fun state child =>
        match state.1 with
        | some _ => state
        | none => routeFrom g target fuel state.2 child) (none, name :: visited)
      (found.map (name :: ·), visited')

/-- The first way from one module down to another. -/
def route? (g : Graph) (start target : String) : Option (List String) :=
  if g.contains start && g.contains target then
    (g.routeFrom target (g.nodes.size + 1) [] start).1
  else none

end RtlAtlas.Graph
