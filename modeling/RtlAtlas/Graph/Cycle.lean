/-
Circles of instantiations, which only a malformed design has. A depth-first search marks every
module once; an edge back to a module on the current chain closes a circle.
-/
import RtlAtlas.Graph.Basic

namespace RtlAtlas.Graph

/-- The modules marked and the circles found so far. -/
structure CycleSearch where
  visited : List String
  cycles : List (List String)

/-- Searches from a module below the chain `stack`, outermost first. -/
def cyclesFrom (g : Graph) (limit : Int) : Nat → List String → CycleSearch → String → CycleSearch
  | 0, _, state, _ => state
  | fuel + 1, stack, state, name =>
    if limit ≤ state.cycles.length then state
    else
      let stack' := stack ++ [name]
      (g.childrenOf name).foldl (fun (state : CycleSearch) child =>
        if !state.visited.contains child then cyclesFrom g limit fuel stack' state child
        else if stack'.contains child && decide ((state.cycles.length : Int) < limit) then
          { state with cycles := state.cycles ++ [stack'.dropWhile (· != child)] }
        else state) { state with visited := name :: state.visited }

/-- Circles of instantiations, at most `limit` of them. -/
def cycles (g : Graph) (limit : Int) : List (List String) :=
  (g.names.foldl (fun (state : CycleSearch) name =>
    if state.visited.contains name then state
    else g.cyclesFrom limit (g.nodes.size + 1) [] state name) ⟨[], []⟩).cycles

end RtlAtlas.Graph
