/-
Where a signal comes from and where it goes: the ends of all flows that carry it, each once and in
the order of the flows, and the modules they belong to.
-/
import RtlAtlas.Graph.Basic

namespace RtlAtlas

/-- What a signal touches. -/
structure Impact where
  signal : String
  sources : List Endpoint
  sinks : List Endpoint
  affected : List String
  deriving DecidableEq, Repr

def Impact.found (i : Impact) : Bool := !i.sources.isEmpty || !i.sinks.isEmpty

/-- Appends an item that is not there yet. -/
def appendNew {α : Type} [BEq α] (xs : List α) (x : α) : List α :=
  if xs.contains x then xs else xs ++ [x]

/-- Takes a flow in. -/
def Impact.addFlow (i : Impact) (f : Flow) : Impact :=
  { i with
    sources := appendNew i.sources f.source
    sinks := appendNew i.sinks f.sink
    affected := appendNew (appendNew i.affected f.source.module) f.sink.module }

def Graph.impact (g : Graph) (signal : String) : Impact :=
  (g.flows.filter fun f => f.signal == signal).foldl Impact.addFlow ⟨signal, [], [], []⟩

end RtlAtlas
