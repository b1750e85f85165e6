/-
The hierarchy as a drawing in the DOT language: a box per module, an arrow per edge, and, where
wanted, dashed boxes and arrows for undefined module types.
-/
import RtlAtlas.Graph.Basic

namespace RtlAtlas.Graph

/-- A text with its double quotes escaped. -/
def dotEscape (s : String) : String :=
  String.ofList (s.toList.flatMap fun c => if c == '"' then ['\\', '"'] else [c])

def dotName (s : String) : String := "\"" ++ dotEscape s ++ "\""

def dotBox (name : String) (n : Node) : String :=
  let label := s!"{name}\\n({n.instances.length} instances, {n.ports.length} ports)"
  s!"  {dotName name} [label={dotName label}];"

def dotArrow (parent child style : String) : String :=
  s!"  {dotName parent} -> {dotName child}{style};"

/-- The undefined module types, each once, sorted. -/
def externalTypes (g : Graph) : List String := sortNames g.unresolved.values.flatten.eraseDups

def dotLines (g : Graph) (withUnresolved : Bool) : List String :=
  ["digraph ModuleHierarchy \x7b", "  rankdir=TB;", "  node [shape=box, style=rounded];", ""] ++
    g.nodes.entries.map (fun (name, n) => dotBox name n) ++
    (if withUnresolved then g.externalTypes.map fun t => s!"  {dotName t} [style=dashed];" else []) ++
    [""] ++
    g.edges.map (fun (parent, child) => dotArrow parent child "") ++
    (if withUnresolved then
      (pairsOf g.unresolved).map fun (parent, t) => dotArrow parent t " [style=dashed]"
    else []) ++
    ["\x7d"]

def toDot (g : Graph) (withUnresolved : Bool) : String :=
  "\n".intercalate (g.dotLines withUnresolved) ++ "\n"

end RtlAtlas.Graph
