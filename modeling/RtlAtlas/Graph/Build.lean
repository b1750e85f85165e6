/-
Building the graph of modules from module definitions and instances. An instance belongs to the
module of its file whose lines hold it, or to the first module of the file. Its connections are
resolved against the ports of the module it instantiates, and every resolved connection makes a
flow into the child, out of it, or both.
-/
import RtlAtlas.Graph.Basic

namespace RtlAtlas.Graph

/-- The module, out of those of its file, that an instance belongs to. -/
def enclosing? (i : Instance) (candidates : List ModuleDef) : Option ModuleDef :=
  match candidates.find? (·.containsLine i.line) with
  | some m => some m
  | none => candidates.head?

/-- The port of a child that a connection binds: by name, or by position if it has no name. -/
def portOf? (child : Node) (c : Connection) : Option Port :=
  if c.port != "" then child.port? c.port
  else
    match c.position with
    | some k => if 0 ≤ k then child.ports[k.toNat]? else none
    | none => none

/-- A connection with the name and direction of the port it binds. -/
def resolveConnection (child : Node) (c : Connection) : Connection :=
  match portOf? child c with
  | some p => { c with port := p.name, direction := some p.direction }
  | none => c

/-- An instance with its connections resolved; without a child they stay as they are. -/
def resolveInstance (child : Option Node) (i : Instance) : Instance :=
  match child with
  | some n => { i with connections := i.connections.map (resolveConnection n) }
  | none => i

/-- The node of a module definition, without instances. -/
def nodeOf (m : ModuleDef) : Node :=
  { name := m.name, file := m.file, line := m.line, endLine := m.endLine, ports := m.ports }

def attach (g : Graph) (parent : String) (i : Instance) : Graph :=
  { g with nodes := g.nodes.modify parent fun n => { n with instances := n.instances ++ [i] } }

/-- Adds overrides to the parameters of a module. -/
def override (g : Graph) (name : String) (parameters : OrderedMap String String) : Graph :=
  { g with
    nodes := g.nodes.modify name fun n => { n with parameters := n.parameters.update parameters } }

/-- Takes an instance in. -/
def addInstance (modules : List ModuleDef) (g : Graph) (i : Instance) : Graph :=
  match enclosing? i (modules.filter fun m => m.file = i.file) with
  | none => g
  | some parent =>
    let child := g.node? i.moduleType
    let attached := g.attach parent.name (resolveInstance child i)
    match child with
    | none => attached.addUnresolved parent.name i.moduleType
    -- overrides of all instances gather at the module, the later ones winning
    | some n => (attached.link parent.name n.name).override n.name i.parameters

/-- The flows of a connection: into an input, out of an output, both for an `inout`. -/
def flowsOf (parent : String) (i : Instance) (c : Connection) : List Flow :=
  let outer : Endpoint := ⟨parent, c.signal, none⟩
  let inner : Endpoint := ⟨i.moduleType, c.port, some i.name⟩
  let inbound : Flow := ⟨outer, inner, c.signal, parent, i.moduleType⟩
  let outbound : Flow := ⟨inner, outer, c.signal, parent, i.moduleType⟩
  match c.direction with
  | none => []
  | some .input => [inbound]
  | some .output => [outbound]
  | some .inout => [inbound, outbound]

/-- All flows of a graph: by module, instance and connection. -/
def allFlows (g : Graph) : List Flow :=
  g.nodes.entries.flatMap fun (parent, n) =>
    (n.instances.filter fun i => g.contains i.moduleType).flatMap fun i =>
      i.connections.flatMap (flowsOf parent i)

/-- The graph of some modules and instances. -/
def build (modules : List ModuleDef) (instances : List Instance) : Graph :=
  let named := modules.foldl (fun g m => g.addNode (nodeOf m)) empty
  let joined := instances.foldl (addInstance modules) named
  { joined with flows := joined.allFlows }

/-! ## Building in place -/

/-- Takes an instance in, refusing an edge that would leave the graph. -/
def joinInstance (modules : List ModuleDef) (g : Graph) (i : Instance) : Except Error Graph :=
  match enclosing? i (modules.filter fun m => m.file = i.file) with
  | none => .ok g
  | some parent =>
    let child := g.node? i.moduleType
    let attached := g.attach parent.name (resolveInstance child i)
    match child with
    | none => .ok (attached.addUnresolved parent.name i.moduleType)
    | some n => (attached.addEdge parent.name n.name).map (·.override n.name i.parameters)

/-- Builds the graph of some modules and instances in place of what a graph holds. -/
def rebuild (g : Graph) (modules : List ModuleDef) (instances : List Instance) :
    Except Error Graph := do
  let named := modules.foldl (fun g m => g.addNode (nodeOf m)) g.clear
  let joined ← instances.foldlM (joinInstance modules) named
  return joined.allFlows.foldl addFlow joined

end RtlAtlas.Graph
