/-
Values of the library as JSON, the form in which other programs get them. The order of fields is part
of the form.
-/
import RtlAtlas.Graph.Describe
import RtlAtlas.Graph.Impact
import RtlAtlas.Graph.Tree
import RtlAtlas.Json.Basic
import RtlAtlas.Search.Engine

namespace RtlAtlas

def Symbol.fields (s : Symbol) : List (String × Json) :=
  [("id", .str s.id), ("name", .str s.name), ("kind", .str s.kind.word),
    ("file", .str s.file.text), ("line", .int s.line), ("end_line", .int s.endLine)]

def Symbol.answer (s : Symbol) : Json := .obj s.fields

/-- A symbol with the form of its declaration. -/
def Symbol.fullAnswer (s : Symbol) : Json := .obj (s.fields ++ [("node_type", .str s.nodeType)])

/-- A hit, where `symbol` tells how its symbol is given. -/
def Search.Hit.answer (symbol : Symbol → Json) (h : Search.Hit) : Json :=
  .obj [("type", .str h.origin.word), ("file", .str h.file.text), ("line", .int h.line),
    ("column", Json.ofInt? h.column), ("snippet", .str h.snippet), ("score", .int h.score),
    ("symbol", (h.symbol.map symbol).getD .null)]

def Endpoint.answer (e : Endpoint) : Json :=
  .obj [("module", .str e.module), ("port", .str e.port), ("instance", Json.ofString? e.inst)]

def Impact.answer (i : Impact) : Json :=
  .obj [("signal", .str i.signal), ("sources", .arr (i.sources.map Endpoint.answer)),
    ("sinks", .arr (i.sinks.map Endpoint.answer)), ("affected_modules", Json.ofStrings i.affected)]

mutual

def Tree.answer : Tree → Json
  | ⟨module, inst, depth, resolved, children⟩ =>
    .obj [("module", .str module), ("instance", Json.ofString? inst), ("depth", Json.ofNat depth),
      ("resolved", .bool resolved), ("children", .arr (Tree.answers children))]

def Tree.answers : List Tree → List Json
  | [] => []
  | t :: ts => t.answer :: Tree.answers ts

end

def Complexity.measures (c : Complexity) : List (String × Json) :=
  [("instance_count", Json.ofNat c.instances), ("port_count", Json.ofNat c.ports),
    ("connection_count", Json.ofNat c.connections), ("hierarchy_depth", Json.ofNat c.depth)]

def Complexity.answer (c : Complexity) : Json := .obj (("module", .str c.module) :: c.measures)

def Port.answer (p : Port) : Json :=
  .obj [("name", .str p.name), ("direction", .str p.direction.word), ("type", .str p.type)]

def Connection.answer (c : Connection) : Json :=
  .obj [("port", .str c.port), ("signal", .str c.signal),
    ("direction", Json.ofString? (c.direction.map (·.word)))]

def parametersAnswer (ps : OrderedMap String String) : Json :=
  .obj (ps.entries.map fun (name, value) => (name, .str value))

def Instance.answer (i : Instance) : Json :=
  .obj [("name", .str i.name), ("module_type", .str i.moduleType), ("line", .int i.line),
    ("connections", .arr (i.connections.map Connection.answer)),
    ("parameters", parametersAnswer i.parameters)]

/-- All that is known about a module. -/
def Description.answer (d : Description) : Json :=
  .obj [("name", .str d.node.name), ("file", .str d.node.file.text), ("line", .int d.node.line),
    ("end_line", .int d.node.endLine), ("ports", .arr (d.node.ports.map Port.answer)),
    ("parameters", parametersAnswer d.node.parameters),
    ("instances", .arr (d.node.instances.map Instance.answer)),
    ("parents", Json.ofStrings d.parents), ("children", Json.ofStrings d.children),
    ("unresolved_children", Json.ofStrings d.unresolved),
    ("complexity", .obj d.complexity.measures)]

/-- The way from one module to another. -/
def routeAnswer (source target : Json) (route : Option (List String)) : Json :=
  .obj [("from", source), ("to", target), ("path", (route.map Json.ofStrings).getD .null)]

end RtlAtlas
