/-
How answers are printed for a reader: hits, symbols, trees, ways through the hierarchy, and all that
is known about a module.
-/
import RtlAtlas.Command.Report
import RtlAtlas.Graph.Describe
import RtlAtlas.Graph.Impact
import RtlAtlas.Graph.Tree
import RtlAtlas.Index.Update
import RtlAtlas.Search.Engine

namespace RtlAtlas.Command

/-- Lines that are printed when a number is not zero. -/
def ifAny (n : Nat) (lines : List Line) : List Line := if n = 0 then [] else lines

/-- What a run over files has done, and how large the graph is now. -/
def statsLines (s : Stats) (g : Graph) : List Line :=
  [.marked "[green]Done![/green]", .marked s!"  Files indexed: {s.files}",
    .marked s!"  Symbols found: {s.symbols}", .marked s!"  Modules: {s.modules}",
    .marked s!"  Instances: {s.instances}",
    .marked s!"  Graph: {g.nodes.size} modules, {g.edgeCount} edges"] ++
    ifAny s.skipped [.marked s!"  [dim]Skipped: {s.skipped}[/]"] ++
    ifAny s.unchanged [.marked s!"  [dim]Unchanged: {s.unchanged}[/]"] ++
    ifAny s.removed [.marked s!"  [dim]Removed: {s.removed}[/]"] ++
    ifAny s.errors.length
      (.marked s!"  [red]Errors: {s.errors.length}[/red]" ::
        s.errors.map fun e => .marked s!"    {e.message}")

/-- The line that shows the progress of indexing a directory before the first file. -/
def progressAtFirst (directory : Path) : String :=
  s!"[progress.description]Indexing [cyan]{directory.name}[/]"

/-- The line that shows the progress of indexing a directory in the end. -/
def progressAtLast (directory : Path) (reports : List Progress) : String :=
  match reports.getLast? with
  | none => progressAtFirst directory
  | some r => s!"[progress.description][cyan]{r.file.shownFrom directory}[/]"

/-- Says that nothing answers to a text. -/
def noMatches (text : String) : Line := .marked s!"No matches for '[cyan]{text}[/cyan]'"

def hitLine (root : Path) (h : Search.Hit) : Line :=
  let place := s!"{h.file.shownFrom root}:{h.line}"
  match h.origin with
  | .symbol => .marked s!"[cyan]{h.snippet}[/cyan] [dim]{place}[/] [yellow]{h.score}[/]"
  | .text =>
    let column := h.column.getD 0
    .marked s!"[dim]{place}:{column}[/] {h.snippet}"

def symbolLines (root : Path) (s : Symbol) : List Line :=
  [.marked s!"[cyan]{s.name}[/cyan] ({s.kind.word})",
    .marked s!"  {s.file.shownFrom root}:{s.line}"]

def countLines (c : Database.Counts) : List Line :=
  [.marked s!"Files indexed: {c.files}", .marked s!"Symbols: {c.symbols}",
    .marked s!"Modules: {c.modules}", .marked s!"Instances: {c.instances}",
    .marked s!"Graph: {c.nodes} nodes, {c.edges} edges"] ++
    match c.saved with
    | some time => if time == "" then [] else [.marked s!"Last indexed: {time}"]
    | none => []

/-- An instance in a tree, behind the lines that lead to it. -/
def treeLine (lead branch : String) (module : String) (inst : Option String) (resolved : Bool) :
    Line :=
  let name := inst.getD "None"
  if resolved then .marked s!"{lead}{branch} {name} [cyan]{module}[/]"
  else .marked s!"{lead}{branch} {name} [red]{module}[/] [red](undefined)[/]"

/-- The lines below the nodes of a tree, the last of which is drawn as the last. -/
def childLines (lead : String) : List Tree → List Line
  | [] => []
  | [⟨module, inst, _, resolved, children⟩] =>
    treeLine lead "└─" module inst resolved :: childLines (lead ++ "   ") children
  | ⟨module, inst, _, resolved, children⟩ :: next :: rest =>
    treeLine lead "├─" module inst resolved ::
      (childLines (lead ++ "│  ") children ++ childLines lead (next :: rest))

def treeLines (t : Tree) : List Line :=
  .marked s!"[bold cyan]{t.module}[/]" :: childLines "   " t.children

def routeLine (names : List String) : Line :=
  .marked (" → ".intercalate (names.map fun n => s!"[cyan]{n}[/]"))

def endpointText (e : Endpoint) : String :=
  match e.inst with
  | none => s!"{e.module}.{e.port}"
  | some name =>
    if name == "" then s!"{e.module}.{e.port}" else s!"{name}.{e.port} [dim]({e.module})[/]"

def impactLines (i : Impact) : List Line :=
  let modules := ", ".intercalate i.affected
  [.marked s!"[bold]Signal [cyan]{i.signal}[/cyan][/]", .marked "  [green]Sources:[/]"] ++
    i.sources.map (fun e => .marked s!"    {endpointText e}") ++
    [.marked "  [green]Sinks:[/]"] ++
    i.sinks.map (fun e => .marked s!"    {endpointText e}") ++
    [.marked s!"  [dim]Modules: {modules}[/]"]

def complexityLines (c : Complexity) : List Line :=
  [.marked s!"[bold cyan]{c.module}[/]", .marked s!"  Instances: {c.instances}",
    .marked s!"  Ports: {c.ports}", .marked s!"  Connections: {c.connections}",
    .marked s!"  Hierarchy depth: {c.depth}"]

/-- A text filled up with spaces to a width. -/
def padded (width : Nat) (s : String) : String :=
  s ++ String.ofList (List.replicate (width - s.length) ' ')

def portLine (p : Port) : Line :=
  .marked s!"    {padded 6 p.direction.word} {p.name} [dim]({p.type})[/]"

def instanceLine (i : Instance) : Line :=
  .marked s!"    {i.name} [cyan]{i.moduleType}[/] [dim](line {i.line})[/]"

def descriptionLines (root : Path) (d : Description) : List Line :=
  let parameters := ", ".intercalate
    (d.node.parameters.entries.map fun (name, value) => s!"{name}={value}")
  let parents := ", ".intercalate d.parents
  let unresolved := ", ".intercalate d.unresolved
  [.marked s!"\n[bold cyan]{d.node.name}[/]",
    .marked s!"  [dim]{d.node.file.shownFrom root}:{d.node.line}[/]"] ++
    ifAny d.node.parameters.size [.marked s!"  Parameters: {parameters}"] ++
    .marked "  [green]Ports:[/]" :: d.node.ports.map portLine ++
    ifAny d.node.instances.length
      (.marked "  [green]Instances:[/]" :: d.node.instances.map instanceLine) ++
    ifAny d.parents.length [.marked s!"  Instantiated by: {parents}"] ++
    ifAny d.unresolved.length [.marked s!"  [red]Undefined children: {unresolved}[/]"]

end RtlAtlas.Command
