/-
Running commands on a tree of files. A command that asks about an index opens the saved one of the
working directory; `index` and `update` also save it. What a command leaves behind is the tree.
-/
import RtlAtlas.Answer
import RtlAtlas.Command.Basic
import RtlAtlas.Command.Show
import RtlAtlas.Graph.Chain
import RtlAtlas.Graph.Dot
import RtlAtlas.Graph.Route
import RtlAtlas.Workspace

namespace RtlAtlas.Command

/-- The absolute path that an argument means, as it is followed. -/
def fromHere (around : Surroundings) (p : Path) : Path := around.directory.join p

/-- The place that an argument means. -/
def placeFromHere (around : Surroundings) (tree : FileTree) (p : Path) : Path :=
  tree.place (fromHere around p)

/-- The absolute path that an argument means, with `..` folded away as if no link were there. -/
def absolute (around : Surroundings) (p : Path) : Path := Path.resolve around.directory p

/-- A report of an error, told by the command itself if it is one of the library's own. -/
def Report.ofError (e : Error) : Report :=
  if e.isTold then .failure e.message else ⟨[], .escaped e⟩

/-- A report of arguments that make no command. -/
def Report.ofMisuse : Misuse → Report
  | .malformed => ⟨[], .misused⟩
  | .nullByte => ⟨[], .escaped .nullByte⟩

/-- A report that an argument names no module. -/
def unknownModule (name : String) : Report := .failure s!"Unknown module '{name}'"

/-! ## Commands that change the index -/

/-- The index that a run starts from, and whether it was loaded. -/
def startingIndex (around : Surroundings) (tree : FileTree) (directory : Path) (force : Bool)
    (exclude : List String) : Except Error (Index × Bool) × FileTree :=
  let made : Except Error Index := do
    let config ← Config.load tree directory
    Index.new { config with excludePatterns := config.excludePatterns ++ exclude }
  match made with
  | .error e => (.error e, tree)
  | .ok i =>
    let database := i.config.database around.database
    match if force then .ok none else tree.look database with
    | .error e => (.error e, tree)
    | .ok none => (.ok (i, false), tree)
    | .ok (some _) =>
      match Workspace.load ⟨tree, i⟩ database with
      | (.ok (), w) => (.ok (w.index, true), w.tree)
      | (.error e, w) => (.error e, w.tree)

/-- Saves an index and tells what was counted on the way to it. -/
def savedReport (around : Surroundings) (w : Workspace) (counted : Stats) : Report × FileTree :=
  match w.save (w.index.config.database around.database) around.time with
  | (.error e, w') => (.ofError e, w'.tree)
  | (.ok (), w') => (.ofLines (statsLines counted w'.index.withGraph.1), w'.tree)

/-- Brings the index of a directory up to date and saves it. The line that shows the progress is not
part of the output, but broken markup in it ends the command: in what is shown at first before
anything is indexed, in what is shown at last before anything is saved. -/
def runIndex (around : Surroundings) (tree : FileTree) (directory : Path) (force : Bool)
    (exclude : List String) : Report × FileTree :=
  let directory' := placeFromHere around tree directory
  match startingIndex around tree directory' force exclude with
  | (.error e, tree') => (.ofError e, tree')
  | (.ok (i, loaded), tree') =>
    match Markup.read Emoji.replace (progressAtFirst directory').toList with
    | .error fault => (⟨[], .escaped (.markup fault)⟩, tree')
    | .ok _ =>
      let (done, w) :=
        if loaded then Workspace.refresh ⟨tree', i⟩ none
        else Workspace.build ⟨tree', i⟩ (some directory') none
      match done with
      | .error e => (⟨[], .escaped e⟩, w.tree)
      | .ok (counted, reports) =>
        match (Line.marked (progressAtLast directory' reports)).render with
        | .error e => (⟨[], .escaped e⟩, w.tree)
        | .ok _ => savedReport around w counted

/-- The saved index of the working directory, or a report that there is none. -/
def savedIndex (around : Surroundings) (tree : FileTree) : Except Report Index × FileTree :=
  match Workspace.openSaved around tree around.directory with
  | (.ok i, tree') => (.ok i, tree')
  | (.error (.store database fault), tree') =>
    (.error ⟨[.marked ("[red]" ++ (Error.store database fault).message ++ "[/red]"),
      .marked "Run 'hdlgraph index .' first."], .failed⟩, tree')
  | (.error e, tree') => (.error ⟨[], .escaped e⟩, tree')

/-- Takes one file in anew, or drops it if it is gone: the line that tells of it, or an error, and
whether the file gave no symbols. -/
def updateOne (tree : FileTree) (i : Index) (file : Path) : Except Error (Line × Bool) × Index :=
  let shown := file.shownFrom i.root
  match tree.look file with
  | .error e => (.error e, i)
  | .ok none =>
    match i.removeFile file with
    | (true, i') => (.ok (.marked s!"[yellow]Removed[/yellow] {shown}", false), i')
    | (false, i') => (.ok (.marked s!"[dim]Not indexed: {shown}[/]", false), i')
  | .ok (some _) =>
    match i.updateFile tree file none with
    | (.ok counted, i') =>
      (.ok (.marked s!"[green]Updated[/green] {shown} ({counted.symbols} symbols)", false), i')
    | (.error e, i') => (.ok (.marked s!"[red]{e.message}[/red]", true), i')

/-- Takes files in anew, one after the other, until one of them cannot be told of. -/
def updateAll (tree : FileTree) : Index → List Path → Report × Index
  | i, [] => ({}, i)
  | i, f :: fs =>
    match updateOne tree i f with
    | (.error e, i') => (⟨[], .escaped e⟩, i')
    | (.ok (line, failed), i') =>
      let (rest, i'') := updateAll tree i' fs
      let ending := if failed && rest.ending = .done then .failed else rest.ending
      (⟨line :: rest.lines, ending⟩, i'')

/-- Takes files in anew and saves the index, unless an error ended the output before. -/
def runUpdate (around : Surroundings) (tree : FileTree) (files : List Path) : Report × FileTree :=
  match savedIndex around tree with
  | (.error report, tree') => (report, tree')
  | (.ok i, tree') =>
    let (report, i') := updateAll tree' i (files.map (placeFromHere around tree'))
    if report.outcome.error.isSome then (report, tree')
    else
      match Workspace.save ⟨tree', i'⟩ (i'.config.database around.database) around.time with
      | (.error e, w) => (⟨report.lines, .escaped e⟩, w.tree)
      | (.ok (), w) => (report, w.tree)

/-! ## Commands that ask -/

/-- The hits of a query, the first up to a limit. -/
def searchReport (around : Surroundings) (tree : FileTree) (i : Index) (query : String)
    (textOnly : Bool) (limit : Int) (json : Bool) : Report :=
  match i.search tree (some around.directory) query (if textOnly then some "text" else none) with
  | .error e => .ofError e
  | .ok hits =>
    let first := takeTo limit hits
    if json then .ofLines [.json (.arr (first.map (·.answer Symbol.fullAnswer)))]
    else if first.isEmpty then .ofLines [noMatches query]
    else .ofLines (first.map (hitLine i.root))

/-- The symbols with a name, restricted to a kind if one is given. -/
def findReport (i : Index) (name kind : String) (json : Bool) : Report :=
  if kind != "" && (SymbolKind.ofWord? kind).isNone then .failure s!"Unknown kind '{kind}'"
  else
    let found := (i.table.findByName name).filter fun s => kind == "" || s.kind.word == kind
    if json then .ofLines [.json (.arr (found.map Symbol.fullAnswer))]
    else if found.isEmpty then .ofLines [noMatches name]
    else .ofLines (found.flatMap (symbolLines i.root))

/-- The hierarchy below a module, or below every module that nothing instantiates. -/
def hierarchyReport (g : Graph) (root : String) (maxDepth : Int) (json : Bool) : Report :=
  let roots := if root == "" then g.topLevel else [root]
  let trees := roots.filterMap fun r => g.tree? r maxDepth
  if root != "" && trees.isEmpty then unknownModule root
  else if json then .ofLines [.json (.arr (Tree.answers trees))]
  else if trees.isEmpty then .ofLines [.marked "No modules indexed"]
  else .ofLines (trees.flatMap treeLines)

/-- The way from one module to another. -/
def routeReport (g : Graph) (source target : String) (json : Bool) : Report :=
  let route := g.route? source target
  if json then .ofLines [.json (routeAnswer (.str source) (.str target) route)]
  else
    match route with
    | none => .ofLines [.marked s!"No path from [cyan]{source}[/] to [cyan]{target}[/]"]
    | some names => .ofLines [routeLine names]

/-- The longest way through the hierarchy. -/
def criticalReport (g : Graph) (json : Bool) : Report :=
  let chain := g.criticalPath
  if json then
    .ofLines [.json (.obj [("path", Json.ofStrings chain), ("depth", Json.ofNat chain.length)])]
  else if chain.isEmpty then .ofLines [.marked "No modules indexed"]
  else .ofLines [routeLine chain, .marked s!"[dim]Depth: {chain.length}[/]"]

def impactReport (g : Graph) (signal : String) (json : Bool) : Report :=
  let found := g.impact signal
  if json then .ofLines [.json found.answer]
  else if found.found then .ofLines (impactLines found)
  else .ofLines [.marked s!"No connections carry '[cyan]{signal}[/cyan]'"]

def complexityReport (g : Graph) (module : String) (json : Bool) : Report :=
  match g.complexity? module with
  | none => unknownModule module
  | some c => .ofLines (if json then [.json c.answer] else complexityLines c)

def describeReport (root : Path) (g : Graph) (module : String) (json : Bool) : Report :=
  match g.describe? module with
  | none => unknownModule module
  | some d => .ofLines (if json then [.json d.answer] else descriptionLines root d)

/-- The counts of the saved index. -/
def runStats (around : Surroundings) (tree : FileTree) (json : Bool) : Report × FileTree :=
  match Config.load tree around.directory with
  | .error e => (⟨[], .escaped e⟩, tree)
  | .ok config =>
    let database := config.database around.database
    match tree.look database with
    | .error e => (⟨[], .escaped e⟩, tree)
    | .ok none => (.failure (Error.store database .missing).message, tree)
    | .ok (some _) =>
      match tree.databaseCounts database with
      | (.error e, tree') => (⟨[], .escaped e⟩, tree')
      | (.ok c, tree') =>
        let answer : Json := .obj [("files", Json.ofNat c.files), ("symbols", Json.ofNat c.symbols),
          ("modules", Json.ofNat c.modules), ("instances", Json.ofNat c.instances),
          ("graph_nodes", Json.ofNat c.nodes), ("graph_edges", Json.ofNat c.edges),
          ("saved_at", Json.ofString? c.saved)]
        (.ofLines (if json then [.json answer] else countLines c), tree')

/-- The drawing of the hierarchy, printed or written to a file. -/
def runDot (around : Surroundings) (tree : FileTree) (g : Graph) (output : Option Path)
    (unresolved : Bool) : Report × FileTree :=
  let drawing := g.toDot unresolved
  match output with
  | none => (.ofLines [.plain drawing], tree)
  | some file =>
    match tree.writeBeside (fromHere around file) (Text.bytesOf drawing) with
    | .error e => (⟨[], .escaped e⟩, tree)
    | .ok tree' => (.ofLines [.marked s!"Wrote {file.text}"], tree')

/-- The answer to a command that only asks about the index. -/
def askReport (around : Surroundings) (tree : FileTree) (i : Index) : Command → Report
  | .search query textOnly limit json => searchReport around tree i query textOnly limit json
  | .find name kind json => findReport i name kind json
  | .hierarchy root maxDepth json => hierarchyReport i.withGraph.1 root maxDepth json
  | .route source target json => routeReport i.withGraph.1 source target json
  | .criticalPath json => criticalReport i.withGraph.1 json
  | .impact signal json => impactReport i.withGraph.1 signal json
  | .complexity module json => complexityReport i.withGraph.1 module json
  | .describe module json => describeReport i.root i.withGraph.1 module json
  | _ => {}

def run (around : Surroundings) (tree : FileTree) : Command → Report × FileTree
  | .index directory force exclude => runIndex around tree directory force exclude
  | .update files => runUpdate around tree files
  | .stats json => runStats around tree json
  | .help => ({}, tree)
  | .dot output unresolved =>
    match savedIndex around tree with
    | (.error report, tree') => (report, tree')
    | (.ok i, tree') => runDot around tree' i.withGraph.1 output unresolved
  | command =>
    match savedIndex around tree with
    | (.error report, tree') => (report, tree')
    | (.ok i, tree') => (askReport around tree' i command, tree')

/-- Makes the log file that an invocation asks for, unless it is there. -/
def makeLog (around : Surroundings) (tree : FileTree) (log : Option Path) :
    Except Error Unit × FileTree :=
  match log with
  | none => (.ok (), tree)
  | some file =>
    match tree.makeDirectories (fromHere around file).parent with
    | (.error e, tree') => (.error e, tree')
    | (.ok (), tree') =>
      match tree'.placeForFile (absolute around file) with
      | .error e => (.error e, tree')
      | .ok place =>
        (.ok (), if (tree'.entries.get? place).isSome then tree' else tree'.putAt place (.file []))

def runLine (around : Surroundings) (tree : FileTree) (args : List String) : Outcome × FileTree :=
  match Invocation.parse args with
  | .error m => ((Report.ofMisuse m).outcome, tree)
  | .ok invocation =>
    match makeLog around tree invocation.logFile with
    | (.error e, tree') => (Report.outcome ⟨[], .escaped e⟩, tree')
    | (.ok (), tree') =>
      match invocation.command with
      | .error m => ((Report.ofMisuse m).outcome, tree')
      | .ok command =>
        let (report, tree'') := run around tree' command
        (report.outcome, tree'')

end RtlAtlas.Command
