/-
Answers to an assistant. Every call opens the saved index of the working directory anew, so it sees
what was saved last; what goes wrong is answered as a text.
-/
import RtlAtlas.Answer
import RtlAtlas.Graph.Chain
import RtlAtlas.Graph.Route
import RtlAtlas.Json.Spelling
import RtlAtlas.Service.Request
import RtlAtlas.Workspace

namespace RtlAtlas.Service

/-- Tells how to make an index where none could be loaded. -/
def withAdvice : Error → Error
  | .store database fault => .noIndex (Error.store database fault).message
  | e => e

/-- The name that an argument is looked up by; nothing if it equals no name. -/
def nameOf (j : Json) : Except Fault (Option String) := j.nameKey.mapError .misfit

/-- The kind that symbols are restricted to, if any. -/
def kindOf (kind : Json) : Except Fault (Option SymbolKind) :=
  if kind.isGiven then
    match kind.string?.bind SymbolKind.ofWord? with
    | some k => .ok (some k)
    | none => .error (.unknownKind kind.spell)
  else .ok none

def cut {α : Type} (limit : Bound) (xs : List α) : Except Fault (List α) :=
  match limit with
  | .unlimited => .ok xs
  | .upTo n => .ok (takeTo n xs)
  | _ => .error (.misfit .noPlace)

/-- The text that is searched for; what does not count as given is an empty text. -/
def queryOf (query : Json) : Except Fault String :=
  match query with
  | .str s => .ok s
  | other =>
    if other.isGiven then .error (.misfit (.noMember other.typeWord "strip")) else .ok ""

/-- The mode of a search, if one is given. -/
def modeOf (mode : Json) : Option String :=
  match mode with
  | .null => none
  | other => some other.shown

def searchReply (around : Surroundings) (tree : FileTree) (i : Index) (query mode : Json)
    (limit : Bound) : Except Fault Json := do
  let wanted ← queryOf query
  let hits ← (i.search tree (some around.directory) wanted (modeOf mode)).mapError .failed
  let first ← cut limit hits
  return .obj [("total", Json.ofNat hits.length),
    ("results", .arr (first.map (·.answer Symbol.answer)))]

/-- The symbols with a name, restricted to a kind. -/
def findReply (i : Index) (name : Json) (kind : Option SymbolKind) : Except Fault Json := do
  let found := ((← nameOf name).map i.table.findByName).getD []
  let wanted := found.filter fun s => kind.all (· == s.kind)
  return .obj [("results", .arr (wanted.map Symbol.answer))]

/-- The depth that a bound lets a tree of a graph have; no way down is longer than there are
modules. -/
def depthOf (g : Graph) : Bound → Except Fault Int
  | .upTo n => .ok n
  | .below n => .ok n
  | .endless => .ok (g.nodes.size + 1)
  | .unlimited => .error (.misfit (.noDepth "NoneType"))
  | .invalid type => .error (.misfit (.noDepth type))

/-- The trees below some modules; a depth must be a number as soon as one of them is known. -/
def treesBelow (g : Graph) (roots : List String) (maxDepth : Bound) : Except Fault (List Tree) :=
  match roots.filter g.contains with
  | [] => .ok []
  | known => (depthOf g maxDepth).map fun n => known.filterMap fun r => g.tree? r n

/-- The hierarchy below a module, or below every module that nothing instantiates. -/
def hierarchyReply (g : Graph) (module : Json) (maxDepth : Bound) : Except Fault Json := do
  match module with
  | .null => return reply (← treesBelow g g.topLevel maxDepth)
  | _ =>
    match ← treesBelow g (← nameOf module).toList maxDepth with
    | [] => throw (.unknownModule module.shown)
    | trees => return reply trees
where
  reply (trees : List Tree) : Json :=
    .obj [("top_level", Json.ofStrings g.topLevel), ("trees", .arr (Tree.answers trees))]

/-- What a graph tells about a module that must be known. -/
def moduleReply {α : Type} (ask : String → Option α) (answer : α → Json) (module : Json) :
    Except Fault Json := do
  match (← nameOf module).bind ask with
  | some found => return answer found
  | none => throw (.unknownModule module.shown)

/-- The answer to the question for the way from one module to another; the target is looked up only
if the source is known. -/
def routeReply (g : Graph) (source target : Json) : Except Fault Json := do
  match (← nameOf source).filter g.contains with
  | none => return routeAnswer source target none
  | some a => return routeAnswer source target ((← nameOf target).bind (g.route? a))

/-- The sizes of an index and the outline of its hierarchy. -/
def statsReply (i : Index) : Json :=
  let (sizes, i') := i.sizes
  let g := i'.withGraph.1
  .obj [("root", .str i.root.text), ("files", Json.ofNat sizes.files),
    ("symbols", Json.ofNat sizes.symbols), ("modules", Json.ofNat sizes.modules),
    ("instances", Json.ofNat sizes.instances), ("graph_nodes", Json.ofNat sizes.nodes),
    ("graph_edges", Json.ofNat sizes.edges), ("signal_flows", Json.ofNat sizes.flows),
    ("top_level", Json.ofStrings g.topLevel), ("critical_path", Json.ofStrings g.criticalPath)]

/-- What a signal touches; what is no text touches nothing. -/
def impactReply (g : Graph) (signal : Json) : Json :=
  match signal with
  | .str s => (g.impact s).answer
  | other => .obj (("signal", other) :: (Impact.answer ⟨"", [], [], []⟩).fields.drop 1)

/-- The answer to a request, given the saved index. -/
def answerWith (around : Surroundings) (tree : FileTree) (i : Index) : Request → Except Fault Json
  | .search query mode limit => searchReply around tree i query mode limit
  | .find name kind => (kindOf kind).bind (findReply i name)
  | .hierarchy module maxDepth => hierarchyReply i.withGraph.1 module maxDepth
  | .route source target => routeReply i.withGraph.1 source target
  | .impact signal => .ok (impactReply i.withGraph.1 signal)
  | .complexity module => moduleReply i.withGraph.1.complexity? Complexity.answer module
  | .describe module => moduleReply i.withGraph.1.describe? Description.answer module
  | .stats => .ok (statsReply i)

/-- Checks what can be told without an index: the kind that symbols are restricted to. -/
def precheck : Request → Except Fault Unit
  | .find _ kind => (kindOf kind).map fun _ => ()
  | _ => .ok ()

/-- The answer to a call, or why there is none. -/
def reply (around : Surroundings) (tree : FileTree) (name : String) (arguments : Json) :
    Except Fault Json × FileTree :=
  match Request.ofCall name arguments with
  | .error fault => (.error fault, tree)
  | .ok request =>
    match precheck request with
    | .error fault => (.error fault, tree)
    | .ok () =>
      match Workspace.openSaved around tree around.directory with
      | (.error e, tree') => (.error (.failed (withAdvice e)), tree')
      | (.ok i, tree') => (answerWith around tree' i request, tree')

/-- Calls a tool: its answer, or the text of what went wrong. -/
def call (around : Surroundings) (tree : FileTree) (name : String) (arguments : Json) :
    Json × FileTree :=
  match reply around tree name arguments with
  | (.ok answer, tree') => (answer, tree')
  | (.error fault, tree') => (.obj [("error", .str fault.message)], tree')

end RtlAtlas.Service
