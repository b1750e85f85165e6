/-
Questions that an assistant asks by naming a tool and giving arguments. A request is read from the
name and a JSON object; an argument may be given as null, which counts as given.
-/
import RtlAtlas.Error
import RtlAtlas.Json.Shape

namespace RtlAtlas.Service

/-- A tool that an assistant may call. -/
structure Tool where
  name : String
  /-- The names of its arguments. -/
  arguments : List String
  /-- Those of them that must be given; nothing is said where there are none. -/
  required : Option (List String)
  deriving DecidableEq, Repr

def tools : List Tool :=
  [⟨"hdl_search", ["query", "mode", "limit"], some ["query"]⟩,
    ⟨"hdl_find", ["name", "kind"], some ["name"]⟩,
    ⟨"hdl_hierarchy", ["module", "max_depth"], none⟩,
    ⟨"hdl_path", ["from", "to"], some ["from", "to"]⟩,
    ⟨"hdl_impact", ["signal"], some ["signal"]⟩,
    ⟨"hdl_complexity", ["module"], some ["module"]⟩,
    ⟨"hdl_describe", ["module"], some ["module"]⟩,
    ⟨"hdl_stats", [], none⟩]

/-- Why a call gave no answer. -/
inductive Fault where
  | unknownTool (name : String)
  | missingArgument (name : String)
  | unknownModule (name : String)
  /-- A value that names no kind of symbols, by its spelling. -/
  | unknownKind (spelling : String)
  /-- An argument that cannot be used for what it is given. -/
  | misfit (fault : Json.Misfit)
  | failed (error : Error)
  deriving DecidableEq, Repr

/-- Why a call gave no answer, in words. -/
def Fault.message : Fault → String
  | .unknownTool name => s!"Unknown tool: {name}"
  | .missingArgument name => s!"'{name}'"
  | .unknownModule name => s!"No module named '{name}'"
  | .unknownKind spelling => s!"{spelling} is not a valid SymbolKind"
  | .misfit fault => fault.message
  | .failed e => e.message

/-- A number of results or of levels. -/
inductive Bound where
  /-- None is given. -/
  | unlimited
  | upTo (n : Int)
  /-- A number that need not be whole, by the next whole one. -/
  | below (n : Int)
  /-- A number that no count reaches. -/
  | endless
  /-- No number, by the word for what it is. -/
  | invalid (type : String)
  deriving DecidableEq, Repr

/-- What an assistant asks. -/
inductive Request where
  | search (query mode : Json) (limit : Bound)
  | find (name kind : Json)
  | hierarchy (module : Json) (maxDepth : Bound)
  | route (source target : Json)
  | impact (signal : Json)
  | complexity (module : Json)
  | describe (module : Json)
  | stats

/-- An argument that must be given. -/
def required (name : String) (arguments : Json) : Except Fault Json :=
  match arguments with
  | .obj _ =>
    match arguments.field? name with
    | some v => .ok v
    | none => .error (.missingArgument name)
  | other => .error (.misfit (.noFields other.typeWord))

/-- An argument that may be left out. -/
def optional (name : String) (arguments : Json) : Except Fault Json :=
  match arguments with
  | .obj _ => .ok ((arguments.field? name).getD .null)
  | other => .error (.misfit (.noMember other.typeWord "get"))

/-- The bound that a double gives; what is infinitely negative bounds as much as zero. -/
def Bound.ofDouble : Double → Bound
  | .finite negative mantissa exponent => .below (Double.ceiling negative mantissa exponent)
  | .infinite negative => if negative then .below 0 else .endless

def Bound.ofJson : Json → Bound
  | .null => .unlimited
  | .bool b => .upTo (if b then 1 else 0)
  | .int n => .upTo n
  | .decimal negative digits exponent => .ofDouble (.ofDecimal negative digits exponent)
  | .nonFinite word => if word == "-Infinity" then .below 0 else .endless
  | other => .invalid other.typeWord

/-- The bound that an argument gives, or a default if it is left out. -/
def bound (name : String) (otherwise : Int) (arguments : Json) : Bound :=
  match arguments.field? name with
  | some v => Bound.ofJson v
  | none => .upTo otherwise

def Request.ofCall (name : String) (arguments : Json) : Except Fault Request :=
  match name with
  | "hdl_search" => do
    return .search (← required "query" arguments) (← optional "mode" arguments)
      (bound "limit" 50 arguments)
  | "hdl_find" => do return .find (← required "name" arguments) (← optional "kind" arguments)
  | "hdl_hierarchy" => do
    return .hierarchy (← optional "module" arguments) (bound "max_depth" 10 arguments)
  | "hdl_path" => do return .route (← required "from" arguments) (← required "to" arguments)
  | "hdl_impact" => do return .impact (← required "signal" arguments)
  | "hdl_complexity" => do return .complexity (← required "module" arguments)
  | "hdl_describe" => do return .describe (← required "module" arguments)
  | "hdl_stats" => .ok .stats
  | other => .error (.unknownTool other)

end RtlAtlas.Service
