/-
The commands of the command line and how they are written.
-/
import RtlAtlas.Command.Arguments
import RtlAtlas.Command.Integer
import RtlAtlas.Path

namespace RtlAtlas

/-- A command. -/
inductive Command where
  | index (directory : Path) (force : Bool) (exclude : List String)
  | update (files : List Path)
  | search (query : String) (textOnly : Bool) (limit : Int) (json : Bool)
  | find (name : String) (kind : String) (json : Bool)
  | stats (json : Bool)
  | hierarchy (root : String) (maxDepth : Int) (json : Bool)
  | route (source target : String) (json : Bool)
  | criticalPath (json : Bool)
  | impact (signal : String) (json : Bool)
  | complexity (module : String) (json : Bool)
  | describe (module : String) (json : Bool)
  | dot (output : Option Path) (unresolved : Bool)
  /-- Asks for help, which is not printed here. -/
  | help
  deriving DecidableEq, Repr

/-- Why arguments make no command. -/
inductive Misuse where
  /-- They are not written the way they must be. -/
  | malformed
  /-- One that is a path holds a NUL character. -/
  | nullByte
  deriving DecidableEq, Repr

/-- A command with the options that stand before it. -/
structure Invocation where
  verbose : Bool := false
  logFile : Option Path := none
  command : Except Misuse Command
  deriving Repr

namespace Command

def helpFlag : Flag := ⟨"help", "--help", none, false⟩

def jsonFlag : Flag := ⟨"json", "--json", some 'j', false⟩

def generalFlags : List Flag :=
  [helpFlag, ⟨"verbose", "--verbose", some 'v', false⟩, ⟨"log", "--log-file", none, true⟩]

def flagsOf : String → Option (List Flag)
  | "index" =>
    some [helpFlag, ⟨"force", "--force", some 'f', false⟩, ⟨"exclude", "--exclude", some 'e', true⟩]
  | "update" => some [helpFlag]
  | "search" =>
    some [helpFlag, jsonFlag, ⟨"text", "--text", some 't', false⟩,
      ⟨"limit", "--limit", some 'n', true⟩]
  | "find" => some [helpFlag, jsonFlag, ⟨"kind", "--kind", some 'k', true⟩]
  | "stats" => some [helpFlag, jsonFlag]
  | "hierarchy" => some [helpFlag, jsonFlag, ⟨"depth", "--depth", some 'd', true⟩]
  | "path" => some [helpFlag, jsonFlag]
  | "critical-path" => some [helpFlag, jsonFlag]
  | "impact" => some [helpFlag, jsonFlag]
  | "complexity" => some [helpFlag, jsonFlag]
  | "show" => some [helpFlag, jsonFlag]
  | "dot" =>
    some [helpFlag, ⟨"output", "--output", some 'o', true⟩,
      ⟨"unresolved", "--unresolved", some 'u', false⟩]
  | _ => none

/-- The integer that an option gives, or a default. -/
def integerOf (a : Arguments) (key : String) (otherwise : Int) : Option Int :=
  match a.value? key with
  | none => some otherwise
  | some text => Integer.parse? text.toList

/-- The command that a name and its arguments make. -/
def ofArguments (name : String) (a : Arguments) : Option Command :=
  let json := a.has "json"
  if a.has "help" then some .help
  else
    match name, a.others with
    | "index", [] => some (.index (Path.ofString ".") (a.has "force") (a.values "exclude"))
    | "index", [dir] => some (.index (Path.ofString dir) (a.has "force") (a.values "exclude"))
    | "update", f :: fs => some (.update ((f :: fs).map Path.ofString))
    | "search", [query] =>
      (integerOf a "limit" 20).map fun limit => .search query (a.has "text") limit json
    | "find", [name] => some (.find name ((a.value? "kind").getD "") json)
    | "stats", [] => some (.stats json)
    | "hierarchy", [] => (integerOf a "depth" 10).map fun depth => .hierarchy "" depth json
    | "hierarchy", [root] => (integerOf a "depth" 10).map fun depth => .hierarchy root depth json
    | "path", [source, target] => some (.route source target json)
    | "critical-path", [] => some (.criticalPath json)
    | "impact", [signal] => some (.impact signal json)
    | "complexity", [module] => some (.complexity module json)
    | "show", [module] => some (.describe module json)
    | "dot", [] => some (.dot ((a.value? "output").map Path.ofString) (a.has "unresolved"))
    | _, _ => none

/-- Those of the arguments of a command that are paths. They are looked at before the others are
counted. -/
def pathsOf (name : String) (a : Arguments) : List String :=
  match name with
  | "index" => a.others.take 1
  | "update" => a.others
  | "dot" => (a.value? "output").toList
  | _ => []

/-- Whether a NUL character stands in one of some paths. -/
def anyNull (paths : List String) : Bool := paths.any fun p => (Path.ofString p).hasNull

/-- The command that a name and the arguments after it make. -/
def parse (name : String) (args : List String) : Except Misuse Command :=
  match (flagsOf name).bind fun flags => Arguments.read flags true args with
  | none => .error .malformed
  | some a =>
    if !a.has "help" && anyNull (pathsOf name a) then .error .nullByte
    else
      match ofArguments name a with
      | some command => .ok command
      | none => .error .malformed

end Command

/-- Reads a whole line of arguments; it is misused if it names no command. -/
def Invocation.parse (args : List String) : Except Misuse Invocation :=
  match Command.Arguments.read Command.generalFlags false args with
  | none => .error .malformed
  | some a =>
    if a.has "help" then .ok { command := .ok .help }
    else if Command.anyNull (a.value? "log").toList then .error .nullByte
    else
      match a.others with
      | [] => .error .malformed
      | name :: rest =>
        if (Command.flagsOf name).isNone then .error .malformed
        else
          .ok { verbose := a.has "verbose", logFile := (a.value? "log").map Path.ofString,
                command := Command.parse name rest }

end RtlAtlas
