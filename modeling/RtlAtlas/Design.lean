/-
What a hardware source text describes: modules with ports, instances of modules with their
connections and parameter overrides, and symbols, the named entities that a search finds.
-/
import RtlAtlas.Digest.Sha1
import RtlAtlas.OrderedMap
import RtlAtlas.Path
import RtlAtlas.Text.Utf8

namespace RtlAtlas

/-- The direction of a port. -/
inductive Direction where
  | input
  | output
  | inout
  deriving DecidableEq, Repr

def Direction.word : Direction → String
  | .input => "input"
  | .output => "output"
  | .inout => "inout"

def Direction.ofWord? : String → Option Direction
  | "input" => some .input
  | "output" => some .output
  | "inout" => some .inout
  | _ => none

/-- A declared port of a module. -/
structure Port where
  name : String
  direction : Direction
  type : String := "wire"
  deriving DecidableEq, Repr

/-- The binding of a port to a signal where a module is instantiated. A positional one has an empty
port name and the position it was written at. -/
structure Connection where
  port : String
  signal : String
  direction : Option Direction := none
  position : Option Int := none
  deriving DecidableEq, Repr

/-- One instantiation inside a parent module. -/
structure Instance where
  name : String
  moduleType : String
  file : Path
  line : Int
  connections : List Connection
  parameters : OrderedMap String String
  deriving DecidableEq, Repr

/-- A module declaration. -/
structure ModuleDef where
  name : String
  file : Path
  line : Int
  endLine : Int
  ports : List Port
  deriving DecidableEq, Repr

/-- Whether a line lies between the first and the last line of a module. -/
def ModuleDef.containsLine (m : ModuleDef) (line : Int) : Bool := m.line ≤ line && line ≤ m.endLine

/-- The kinds of named entities. -/
inductive SymbolKind where
  | module
  | function
  | task
  | port
  | signal
  | instantiation
  | constant
  deriving DecidableEq, Repr

def SymbolKind.word : SymbolKind → String
  | .module => "module"
  | .function => "function"
  | .task => "task"
  | .port => "port"
  | .signal => "signal"
  | .instantiation => "instance"
  | .constant => "constant"

def SymbolKind.ofWord? : String → Option SymbolKind
  | "module" => some .module
  | "function" => some .function
  | "task" => some .task
  | "port" => some .port
  | "signal" => some .signal
  | "instance" => some .instantiation
  | "constant" => some .constant
  | _ => none

/-- A named, located entity of an indexed file. -/
structure Symbol where
  id : String
  repo : Path
  file : Path
  name : String
  kind : SymbolKind
  line : Int
  endLine : Int
  nodeType : String
  hash : String
  deriving DecidableEq, Repr

/-- The identifier of a symbol: where it stands relative to its repository, its name and its
line. -/
def Symbol.idOf (repo file : Path) (name : String) (line : Int) : String :=
  s!"{file.shownFrom repo}:{name}:{line}"

/-- The digest by which equal symbols are recognised: the first sixteen hexadecimal digits of the
SHA-1 digest of file, name and line. -/
def Symbol.hashOf (file : Path) (name : String) (line : Int) : String :=
  String.ofList ((Digest.sha1Hex (Text.bytesOf s!"{file.text}:{name}:{line}")).toList.take 16)

/-- A symbol with its identifier and digest. -/
def Symbol.create (repo file : Path) (name : String) (kind : SymbolKind) (line endLine : Int)
    (nodeType : String) : Symbol where
  id := Symbol.idOf repo file name line
  repo := repo
  file := file
  name := name
  kind := kind
  line := line
  endLine := endLine
  nodeType := nodeType
  hash := Symbol.hashOf file name line

/-- The order of symbols: by the text of their file, then line, then name. -/
def Symbol.ord (a b : Symbol) : Ordering :=
  (compare a.file.text b.file.text).then ((compare a.line b.line).then (compare a.name b.name))

/-- Sorts symbols by where they stand; equally placed ones keep their order. -/
def Symbol.sort (symbols : List Symbol) : List Symbol :=
  symbols.mergeSort fun a b => (Symbol.ord a b).isLE

end RtlAtlas
