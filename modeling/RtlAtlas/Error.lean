/-
What can go wrong, and how it is said. Each constructor is one cause; `Error.message` holds all the
wording.
-/
import RtlAtlas.Console.Markup
import RtlAtlas.Json.Shape
import RtlAtlas.Path
import RtlAtlas.Text.Digit
import RtlAtlas.Text.Malformed
import RtlAtlas.Text.Surrogate

namespace RtlAtlas

/-- Why a source file gave no symbols. -/
inductive SourceFault where
  /-- It holds a NUL character. -/
  | binary
  /-- It is missing, no file, or not UTF-8. -/
  | unreadable
  deriving DecidableEq, Repr

/-- Why a query was refused. -/
inductive QueryFault where
  | blank
  | unknownMode (mode : String)
  deriving DecidableEq, Repr

/-- Why a configuration was refused. -/
inductive ConfigFault where
  | unreadable (file : Path)
  | noTable (file : Path)
  | unknownKeys (keys : List String)
  | noStringList (key : String)
  | noPositiveInteger (key : String)
  | noString (key : String)
  | unknownBackends (names : List String)
  deriving DecidableEq, Repr

/-- Why the contents of a database make no index. -/
inductive Damage where
  | noDatabase
  | cannotOpen
  | unknownEdge (parent child : String)
  | unknownKind (word : String)
  deriving DecidableEq, Repr

/-- Why an index could not be saved or loaded. -/
inductive StoreFault where
  | missing
  | neverSaved
  | wrongVersion (found : Option String)
  | loadFailed (damage : Damage)
  | saveFailed (damage : Damage)
  deriving DecidableEq, Repr

/-- Why nothing can be put at a path. -/
inductive PathFault where
  /-- The directory above is missing. -/
  | missing
  /-- A file stands where a directory is wanted. -/
  | occupied
  /-- A file stands where the path goes on. -/
  | throughFile
  /-- A directory stands where a file is wanted. -/
  | isDirectory
  /-- The path, or one of its components, is longer than paths may be. -/
  | nameTooLong
  deriving DecidableEq, Repr

/-- What lies too deep in others of its kind. -/
inductive Nest where
  /-- A JSON array. -/
  | array
  /-- A JSON object. -/
  | object
  /-- A value of a configuration file. -/
  | settings
  deriving DecidableEq, Repr

/-- What can go wrong. -/
inductive Error where
  | source (file : Path) (fault : SourceFault)
  | query (fault : QueryFault)
  /-- No search tool answered; each with what kept it from answering. -/
  | noBackend (failures : List (String × String))
  | config (fault : ConfigFault)
  | store (database : Path) (fault : StoreFault)
  /-- A stored index was wanted, but there is none or it cannot be read. -/
  | noIndex (cause : String)
  /-- A word that names no value of an enumeration. -/
  | unknownWord (enumeration word : String)
  | unknownBackends (names : List String)
  | foreignSymbol (id : String) (file expected : Path)
  | unknownEdge (parent child : String)
  | missingField (name : String)
  | database (damage : Damage)
  | path (place : Path) (fault : PathFault)
  /-- A text with a NUL character where none can stand. -/
  | nullByte
  /-- A number that does not fit into a column of a database. -/
  | largeNumber
  /-- A text that is needed as bytes but has no UTF-8 form. -/
  | unencodable (run : Text.Unencodable)
  /-- A JSON value that is used for what it is not. -/
  | misfit (fault : Json.Misfit)
  /-- An integer with more digits than are read, this many. -/
  | longNumber (digits : Nat)
  /-- Values that lie too deep in each other. -/
  | tooDeep (nest : Nest)
  /-- A file that must be text is none. -/
  | malformed (piece : Text.Malformed)
  /-- A console text whose markup is refused. -/
  | markup (fault : Markup.Fault)
  /-- An offset at which a text has no character. -/
  | outOfText
  deriving DecidableEq, Repr

/-- Says that an edge joins modules of which one is unknown. -/
def edgeMessage (parent child : String) : String :=
  s!"Edge {parent} -> {child} references an unknown module"

/-- Says that a word names no value of an enumeration. -/
def wordMessage (enumeration word : String) : String :=
  s!"{Text.quoted word} is not a valid {enumeration}"

def backendsMessage (names : List String) : String :=
  "Unknown text search backends: " ++ ", ".intercalate names

def Damage.message : Damage → String
  | .noDatabase => "file is not a database"
  | .cannotOpen => "unable to open database file"
  | .unknownEdge parent child => Text.quoted (edgeMessage parent child)
  | .unknownKind word => wordMessage "SymbolKind" word

/-- Why a source file gave no symbols, in words. -/
def SourceFault.message : SourceFault → String
  | .binary => "binary content"
  | .unreadable => "cannot read file (...)"

def QueryFault.message : QueryFault → String
  | .blank => "Search query must not be empty"
  | .unknownMode mode => s!"Unknown search mode '{mode}' (expected 'symbol' or 'text')"

def ConfigFault.message : ConfigFault → String
  | .unreadable file => s!"Failed to read {file.text}: ..."
  | .noTable file => s!"[hdlgraph] in {file.text} must be a table"
  | .unknownKeys keys => "Unknown configuration keys: " ++ ", ".intercalate keys
  | .noStringList key => s!"{key} must be a list of strings"
  | .noPositiveInteger key => s!"{key} must be a positive integer"
  | .noString key => s!"{key} must be a string"
  | .unknownBackends names => backendsMessage names

/-- Why an index could not be saved or loaded, in words. -/
def StoreFault.message (database : Path) : StoreFault → String
  | .missing => s!"No index found at {database.text}"
  | .neverSaved => s!"{database.text} does not contain a saved index"
  | .wrongVersion found =>
    let version := found.getD "None"
    s!"{database.text} has schema version {version}, expected 1"
  | .loadFailed damage => s!"Failed to load index from {database.text}: {damage.message}"
  | .saveFailed damage => s!"Failed to save index to {database.text}: {damage.message}"

/-- Why nothing can be put at a path, in words. -/
def PathFault.cause : PathFault → String
  | .missing => "No such file or directory"
  | .occupied => "File exists"
  | .throughFile => "Not a directory"
  | .isDirectory => "Is a directory"
  | .nameTooLong => "File name too long"

/-- The number of a cause. -/
def PathFault.number : PathFault → Nat
  | .missing => 2
  | .occupied => 17
  | .throughFile => 20
  | .isDirectory => 21
  | .nameTooLong => 36

/-- Why nothing can be put at a path, with the number of the cause. -/
def PathFault.message (f : PathFault) : String := s!"[Errno {f.number}] {f.cause}"

/-- Says that values lie too deep in each other. -/
def Nest.message : Nest → String
  | .array => "maximum recursion depth exceeded while decoding a JSON array from a unicode string"
  | .object => "maximum recursion depth exceeded while decoding a JSON object from a unicode string"
  | .settings => "maximum recursion depth exceeded"

/-- Why a marked-up text is refused, in words. -/
def markupMessage : Markup.Fault → String
  | .nothingToClose => "closing tag has nothing to close"
  | .badParameters => "error parsing the parameters of a tag"
  | .noNumber text => s!"invalid literal for int() with base 10: {Text.quoted text}"

/-- Whether an error is one that a command tells of itself; any other ends the command. -/
def Error.isTold : Error → Bool
  | .source .. => true
  | .query .. => true
  | .noBackend .. => true
  | .config .. => true
  | .store .. => true
  | .noIndex .. => true
  | _ => false

def Error.message : Error → String
  | .source file fault => s!"Cannot extract {file.text}: {fault.message}"
  | .query fault => fault.message
  | .noBackend failures =>
    let causes := "; ".intercalate (failures.map fun (name, cause) => s!"{name}: {cause}")
    "No text search backend could run" ++ if failures.isEmpty then "" else s!" ({causes})"
  | .config fault => fault.message
  | .store db fault => fault.message db
  | .noIndex cause => s!"{cause}\nRun 'hdlgraph index .' first."
  | .unknownWord enumeration word => wordMessage enumeration word
  | .unknownBackends names => backendsMessage names
  | .foreignSymbol id file expected =>
    s!"Symbol {id} belongs to {file.text}, not {expected.text}"
  | .unknownEdge parent child => edgeMessage parent child
  | .missingField name => name
  | .database damage => damage.message
  | .path place fault => s!"{fault.message}: {Text.quoted place.text}"
  | .nullByte => "embedded null byte"
  | .largeNumber => "Python int too large to convert to SQLite INTEGER"
  | .unencodable run => run.message
  | .misfit fault => fault.message
  | .longNumber digits => Text.longNumberMessage digits
  | .tooDeep nest => nest.message
  | .malformed piece => piece.message
  | .markup fault => markupMessage fault
  | .outOfText => "string index out of range"

end RtlAtlas
