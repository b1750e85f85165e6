/-
Settings of a repository: which files are indexed, how text is searched and where the index is
saved. They are read from a section of a configuration file; keys that are missing take their
defaults, unknown keys and values of a wrong type are refused.
-/
import RtlAtlas.Error
import RtlAtlas.Path.Pattern
import RtlAtlas.Toml.Value

namespace RtlAtlas

/-- The settings of a repository. -/
structure Config where
  root : Path
  extensions : List String := [".v", ".sv", ".svh", ".vh"]
  excludeDirs : List String :=
    [".git", ".hdlgraph", "node_modules", "build", "dist", "__pycache__", "venv", ".venv"]
  excludePatterns : List String := []
  backends : List String := ["ripgrep", "grep", "scan"]
  maxTextResults : Int := 500
  databasePath : Option Path := none
  deriving DecidableEq, Repr

namespace Config

def fileName : String := ".hdlgraph.toml"

/-- The section of the configuration file that holds the settings. -/
def sectionName : String := "hdlgraph"

/-- Where the index of a repository is saved unless the settings say otherwise. -/
def defaultDatabase (root : Path) : Path := (root.child ".hdlgraph").child "index.db"

/-- Where the index is saved: as the settings say, else as the environment says, else below the
root. -/
def database (c : Config) (environment : Option String) : Path :=
  match c.databasePath with
  | some p => p
  | none =>
    match environment with
    | some text => if text == "" then defaultDatabase c.root else Path.ofString text
    | none => defaultDatabase c.root

def knownKeys : List String :=
  ["extensions", "exclude_dirs", "exclude_patterns", "text_search_backends", "max_text_results",
    "db_path"]

/-- The keys of a section that are not known, sorted. -/
def unknownKeys (entries : List (String × Toml)) : List String :=
  (((entries.map (·.1)).eraseDups).filter fun k => !knownKeys.contains k).mergeSort fun a b =>
    (compare a b).isLE

def textOf? : Toml → Option String
  | .string s => some s
  | _ => none

/-- A list of strings under a key, or its default. -/
def stringsAt (entries : List (String × Toml)) (key : String) (otherwise : List String) :
    Except Error (List String) :=
  match Toml.lookup key entries with
  | none => .ok otherwise
  | some (.array items) =>
    match items.mapM textOf? with
    | some texts => .ok texts
    | none => .error (.config (.noStringList key))
  | some _ => .error (.config (.noStringList key))

/-- A positive integer under a key, or its default. -/
def positiveAt (entries : List (String × Toml)) (key : String) (otherwise : Int) :
    Except Error Int :=
  match Toml.lookup key entries with
  | none => .ok otherwise
  | some (.integer n) => if 0 < n then .ok n else .error (.config (.noPositiveInteger key))
  | some _ => .error (.config (.noPositiveInteger key))

/-- A path under a key, taken from the root. -/
def pathAt (entries : List (String × Toml)) (key : String) (root : Path) :
    Except Error (Option Path) :=
  match Toml.lookup key entries with
  | none => .ok none
  | some (.string s) => .ok (some (root.join (Path.ofString s)))
  | some _ => .error (.config (.noString key))

/-- An extension with its dot. -/
def dotted (ext : String) : String := if ext.toList.head? = some '.' then ext else "." ++ ext

def ofSection (root : Path) (entries : List (String × Toml)) : Except Error Config := do
  let unknown := unknownKeys entries
  if !unknown.isEmpty then throw (.config (.unknownKeys unknown))
  let plain : Config := { root := root }
  let extensions ← stringsAt entries "extensions" plain.extensions
  let excludeDirs ← stringsAt entries "exclude_dirs" plain.excludeDirs
  let excludePatterns ← stringsAt entries "exclude_patterns" plain.excludePatterns
  let backends ← stringsAt entries "text_search_backends" plain.backends
  let maxTextResults ← positiveAt entries "max_text_results" plain.maxTextResults
  let databasePath ← pathAt entries "db_path" root
  return { root := root, extensions := extensions.map dotted, excludeDirs := excludeDirs,
           excludePatterns := excludePatterns, backends := backends,
           maxTextResults := maxTextResults, databasePath := databasePath }

def ofDocument (root : Path) (document : List (String × Toml)) : Except Error Config :=
  match Toml.lookup sectionName document with
  | none => .ok { root := root }
  | some (.table entries) => ofSection root entries
  | some _ => .error (.config (.noTable (root.child fileName)))

/-- Whether a component of a path is hidden. -/
def isHidden (part : String) : Bool := part.toList.head? = some '.'

/-- Whether the settings keep a file out, given by its path below the root: hidden files and files
in hidden directories, files in excluded directories, and files of which the path or a component
matches an excluded pattern. -/
def excludes (c : Config) (relative : String) : Bool :=
  let parts := (Path.ofString relative).components
  (parts.dropLast.any fun p => isHidden p || c.excludeDirs.contains p) ||
    (parts.getLast?.any isHidden) ||
    c.excludePatterns.any fun pattern =>
      Pattern.matches? pattern relative || parts.any (Pattern.matches? pattern)

end Config

end RtlAtlas
