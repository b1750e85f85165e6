/-
Reading the settings of a repository from its configuration file. Without the file the settings are
the defaults; a file that cannot be read is an error of the settings, one that is not text is told
apart, and so are numbers that are too long and values that nest too deep.
-/
import RtlAtlas.Config
import RtlAtlas.FileTree
import RtlAtlas.Toml.Parser

namespace RtlAtlas.Config

/-- The settings that the bytes of a configuration file give. -/
def ofBytes (root : Path) (bytes : List UInt8) : Except Error Config :=
  match Text.malformed? bytes with
  | some m => .error (.malformed m)
  | none =>
    match Toml.parse ((Text.decode? bytes).getD []) with
    | .ok document => ofDocument root document
    | .error (.longNumber digits) => .error (.longNumber digits)
    | .error .tooDeep => .error (.tooDeep .settings)
    | .error .malformed => .error (.config (.unreadable (root.child fileName)))

/-- The settings of the repository in a directory. -/
def load (tree : FileTree) (directory : Path) : Except Error Config := do
  let root ← tree.resolve directory
  match ← tree.look (root.child fileName) with
  | none => return { root := root }
  | some (.file bytes) => ofBytes root bytes
  | some _ => throw (.config (.unreadable (root.child fileName)))

end RtlAtlas.Config
