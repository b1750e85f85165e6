/-
The search tools that are at hand for a tree of files. ripgrep is not installed; grep reads the files
it is given, takes each line of the query as a text to look for, ends lines at line feeds only,
passes files over that are no text, and fails as a whole when one of its files is missing.
-/
import RtlAtlas.FileTree
import RtlAtlas.Search.External

namespace RtlAtlas.Search

open RtlAtlas.Text

/-- The lines of a text, where only line feeds end a line. -/
def feedLines (cs : List Char) : List (List Char) :=
  let parts := splitAt '\n' cs
  if parts.getLast? = some [] then parts.dropLast else parts

/-- The text of a file that grep searches; nothing of a file that is no text. -/
def plainText (bytes : List UInt8) : List Char :=
  match decode? bytes with
  | some cs => if cs.contains (Char.ofNat 0) then [] else cs
  | none => []

/-- The name of the directory that the tree hangs in where grep runs. No text that grep prints holds
it, so that a text which looks like a match in some file is not taken for one. -/
def mount : String := String.ofList [Char.ofNat 0]

/-- The file that a path in grep's output names. Below the mount it is a file of the tree; a relative
path starts at the working directory, if that lies in the tree. -/
def mountedFile? (tree : FileTree) (here : Option Path) (path : Path) : Option Path :=
  match path.anchor, path.parts with
  | .relative, part :: parts =>
    if part == mount then some (tree.place ⟨.root, parts⟩)
    else here.map fun directory => tree.place (directory.join path)
  | .relative, [] => here.map tree.place
  | _, _ => none

/-- How the paths of a program that is installed are understood. -/
def installedNaming (tree : FileTree) (here : Option Path) : Naming :=
  .by fun path => tree.place ((here.getD FileTree.rootPath).join path)

/-- How grep's paths are understood. -/
def mountedNaming (tree : FileTree) (here : Option Path) : Naming where
  given := tree.place
  printed := fun path => .ok (mountedFile? tree here path)
  of_error := fun _ _ h => by cases h

def grepFile (patterns : List (List Char)) (file : String) (bytes : List UInt8) : List Char :=
  ((feedLines (plainText bytes)).zipIdx 1).flatMap fun (line, number) =>
    if patterns.any fun p => occurs (lower p) (lower line) then
      s!"{mount}{file}:{number}:".toList ++ line ++ ['\n']
    else []

/-- What grep has to say against a file. -/
def grepComplaint? (tree : FileTree) (file : String) : Option String :=
  match tree.follow (Path.ofString file) with
  | .error (.path _ fault) => some s!"grep: {file}: {fault.cause}"
  | .error _ => none
  | .ok place =>
    match tree.entry? place with
    | none => some s!"grep: {file}: {PathFault.missing.cause}"
    | some .directory => some s!"grep: {file}: {PathFault.isDirectory.cause}"
    | some _ => none

/-- How grep ends for a query in some files of a tree. -/
def grepExit (tree : FileTree) (query : String) (files : List String) : Exit :=
  let patterns := splitAt '\n' query.toList
  let output := files.flatMap fun f => grepFile patterns f ((tree.read? (Path.ofString f)).getD [])
  match files.filterMap (grepComplaint? tree) with
  | [] => ⟨if output.isEmpty then noMatch else 0, output, []⟩
  | complaints => ⟨2, output, ("\n".intercalate complaints).toList⟩

/-- Why a program cannot be started in a directory. -/
def startFault? (tree : FileTree) (directory : Path) : Option PathFault :=
  match tree.follow directory with
  | .error (.path _ fault) => some fault
  | .error _ => none
  | .ok place =>
    match tree.entry? place with
    | none => some .missing
    | some .directory => none
    | some _ => some .throughFile

/-- The length of the longest argument that a program can be given, in bytes. -/
def argumentLimit : Nat := 131071

/-- How a grep command ends in a directory, or why it cannot be started there. -/
def execGrep (tree : FileTree) (directory : Path) (_ : Nat) (command : List String) :
    Except String Exit :=
  match startFault? tree directory with
  | some fault =>
    let place := quoted directory.text
    .error s!"{fault.message}: PosixPath({place})"
  | none =>
    if command.any fun argument => argumentLimit < argument.utf8ByteSize then
      .error "[Errno 7] Argument list too long: 'grep'"
    else .ok (grepExit tree (command.getD 3 "") (command.drop 5))

/-- Why a program that is not installed cannot be started. -/
def execAbsent (_ : Nat) (command : List String) : Except String Exit :=
  let name := quoted (command.headD "")
  .error s!"[Errno 2] No such file or directory: {name}"

/-- The search tool with a name, for a tree whose files are named relative to `directory`; `here` is
the working directory, if it lies in the tree. -/
def backend? (tree : FileTree) (directory : Path) (here : Option Path) : String → Option Backend
  | "ripgrep" =>
    some (ripgrep.backend false (installedNaming tree here) (runProgram ripgrep.name execAbsent))
  | "grep" =>
    let run := runProgram grep.name (execGrep tree directory)
    some (grep.backend true (mountedNaming tree here) run)
  | "scan" => some (scanBackend tree.read?)
  | _ => none

end RtlAtlas.Search
