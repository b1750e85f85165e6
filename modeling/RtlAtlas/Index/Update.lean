/-
Bringing the index up to date with a tree of files. `build` starts anew, `refresh` reads only files
whose digest has changed and drops files that are gone, `updateFile` and `removeFile` change one
file. A file that gives no symbols is reported and leaves what was known of it in place.

A file that is discovered is known by the path that leads to it through the root, with links left as
they stand. What is updated or dropped is the file at the place that a path means.
-/
import RtlAtlas.Digest.Sha256
import RtlAtlas.FileTree
import RtlAtlas.Index.Basic
import RtlAtlas.Source.Extraction

namespace RtlAtlas

/-- What a run over files has done. -/
structure Stats where
  files : Nat := 0
  symbols : Nat := 0
  modules : Nat := 0
  instances : Nat := 0
  skipped : Nat := 0
  unchanged : Nat := 0
  removed : Nat := 0
  cancelled : Bool := false
  errors : List Error := []
  deriving DecidableEq, Repr

def Stats.summary (s : Stats) : String :=
  s!"IndexStats(files={s.files}, symbols={s.symbols}, modules={s.modules}, " ++
    s!"instances={s.instances}, skipped={s.skipped}, unchanged={s.unchanged}, " ++
    s!"removed={s.removed}, errors={s.errors.length})"

/-- Counts a file that was taken in. -/
def Stats.count (s : Stats) (e : Source.Extraction) : Stats :=
  { s with
    files := s.files + 1
    symbols := s.symbols + e.symbols.length
    modules := s.modules + e.modules.length
    instances := s.instances + e.instances.length }

/-- A report of progress: the file done, its number and the number of files. -/
structure Progress where
  file : Path
  current : Nat
  total : Nat
  deriving DecidableEq, Repr

namespace Index

/-- The digest of a file's bytes, empty if it cannot be read. -/
def fileHash (tree : FileTree) (file : Path) : String :=
  match tree.read? file with
  | some bytes => Digest.sha256Hex bytes
  | none => ""

/-- The digest of a text. -/
def textHash (content : List Char) : String := Digest.sha256Hex (Text.encode content)

def readSource (tree : FileTree) (file : Path) : Except Error (List Char) :=
  match (tree.read? file).bind Text.decode? with
  | some content => .ok content
  | none => .error (.source file .unreadable)

/-- The source files below a directory, and how many candidates the settings keep out. -/
def discover (config : Config) (tree : FileTree) (directory : Path) : List Path × Nat :=
  let extensions := config.extensions.map Text.lowerString
  let candidates := (tree.filesBelow directory).filter fun f =>
    extensions.contains (Text.lowerString f.suffix)
  let wanted := candidates.filter fun f =>
    !config.excludes (f.shownFrom directory) && Source.supports f
  (wanted, candidates.length - wanted.length)

def symbolsOf (root file : Path) (e : Source.Extraction) : List Symbol :=
  e.symbols.map fun s => Symbol.create root file s.name s.kind s.line s.endLine s.nodeType

/-- Puts what a file declares in place of what was known of it. -/
def apply (i : Index) (file : Path) (e : Source.Extraction) (hash : String) : Index :=
  { i with
    table := (i.table.replaceFile file (symbolsOf i.root file e)).2
    modules := i.modules.insert file e.modules
    instances := i.instances.insert file e.instances
    hashes := i.hashes.insert file hash }

/-- What a file on disk declares, and its text. -/
def extractFile (tree : FileTree) (file : Path) : Except Error (Source.Extraction × List Char) := do
  let content ← readSource tree file
  let e ← Source.extract file content
  return (e, content)

/-- Takes one file in from disk; a file that gives no symbols is counted as an error. -/
def indexFile (tree : FileTree) (i : Index) (s : Stats) (file : Path) : Index × Stats :=
  match extractFile tree file with
  | .ok (e, content) =>
    let applied := i.apply file e (textHash content)
    -- a text held in memory gives way to the one on disk
    ({ applied with contents := applied.contents.erase file }, Stats.count s e)
  | .error error => (i, { s with errors := s.errors ++ [error] })

/-- Takes the remaining files in from disk, until the number given by `stopAfter` is reached. -/
def indexFiles (tree : FileTree) (stopAfter : Option Int) (total : Nat) :
    Nat → Index → Stats → List Path → Index × Stats × List Progress
  | _, i, s, [] => (i, s, [])
  | done, i, s, f :: fs =>
    let (i', s') := indexFile tree i s f
    let report : Progress := ⟨f, done + 1, total⟩
    -- the file at which a run stops has been taken in and told of
    if stopAfter.any fun n => decide (n ≤ (done : Int) + 1) then
      (i', { s' with cancelled := true }, [report])
    else
      let (i'', s'', reports) := indexFiles tree stopAfter total (done + 1) i' s' fs
      (i'', s'', report :: reports)

/-- Indexes every source file below a directory, by default the one of the settings, starting from
nothing. -/
def build (i : Index) (tree : FileTree) (directory : Option Path) (stopAfter : Option Int) :
    Index × Stats × List Progress :=
  let root := directory.getD i.config.root
  let (files, skipped) := discover i.config tree root
  let (i', s, reports) :=
    indexFiles tree stopAfter files.length 0 { i.clear with root := root } { skipped := skipped } files
  (i'.changed, s, reports)

def symbolsIn (i : Index) (file : Path) : List Symbol := i.table.inFile file

/-- Whether anything is known of a file. -/
def knows (i : Index) (file : Path) : Bool :=
  i.hashes.contains file || !(i.table.idsInFile file).isEmpty

/-- Drops all that is known of a file. -/
def dropFile (i : Index) (file : Path) : Index :=
  { i with
    table := i.table.removeFile file
    modules := i.modules.erase file
    instances := i.instances.erase file
    hashes := i.hashes.erase file
    contents := i.contents.erase file }

/-- Drops a file; tells whether anything was known of it. -/
def removeFile (i : Index) (file : Path) : Bool × Index :=
  let known := i.knows file
  let dropped := i.dropFile file
  (known, if known then dropped.changed else dropped)

/-- Indexes the files that are new or have changed, and drops those that are gone. -/
def refresh (i : Index) (tree : FileTree) (stopAfter : Option Int) :
    Index × Stats × List Progress :=
  let (files, skipped) := discover i.config tree i.root
  let gone := i.hashes.keys.filter fun f => !files.contains f
  -- a path that has come to lead elsewhere is gone, but what is dropped is the file that it leads to
  let kept := (gone.map tree.place).foldl dropFile i
  -- a file whose digest stands in its record is not read again, whatever its text came from
  let fresh := files.filter fun f => kept.hashes.get? f != some (fileHash tree f)
  let stats : Stats :=
    { skipped := skipped, removed := gone.length, unchanged := files.length - fresh.length }
  let (i', s, reports) := indexFiles tree stopAfter fresh.length 0 kept stats fresh
  (i'.changed, s, reports)

/-- Takes one file in, from disk or with a text handed over; on failure nothing changes. -/
def updateFile (i : Index) (tree : FileTree) (file : Path) (content : Option String) :
    Except Error Stats × Index :=
  let found : Except Error (Source.Extraction × List Char) :=
    match content with
    | none => extractFile tree file
    | some text => (Source.extract file text.toList).map (·, text.toList)
  match found with
  | .error e => (.error e, i)
  | .ok (e, text) =>
    let applied := i.apply file e (textHash text)
    let contents :=
      match content with
      | none => applied.contents.erase file
      | some given => applied.contents.insert file given
    (.ok (Stats.count {} e), { applied with contents := contents }.changed)

end Index

end RtlAtlas
