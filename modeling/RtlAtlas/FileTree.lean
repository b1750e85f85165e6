/-
A tree of files: directories, files with their bytes, databases and symbolic links. Paths are
absolute. A place is a path without `..` on which no link stands; what there is stands at its place.
`place` is the place that a path means, whether or not anything is there. `follow` goes a path
component by component, so that everything on the way must be a directory or lead to one.

A link is kept with the place that it leads to when all links behind it are followed. Left out are
links that lead nowhere because they go in circles, back out of what is not there, or through more
others than a system follows, and names of files that are no Unicode text. Left out elsewhere is how
deep the searches of a graph may go before they run out of stack.
-/
import RtlAtlas.Error
import RtlAtlas.Store.Database

namespace RtlAtlas

/-- What stands at a place. -/
inductive Entry where
  | directory
  | file (bytes : List UInt8)
  | database (contents : Database)
  /-- A symbolic link, with the place that it leads to. -/
  | link (place : Path)
  deriving DecidableEq, Repr

/-- The place that an entry leads on to, if it is a link. -/
def Entry.target? : Entry → Option Path
  | .link place => some place
  | _ => none

/-- A tree of files. -/
structure FileTree where
  entries : OrderedMap Path Entry
  deriving DecidableEq, Repr

namespace FileTree

def rootPath : Path := ⟨.root, []⟩

/-- A path without `..`. -/
def plain (p : Path) : Path := Path.resolve rootPath p

/-- The tree that holds the root directory only. -/
def empty : FileTree := ⟨OrderedMap.empty.insert rootPath .directory⟩

/-- What stands at a path in which no link is followed. -/
def entry? (t : FileTree) (p : Path) : Option Entry := t.entries.get? (plain p)

/-- The place that the link at a path leads to, if a link stands there. -/
def linkAt? (t : FileTree) (p : Path) : Option Path := (t.entries.get? p).bind Entry.target?

/-- The directories above a path, the root first. -/
def ancestors (p : Path) : List Path :=
  (List.range p.parts.length).map fun n => { p with parts := p.parts.take n }

/-- Makes the directories above a place that are missing. -/
def makeParents (t : FileTree) (place : Path) : FileTree :=
  ⟨(ancestors place).foldl (fun es a => es.insertNew a .directory) t.entries⟩

/-- Puts an entry at a place and makes the directories above it. -/
def putAt (t : FileTree) (place : Path) (e : Entry) : FileTree :=
  ⟨(t.makeParents place).entries.insert place e⟩

/-- Puts an entry at a path in which no link is followed. -/
def put (t : FileTree) (p : Path) (e : Entry) : FileTree := t.putAt (plain p) e

/-- Writes a file. -/
def write (t : FileTree) (p : Path) (bytes : List UInt8) : FileTree := t.put p (.file bytes)

/-- Makes a directory. -/
def makeDirectory (t : FileTree) (p : Path) : FileTree := t.put p .directory

/-! ## What a path means -/

/-- One component on from a place. A link is followed wherever it leads, also if nothing is there. -/
def onward (t : FileTree) (here : Path) (part : String) : Path :=
  if part == ".." then here.parent else (t.linkAt? (here.child part)).getD (here.child part)

/-- The place that a path means. -/
def place (t : FileTree) (p : Path) : Path := p.parts.foldl t.onward rootPath

/-- The place that a path means; a NUL character means none. -/
def resolve (t : FileTree) (p : Path) : Except Error Path :=
  if p.hasNull then .error .nullByte else .ok (t.place p)

/-- The place that a path means where no link is on the way. -/
def placeOf (p : Path) : Except Error Path :=
  if p.hasNull then .error .nullByte else .ok (plain p)

/-! ## Following a path step by step -/

/-- The length of the longest component that can be looked up, in bytes. -/
def nameLimit : Nat := 255

/-- The length of the longest path that can be followed, in bytes. -/
def pathLimit : Nat := 4095

/-- The place that components lead to, from a place on, where `jump` goes on from what each of them
names. -/
def walkBy (t : FileTree) (jump : Path → Except PathFault Path) :
    Path → List String → Except PathFault Path
  | here, [] => .ok here
  | here, part :: parts =>
    match t.entries.get? here with
    | none => .error .missing
    | some .directory =>
      if part == ".." then t.walkBy jump here.parent parts
      -- a name is too long even where nothing has that name
      else if nameLimit < part.utf8ByteSize then .error .nameTooLong
      else
        match jump (here.child part) with
        | .error fault => .error fault
        | .ok next => t.walkBy jump next parts
    | some _ => .error .throughFile

/-- Goes on to the place that a link leads to, if everything above that place is there. -/
def throughLink (t : FileTree) (p : Path) : Except PathFault Path :=
  match t.linkAt? p with
  | none => .ok p
  | some place => (t.walkBy .ok rootPath place.parts).map fun _ => place

/-- The place that components lead to, from a place on. -/
def walk (t : FileTree) : Path → List String → Except PathFault Path := t.walkBy t.throughLink

/-- The place that a path leads to. Nothing need be at that place itself. -/
def follow (t : FileTree) (p : Path) : Except Error Path :=
  if p.hasNull then .error .nullByte
  else if pathLimit < p.text.utf8ByteSize then .error (.path p .nameTooLong)
  else (t.walk rootPath p.parts).mapError (.path p)

/-- What a path leads to: nothing if it cannot be followed to its end, an error if it is too long to
be followed at all. -/
def look (t : FileTree) (p : Path) : Except Error (Option Entry) :=
  match t.follow p with
  | .ok place => .ok (t.entries.get? place)
  | .error (.path q .nameTooLong) => .error (.path q .nameTooLong)
  | .error _ => .ok none

/-- Whether a path leads to a directory. -/
def isDirectory (t : FileTree) (p : Path) : Bool :=
  match t.look p with
  | .ok (some .directory) => true
  | _ => false

/-- Whether a path leads to a file of any kind. -/
def isFile (t : FileTree) (p : Path) : Bool :=
  match t.look p with
  | .ok (some e) => e != .directory
  | _ => false

/-- The bytes of the file that a path leads to. -/
def read? (t : FileTree) (p : Path) : Option (List UInt8) :=
  match t.look p with
  | .ok (some (.file bytes)) => some bytes
  | _ => none

/-- Whether a link stands at the end of a path. -/
def endsInLink (t : FileTree) (p : Path) : Bool :=
  match t.follow p.parent with
  | .ok above => (p.parts.getLast?.bind fun part => t.linkAt? (above.child part)).isSome
  | .error _ => false

/-- Makes a directory in one that is there, unless it is there itself. A link that leads to none is in
the way. -/
def makeInside (t : FileTree) (p : Path) : Except Error FileTree :=
  if t.endsInLink p && !t.isDirectory p then .error (.path p .occupied)
  else do
    let place ← t.follow p
    match t.entries.get? place with
    | none => return t.putAt place .directory
    | some .directory => return t
    | some _ => throw (.path p .occupied)

/-- Makes a directory, after those above it that are missing. What was made stays when one of them
cannot be made. -/
def makeDirectories (t : FileTree) (p : Path) : Except Error Unit × FileTree :=
  match t.makeInside p with
  | .ok t' => (.ok (), t')
  | .error (.path q .missing) =>
    if p.parts = [] then (.error (.path q .missing), t)
    else
      match t.makeDirectories p.parent with
      | (.error e, t') => (.error e, t')
      | (.ok (), t') =>
        match t'.makeInside p with
        | .ok t'' => (.ok (), t'')
        | .error e => (.error e, t')
  | .error e => (.error e, t)
termination_by p.parts.length
decreasing_by
  simp only [Path.parent, List.length_dropLast]
  have : p.parts.length ≠ 0 := by simpa using ‹¬p.parts = []›
  omega

/-- The place of a file in a directory that is there. -/
def placeForFile (t : FileTree) (p : Path) : Except Error Path := do
  let place ← t.follow p
  if t.entries.get? place = some .directory then throw (.path p .isDirectory) else return place

/-- Writes a file into a directory that must be there. -/
def writeBeside (t : FileTree) (p : Path) (bytes : List UInt8) : Except Error FileTree :=
  (t.placeForFile p).map fun place => t.putAt place (.file bytes)

/-- Writes a file, after the directories above it that are missing. -/
def writeBelow (t : FileTree) (p : Path) (bytes : List UInt8) : Except Error Unit × FileTree :=
  match t.makeDirectories p.parent with
  | (.error e, t') => (.error e, t')
  | (.ok (), t') =>
    match t'.writeBeside p bytes with
    | .error e => (.error e, t')
    | .ok t'' => (.ok (), t'')

/-- The text of a file, which must be there; what a database holds is no text. -/
def readText (t : FileTree) (p : Path) : Except Error (List Char) := do
  let place ← t.placeForFile p
  match t.entries.get? place with
  | none => throw (.path p .missing)
  | some (.file bytes) =>
    match Text.malformed? bytes with
    | some m => throw (.malformed m)
    | none => return (Text.decode? bytes).getD []
  | some _ => return []

/-- Whether a path lies at or below another one. -/
def isWithin (p base : Path) : Bool := p.anchor == base.anchor && base.parts.isPrefixOf p.parts

/-- Takes away what stands at a path, with all below it; of a link only the link itself. -/
def delete (t : FileTree) (p : Path) : FileTree :=
  ⟨⟨t.entries.entries.filter fun e => !isWithin e.1 (plain p)⟩⟩

/-! ## What is below a directory -/

/-- The paths, through a directory, of all that stands below it. A link is not gone into, whatever it
leads to, but the directory may be reached through links itself. -/
def pathsBelow (t : FileTree) (directory : Path) : List Path :=
  let base := t.place directory
  (t.entries.keys.filter fun p => isWithin p base && p != base).map fun p =>
    { directory with parts := directory.parts ++ p.parts.drop base.parts.length }

/-- The files below a directory, by their components; links to files are among them. A relative path
names no directory of the tree. -/
def filesBelow (t : FileTree) (directory : Path) : List Path :=
  if directory.isAbsolute && t.isDirectory directory then
    Path.sortByParts ((t.pathsBelow directory).filter t.isFile)
  else []

/-- Looks at a directory and at all that is below it; something may be too long to be looked at. -/
def survey (t : FileTree) (directory : Path) : Except Error Unit :=
  (directory :: t.pathsBelow directory).forM fun p => (t.look p).map fun _ => ()

end FileTree

end RtlAtlas
