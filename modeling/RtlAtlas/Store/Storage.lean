/-
Databases in a tree of files. Opening one makes it if nothing is there; a file of at most one byte is
a database without rows, any other file that is none is refused, and so is a directory. Saving
replaces what was saved before, or nothing if a number does not fit; a load that fails changes no
index.
-/
import RtlAtlas.FileTree
import RtlAtlas.Store.Snapshot

namespace RtlAtlas.FileTree

/-- The length of the longest path at which a database can be opened, in bytes. -/
def databasePathLimit : Nat := 504

/-- Opens the database at a place whose directory is there. -/
def openDatabaseAt (t : FileTree) (place : Path) : Except Error Database × FileTree :=
  match t.entries.get? place with
  | none => (.ok .empty, t.putAt place (.database .empty))
  | some (.database d) => (.ok d, t)
  | some (.file bytes) =>
    if bytes.length ≤ 1 then (.ok .empty, t.putAt place (.database .empty))
    else (.error (.database .noDatabase), t)
  | some _ => (.error (.database .cannotOpen), t)

/-- Opens the database at a path, after making the directories above it. -/
def openDatabase (t : FileTree) (p : Path) : Except Error Database × FileTree :=
  match t.makeDirectories p.parent with
  | (.error e, t') => (.error e, t')
  | (.ok (), t') =>
    if p.hasNull then (.error .nullByte, t')
    else if databasePathLimit < p.text.utf8ByteSize then (.error (.database .cannotOpen), t')
    else
      match t'.follow p with
      | .error _ => (.error (.database .cannotOpen), t')
      | .ok place => t'.openDatabaseAt place

/-- An error of opening a database, as one of a save or a load. -/
def asStoreError (p : Path) (fault : Damage → StoreFault) : Error → Error
  | .database damage => .store p (fault damage)
  | e => e

/-- Puts a database where a path leads to. -/
def putDatabase (t : FileTree) (p : Path) (d : Database) : FileTree :=
  match t.follow p with
  | .ok place => t.putAt place (.database d)
  | .error _ => t

/-- Saves a snapshot. -/
def saveSnapshot (t : FileTree) (p : Path) (time : String) (s : Snapshot) :
    Except Error Unit × FileTree :=
  match t.openDatabase p with
  | (.error e, t') => (.error (asStoreError p .saveFailed e), t')
  | (.ok d, t') =>
    if s.fits then (.ok (), t'.putDatabase p (s.replace time d)) else (.error .largeNumber, t')

/-- Loads a snapshot. -/
def loadSnapshot (t : FileTree) (p : Path) : Except Error Snapshot × FileTree :=
  match t.look p with
  | .error e => (.error e, t)
  | .ok none => (.error (.store p .missing), t)
  | .ok (some _) =>
    match t.openDatabase p with
    | (.error e, t') => (.error (asStoreError p .loadFailed e), t')
    | (.ok d, t') => (d.snapshot.mapError (.store p), t')

/-- The number of rows of each kind in a database. -/
def databaseCounts (t : FileTree) (p : Path) : Except Error Database.Counts × FileTree :=
  let (opened, t') := t.openDatabase p
  (opened.map Database.counts, t')

def clearDatabase (t : FileTree) (p : Path) : Except Error Unit × FileTree :=
  match t.openDatabase p with
  | (.error e, t') => (.error e, t')
  | (.ok _, t') => (.ok (), t'.putDatabase p .empty)

end RtlAtlas.FileTree
