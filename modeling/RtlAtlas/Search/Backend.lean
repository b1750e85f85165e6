/-
Searching the lines of indexed files. What is searched is a scope: the indexed files, of which some
are held in memory. Files on disk go to the first backend that can answer; what is held in memory is
always scanned here.
-/
import RtlAtlas.Error
import RtlAtlas.OrderedMap
import RtlAtlas.Search.Match
import RtlAtlas.Slice
import RtlAtlas.Text.Utf8

namespace RtlAtlas.Search

/-- What a search looks at. -/
structure Scope where
  files : List Path
  contents : OrderedMap Path String

/-- The files whose text is the one on disk. -/
def Scope.diskFiles (s : Scope) : List Path := s.files.filter fun f => !s.contents.contains f

/-- Why a backend gave no matches. -/
inductive BackendFault where
  /-- It failed, and another one may be asked. -/
  | failed (cause : String)
  /-- Its output cannot be read, which no other backend mends. -/
  | broken (error : Error)
  deriving DecidableEq, Repr

/-- A way of searching files on disk. -/
structure Backend where
  name : String
  available : Bool
  /-- The matches of a query in files, limited in number. -/
  search : (query : String) → (files : List Path) → (limit : Int) →
    Except BackendFault (List LineMatch)

/-- The names of the backends that there are. -/
def backendNames : List String := ["ripgrep", "grep", "scan"]

/-- The names, out of some, that name no backend. -/
def unknownNames (names : List String) : List String :=
  names.filter fun n => !backendNames.contains n

/-- Some names of backends, if all of them name one. -/
def checkNames (names : List String) : Except Error (List String) :=
  if (unknownNames names).isEmpty then .ok names else .error (.unknownBackends (unknownNames names))

/-- The matches of the first backend that answers, where `failures` tells of those asked before. -/
def searchDiskFrom (query : String) (files : List Path) (limit : Int) :
    List (String × String) → List Backend → Except Error (List LineMatch)
  | failures, [] => .error (.noBackend failures)
  | failures, b :: bs =>
    if b.available then
      match b.search query files limit with
      | .ok found => .ok found
      | .error (.failed cause) => searchDiskFrom query files limit (failures ++ [(b.name, cause)]) bs
      | .error (.broken e) => .error e
    else searchDiskFrom query files limit (failures ++ [(b.name, "not available")]) bs

/-- The matches of the first backend that answers. -/
def searchDisk (backends : List Backend) (query : String) (files : List Path) (limit : Int) :
    Except Error (List LineMatch) :=
  searchDiskFrom query files limit [] backends

/-- The matches in what is held in memory. -/
def searchMemory (query : String) (contents : OrderedMap Path String) : List LineMatch :=
  contents.entries.flatMap fun (file, text) => scanLines file text.toList query.toList

/-- The matches of a query in a scope, by file and line, the first ones up to a limit. -/
def searchText (backends : List Backend) (query : String) (scope : Scope) (limit : Int) :
    Except Error (List LineMatch) :=
  (searchDisk backends query scope.diskFiles limit).map fun found =>
    takeTo limit (LineMatch.sort (found ++ searchMemory query scope.contents))

/-! ## Reading files line by line -/

/-- The text of a file for scanning: malformed bytes are marked and line breaks are made alike. -/
def scannedText (bytes : List UInt8) : List Char := Text.unifyBreaks (Text.decodeMarked bytes)

/-- The matches in the remaining files, up to a limit; files that cannot be read are passed over. -/
def scanFrom (read : Path → Option (List UInt8)) (query : String) (limit : Int) :
    List LineMatch → List Path → List LineMatch
  | found, [] => found
  | found, f :: fs =>
    match read f with
    | none => scanFrom read query limit found fs
    | some bytes =>
      let found' := found ++ scanLines f (scannedText bytes) query.toList
      if limit ≤ found'.length then takeTo limit found' else scanFrom read query limit found' fs

/-- The backend that reads each file itself. -/
def scanBackend (read : Path → Option (List UInt8)) : Backend where
  name := "scan"
  available := true
  search := fun query files limit => .ok (scanFrom read query limit [] files)

end RtlAtlas.Search
