/-
The symbols of an index, by identifier. Two further maps lead from a name and from a file to the
identifiers that carry them, so that look-ups need not walk over all symbols; every operation keeps
the three in step. What is listed comes in the order of file, line and name.
-/
import RtlAtlas.Design
import RtlAtlas.Error

namespace RtlAtlas

/-- Symbols by identifier, with the identifiers by name and by file. -/
structure Table where
  symbols : OrderedMap String Symbol
  byName : OrderedMap String (List String)
  byFile : OrderedMap Path (List String)
  deriving DecidableEq, Repr

namespace Table

def empty : Table := ⟨.empty, .empty, .empty⟩

/-- Notes an identifier under a key. -/
def note {α : Type} [DecidableEq α] (index : OrderedMap α (List String)) (key : α) (id : String) :
    OrderedMap α (List String) :=
  let ids := (index.get? key).getD []
  index.insert key (if ids.contains id then ids else ids ++ [id])

/-- Takes an identifier away from under a key; a key without identifiers goes. -/
def forget {α : Type} [DecidableEq α] (index : OrderedMap α (List String)) (key : α) (id : String) :
    OrderedMap α (List String) :=
  match index.get? key with
  | none => index
  | some ids =>
    let ids' := ids.filter (· != id)
    if ids'.isEmpty then index.erase key else index.insert key ids'

def size (t : Table) : Nat := t.symbols.size

def contains (t : Table) (id : String) : Bool := t.symbols.contains id

def get? (t : Table) (id : String) : Option Symbol := t.symbols.get? id

/-- Takes a symbol away. -/
def remove (t : Table) (id : String) : Table :=
  match t.symbols.get? id with
  | none => t
  | some s =>
    { symbols := t.symbols.erase id
      byName := forget t.byName s.name id
      byFile := forget t.byFile s.file id }

/-- Adds a symbol at the end; one with the same identifier makes way. -/
def add (t : Table) (s : Symbol) : Table :=
  let t' := t.remove s.id
  { symbols := t'.symbols.insert s.id s
    byName := note t'.byName s.name s.id
    byFile := note t'.byFile s.file s.id }

/-- The identifiers of the symbols of a file. -/
def idsInFile (t : Table) (file : Path) : List String := (t.byFile.get? file).getD []

/-- The identifiers of the symbols with a name. -/
def idsOfName (t : Table) (name : String) : List String := (t.byName.get? name).getD []

/-- Takes all symbols of a file away. -/
def removeFile (t : Table) (file : Path) : Table := (t.idsInFile file).foldl remove t

/-- Adds symbols of one file up to the first that belongs to another file; gives the number added. -/
def addAll (file : Path) : Nat → Table → List Symbol → Except Error Nat × Table
  | count, t, [] => (.ok count, t)
  | count, t, s :: ss =>
    if s.file = file then addAll file (count + 1) (t.add s) ss
    else (.error (.foreignSymbol s.id s.file file), t)

/-- Puts new symbols in place of those of a file; gives the number added. -/
def replaceFile (t : Table) (file : Path) (symbols : List Symbol) : Except Error Nat × Table :=
  addAll file 0 (t.removeFile file) symbols

def findByName (t : Table) (name : String) : List Symbol :=
  Symbol.sort ((t.idsOfName name).filterMap t.get?)

def findByKind (t : Table) (kind : SymbolKind) : List Symbol :=
  Symbol.sort (t.symbols.values.filter fun s => s.kind = kind)

def inFile (t : Table) (file : Path) : List Symbol :=
  Symbol.sort ((t.idsInFile file).filterMap t.get?)

def list (t : Table) : List Symbol := Symbol.sort t.symbols.values

/-- The files that hold a symbol with a name, by their components. -/
def filesOfName (t : Table) (name : String) : List Path :=
  Path.sortByParts ((t.findByName name).map (·.file)).eraseDups

/-- The files that hold symbols, by their components. -/
def files (t : Table) : List Path := Path.sortByParts t.byFile.keys

def summary (t : Table) : String :=
  s!"SymbolTable(symbols={t.symbols.size}, files={t.byFile.size})"

end Table

end RtlAtlas
