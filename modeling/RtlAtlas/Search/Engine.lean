/-
Ranked search. A query is answered by the symbols whose names score; when none does, or when only
text is wanted, by the lines that hold the query. Symbols come before lines, better scores before
worse, then file and line decide.
-/
import RtlAtlas.Search.Backend
import RtlAtlas.Search.Score
import RtlAtlas.Symbol.Table

namespace RtlAtlas.Search

open RtlAtlas.Text

/-- Where a result comes from. -/
inductive Origin where
  | symbol
  | text
  deriving DecidableEq, Repr

def Origin.word : Origin → String
  | .symbol => "symbol"
  | .text => "text"

def Origin.ofWord? : String → Option Origin
  | "symbol" => some .symbol
  | "text" => some .text
  | _ => none

/-- One answer to a query. -/
structure Hit where
  origin : Origin
  file : Path
  line : Int
  column : Option Int := none
  snippet : String
  score : Int := 0
  symbol : Option Symbol := none
  deriving DecidableEq, Repr

/-- The place of an origin in the order of hits. -/
def Origin.rank : Origin → Nat
  | .symbol => 0
  | .text => 1

/-- The order of hits: symbols first, then score downwards, text of the file, line. -/
def Hit.ord (a b : Hit) : Ordering :=
  (compare a.origin.rank b.origin.rank).then <| (compare b.score a.score).then <|
    (compare a.file.text b.file.text).then (compare a.line b.line)

/-- Sorts hits; equal ones keep their order. -/
def Hit.sort (hits : List Hit) : List Hit := hits.mergeSort fun a b => (Hit.ord a b).isLE

/-- The hit for a symbol whose name scores. -/
def symbolHit? (query : String) (s : Symbol) : Option Hit :=
  let points := score s.name query
  if 0 < points then
    some { origin := .symbol, file := s.file, line := s.line,
           snippet := s!"{s.kind.word} {s.name}", score := points, symbol := some s }
  else none

/-- The symbols whose names answer a query. -/
def searchSymbols (t : Table) (query : String) : List Hit := t.list.filterMap (symbolHit? query)

/-- The hit for a line. -/
def lineHit (m : LineMatch) : Hit :=
  { origin := .text, file := m.file, line := m.line, column := some m.column, snippet := m.text }

/-- What a query may ask for. -/
inductive Mode where
  /-- Symbols, and lines when no symbol answers. -/
  | symbols
  /-- Lines only. -/
  | text
  deriving DecidableEq, Repr

/-- The mode that a word names; no word means symbols. -/
def Mode.ofWord (word : Option String) : Except Error Mode :=
  match word with
  | none => .ok .symbols
  | some "symbol" => .ok .symbols
  | some "text" => .ok .text
  | some other => .error (.query (.unknownMode other))

/-- The lines of a scope that hold a query; without a scope there are none. -/
def searchLines (backends : List Backend) (scope : Option Scope) (limit : Int) (query : String) :
    Except Error (List Hit) :=
  match scope with
  | none => .ok []
  | some s => (searchText backends query s limit).map (·.map lineHit)

/-- The hits of a query, best first. -/
def search (t : Table) (backends : List Backend) (scope : Option Scope) (limit : Int)
    (query : String) (mode : Option String) : Except Error (List Hit) :=
  if query.toList.all isBlank then .error (.query .blank)
  else do
    let wanted ← Mode.ofWord mode
    let found := if wanted = .symbols then searchSymbols t query else []
    if found.isEmpty || wanted = .text then
      let fromText ← searchLines backends scope limit query
      return Hit.sort (found ++ fromText)
    else return Hit.sort found

end RtlAtlas.Search
