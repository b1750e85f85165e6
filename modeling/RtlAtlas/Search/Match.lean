/-
Lines that hold a text. Letter case does not count; the column is the place of the first occurrence
in the line, counted from one, and zero if there is none.
-/
import RtlAtlas.Path
import RtlAtlas.Text.Blank
import RtlAtlas.Text.Line
import RtlAtlas.Text.Lower

namespace RtlAtlas.Search

open RtlAtlas.Text

/-- A line that holds the text looked for. -/
structure LineMatch where
  file : Path
  line : Int
  column : Int
  text : String
  deriving DecidableEq, Repr

/-- The column of the first occurrence of a query in a line. -/
def columnOf (line query : List Char) : Nat :=
  match find? (lower query) (lower line) with
  | some i => i + 1
  | none => 0

/-- The matches of a query among numbered lines. -/
def matchesIn (file : Path) (query : List Char) (numbered : List (List Char × Nat)) :
    List LineMatch :=
  numbered.filterMap fun (line, number) =>
    if occurs (lower query) (lower line) then
      some ⟨file, number, columnOf line query, String.ofList (trim line)⟩
    else none

/-- The lines of a text that hold a query. -/
def scanLines (file : Path) (content query : List Char) : List LineMatch :=
  matchesIn file query ((lines content).zipIdx 1)

/-- The order of matches: by the text of their file, then line. -/
def LineMatch.ord (a b : LineMatch) : Ordering :=
  (compare a.file.text b.file.text).then (compare a.line b.line)

/-- Sorts matches; equally placed ones keep their order. -/
def LineMatch.sort (ms : List LineMatch) : List LineMatch :=
  ms.mergeSort fun a b => (LineMatch.ord a b).isLE

end RtlAtlas.Search
