/-
How well a name answers a query, in points. Letter case does not count. The name itself scores most,
then names that start with the query, then names that hold it, then names a few edits away.
-/
import RtlAtlas.Search.Distance
import RtlAtlas.Text.Find
import RtlAtlas.Text.Lower

namespace RtlAtlas.Search

open RtlAtlas.Text

/-- How many edits are forgiven: one, or three tenths of the name's length. -/
def editAllowance (length : Nat) : Nat := max 1 (3 * length / 10)

/-- The points of a name in small letters for a query in small letters. -/
def scoreLower (name query : List Char) : Nat :=
  if name = query then 100
  else if query.isPrefixOf name then 90
  else if occurs query name then 70
  else
    let distance := editDistance name query
    if distance ≤ editAllowance name.length then max 1 (60 - 5 * distance) else 0

/-- The points of a name for a query; zero means that it does not answer it. -/
def score (name query : String) : Nat := scoreLower (lower name.toList) (lower query.toList)

end RtlAtlas.Search
