/-
Places in a text as signed offsets: one below zero counts from the end, so that reading on from there
passes the end and starts over. A place that the text does not have is an error.
-/
import RtlAtlas.Error
import RtlAtlas.Source.Bracket

namespace RtlAtlas.Source

/-- The text from an offset on; from an offset below zero the whole text follows after its end. -/
def readFrom (text : List Char) (offset : Int) : Except Error (List Char) :=
  if 0 ≤ offset then .ok (text.drop offset.toNat)
  else if text.length < -offset then .error .outOfText
  else .ok (text.drop (text.length + offset).toNat ++ text)

/-- The offset of the bracket that closes the one at an offset. -/
def matchingAt (text : List Char) (offset : Int) : Except Error (Option Int) :=
  if 0 ≤ offset then .ok ((findMatching text offset.toNat).map fun n => (n : Int))
  else (readFrom text offset).map fun rest => (closing? rest).map fun n => offset + n

/-- The number of characters before an offset, none if it lies before the start. -/
def before (text : List Char) (offset : Int) : Nat :=
  if offset < 0 then (text.length + offset).toNat else offset.toNat

/-- The part of a text between two offsets, empty if the second comes first. -/
def between (text : List Char) (start stop : Int) : List Char :=
  (text.take (before text stop)).drop (before text start)

/-- The part of a text from one offset up to another, split at the commas outside brackets: the
segments with the offsets at which they start. -/
def splitBetween (text : List Char) (start stop : Int) : Except Error (List (List Char × Int)) :=
  if 0 ≤ start && start ≤ stop && stop ≤ text.length then
    .ok ((splitRange text start.toNat stop.toNat).map fun s => (s.text, (s.offset : Int)))
  else if stop ≤ start then .ok [(between text start stop, start)]
  else do
    let rest ← readFrom text start
    if rest.length < stop - start then throw .outOfText
    return (splitTopLevel (rest.take (stop - start).toNat) 0).map fun s =>
      let first := start + s.offset
      (between text first (first + s.text.length), first)

example : (matchingAt "()".toList (-2)).toOption = some (some (-1)) := by decide +kernel
example : (splitBetween "a,b".toList (-3) 0).toOption =
    some [("a".toList, -3), ([], -1)] := by decide +kernel

end RtlAtlas.Source
