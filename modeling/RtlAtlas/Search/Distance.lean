/-
How far two texts are apart: the least number of characters to put in, take out or exchange to turn
one into the other. The distances of growing beginnings of the first text from all beginnings of the
second are kept in one row.
-/
namespace RtlAtlas.Search

/-- The rest of a row: `left` is the entry before in the new row, `diagonal` the one before in the
old row. -/
def stepRow (x : Char) : Nat → Nat → List Char → List Nat → List Nat
  | left, diagonal, y :: ys, up :: ups =>
    let entry := min (min (up + 1) (left + 1)) (diagonal + if x == y then 0 else 1)
    entry :: stepRow x entry up ys ups
  | _, _, _, _ => []

/-- The row of a text with one more character. -/
def nextRow (ys : List Char) (row : List Nat) (x : Char) : List Nat :=
  match row with
  | [] => []
  | d :: ups => (d + 1) :: stepRow x (d + 1) d ys ups

/-- The least number of single-character edits that turn one text into the other. -/
def editDistance (xs ys : List Char) : Nat :=
  (xs.foldl (nextRow ys) (List.range (ys.length + 1))).getLastD 0

example : editDistance "counter".toList "conter".toList = 1 := by decide
example : editDistance "".toList "abc".toList = 3 := by decide

end RtlAtlas.Search
