/-
White space: the characters that separate words, that are trimmed from the ends of a text and that
may stand between two tokens. The class is Unicode's, with the four separators U+001C to U+001F.
-/
import RtlAtlas.Text.Range

namespace RtlAtlas.Text

/-- The intervals of white space, in increasing order. -/
def blankRanges : List (Nat × Nat) := [
  (9, 0xD), (0x1C, 0x20), (0x85, 0x85), (0xA0, 0xA0), (0x1680, 0x1680), (0x2000, 0x200A),
  (0x2028, 0x2029), (0x202F, 0x202F), (0x205F, 0x205F), (0x3000, 0x3000)]

/-- White space, line breaks included. -/
def isBlank (c : Char) : Bool := inRanges blankRanges c.toNat

/-- Drops the white space in front. -/
def trimLeft (cs : List Char) : List Char := cs.dropWhile isBlank

/-- Drops the white space at the end. -/
def trimRight (cs : List Char) : List Char := (cs.reverse.dropWhile isBlank).reverse

/-- Drops the white space at both ends. -/
def trim (cs : List Char) : List Char := trimRight (trimLeft cs)

/-- The maximal runs of characters that are not white space. -/
def words : List Char → List (List Char)
  | [] => []
  | c :: cs =>
    if isBlank c then words cs
    else
      match cs with
      | [] => [[c]]
      | d :: _ =>
        if isBlank d then [c] :: words cs
        else
          match words cs with
          | [] => [[c]]
          | w :: ws => (c :: w) :: ws

/-- The words of a text, with one space between neighbours. -/
def collapse (cs : List Char) : List Char := [' '].intercalate (words cs)

example : collapse " wire  [7:0]\n".toList = "wire [7:0]".toList := by decide

end RtlAtlas.Text
