/-
Laying text out on a console of a fixed width. Tabs are filled up to columns that are multiples of
eight, and lines that are too wide are broken: between words if that helps, else within a word.
-/
import RtlAtlas.Console.Width
import RtlAtlas.Text.Blank
import RtlAtlas.Text.Find

namespace RtlAtlas.Console

open RtlAtlas.Text

/-! ## Tabs -/

/-- The text before a tab, with a space for the tab and as many more as lead to the next column that
is a multiple of eight. -/
def fillTab (cs : List Char) : List Char :=
  let spaced := cs ++ [' ']
  spaced ++ List.replicate ((8 - textWidth spaced % 8) % 8) ' '

def expandTabs (line : List Char) : List Char :=
  let parts := splitAt '\t' line
  parts.dropLast.flatMap fillTab ++ parts.getLastD []

/-! ## Breaking lines -/

/-- The number of columns of the console. -/
def columns : Nat := 5000

/-- The pieces of a text between which it may be broken: each is a word with the white space after
it, the first also with that in front; at most `fuel` of them. -/
def wordsFrom : Nat → List Char → List (List Char)
  | 0, _ => []
  | fuel + 1, cs =>
    let rest := cs.dropWhile isBlank
    if rest.isEmpty then []
    else
      let after := rest.dropWhile (!isBlank ·)
      (cs.takeWhile isBlank ++ rest.takeWhile (!isBlank ·) ++ after.takeWhile isBlank) ::
        wordsFrom fuel (after.dropWhile isBlank)

/-- A character with those that join it, and the columns they take. -/
structure Cluster where
  /-- The characters, the last one first. -/
  chars : List Char
  width : Nat
  deriving DecidableEq, Repr

/-- Adds a character to the clusters before it, the last of which comes first. `last` is the last
character that takes columns, unless a picture mark has made it wider, and `joined` tells that a
joiner came right before. -/
def addChar (done : List Cluster × Option Char × Bool) (c : Char) :
    List Cluster × Option Char × Bool :=
  match done with
  | ([], _, _) => ([⟨[c], charWidth c⟩], if charWidth c = 0 then none else some c, false)
  | (k :: ks, last, true) => (⟨c :: k.chars, k.width⟩ :: ks, last, false)
  | (k :: ks, last, false) =>
    if isJoiner c then (⟨c :: k.chars, k.width⟩ :: ks, last, true)
    else if isPictureMark c then
      if last.any hasPicture then (⟨c :: k.chars, k.width + 1⟩ :: ks, none, false)
      else (⟨c :: k.chars, k.width⟩ :: ks, last, false)
    else if charWidth c = 0 then (⟨c :: k.chars, k.width⟩ :: ks, last, false)
    else (⟨[c], charWidth c⟩ :: k :: ks, some c, false)

def clusters (cs : List Char) : List Cluster :=
  (cs.foldl addChar ([], none, false)).1.reverse.map fun k => ⟨k.chars.reverse, k.width⟩

/-- Lines that are complete, the last one first, and the line that is being filled, backwards. -/
structure Filling where
  done : List (List Char) := []
  line : List Char := []
  column : Nat := 0

/-- Starts a new line, unless the current one is empty. -/
def Filling.feed (f : Filling) : Filling :=
  if f.line.isEmpty then f else { done := f.line.reverse :: f.done }

/-- Adds characters to the current line. -/
def Filling.push (f : Filling) (cs : List Char) (width : Nat) : Filling :=
  { f with line := cs.reverse ++ f.line, column := f.column + width }

/-- Adds a cluster, on a new line if the current one is full. -/
def Filling.addCluster (f : Filling) (k : Cluster) : Filling :=
  if columns < f.column + k.width then f.feed.push k.chars k.width else f.push k.chars k.width

/-- Adds a word, on a new line if it does not fit; a word that fits on no line is broken itself. -/
def Filling.addWord (f : Filling) (word : List Char) : Filling :=
  let width := textWidth (trimRight word)
  if f.column + width ≤ columns then f.push word (textWidth word)
  else if columns < width then
    let filled := (clusters word).foldl Filling.addCluster f.feed
    { filled with column := textWidth filled.line.reverse }
  else f.feed.push word (textWidth word)

/-- Takes white space at the end of a line away as far as the line is too long. -/
def cropEnd (line : List Char) : List Char :=
  let blank := line.length - (trimRight line).length
  line.take (line.length - min blank (line.length - columns))

/-- The clusters that fit into some columns; a space fills the place of half a wide character. -/
def fitting : Nat → List Cluster → List Char
  | _, [] => []
  | room, k :: ks =>
    if k.width ≤ room then k.chars ++ fitting (room - k.width) ks else List.replicate room ' '

/-- Takes off what is beyond the columns of the console. -/
def crop (line : List Char) : List Char :=
  if textWidth line ≤ columns then line else fitting columns (clusters line)

/-- The lines that a line is broken into. -/
def breakLine (line : List Char) : List (List Char) :=
  if 2 * line.length ≤ columns then [line]
  else
    let filled := (wordsFrom line.length line).foldl Filling.addWord {}
    let lines :=
      if filled.line.isEmpty && filled.done.isEmpty then [line]
      else (filled.line.reverse :: filled.done).reverse
    lines.map fun l => crop (cropEnd l)

/-- A text as it stands on the console. -/
def layOut (cs : List Char) : List Char :=
  ['\n'].intercalate (((splitAt '\n' cs).map expandTabs).flatMap breakLine)

example : layOut "ab\tc\n\td".toList = "ab      c\n        d".toList := by decide +kernel

end RtlAtlas.Console
