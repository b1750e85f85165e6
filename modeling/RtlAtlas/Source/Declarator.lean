/-
Declarators: the fragment of a declaration that introduces one name, such as
`logic [7:0] data [4] = 0`. `declaredName` is the name, `typeBefore` the words in front of it and
`nameOffset` the place where it stands.
-/
import RtlAtlas.Source.Bracket
import RtlAtlas.Source.Keyword
import RtlAtlas.Text.Blank
import RtlAtlas.Text.Find
import RtlAtlas.Text.Word

namespace RtlAtlas.Source

open RtlAtlas.Text

/-- Takes the dimension group at the end of a text away: a pair of square brackets with no square
bracket between them, and the white space around it. The text is given backwards. -/
def dropDimension? (backwards : List Char) : Option (List Char) :=
  match backwards.dropWhile isBlank with
  | ']' :: cs =>
    match cs.dropWhile fun c => c != '[' && c != ']' with
    | '[' :: rest => some (rest.dropWhile isBlank)
    | _ => none
  | _ => none

/-- Takes all dimension groups at the end of a text away, at most `fuel` of them. The text is given
backwards. -/
def dropDimensionsFrom : Nat → List Char → List Char
  | 0, backwards => backwards
  | fuel + 1, backwards =>
    match dropDimension? backwards with
    | some rest => dropDimensionsFrom fuel rest
    | none => backwards

/-- Takes all dimension groups at the end of a text away. -/
def dropDimensions (text : List Char) : List Char :=
  (dropDimensionsFrom text.length text.reverse).reverse

/-- The identifier that a text ends with. -/
def lastIdentifier? (text : List Char) : Option (List Char) :=
  match ((text.reverse.takeWhile isIdentRest).reverse).dropWhile (! isIdentStart ·) with
  | [] => none
  | name => some name

def declaredName (declaration : List Char) : Option (List Char) :=
  (lastIdentifier? (dropDimensions (trim (cutTopLevel declaration '=')))).filter (! isKeyword ·)

def nameOffset (declaration name : List Char) : Nat :=
  (findLast? name (cutTopLevel declaration '=')).getD 0

/-- The words in front of the name of a declarator. -/
def typeBefore (declaration name : List Char) : List Char :=
  let head := cutTopLevel declaration '='
  match findLast? name head with
  | some i => collapse (head.take i)
  | none => []

example : declaredName "logic [7:0] data [4] = 0".toList = some "data".toList := by decide
example : typeBefore "logic [7:0] data [4]".toList "data".toList = "logic [7:0]".toList := by decide

end RtlAtlas.Source
