/-
A place in a text, and searching from there. A cursor knows how many characters lie before it, the
last of them, and those that follow; searching moves it forward until a pattern matches, so that
what lies before the place still decides about word and line boundaries.
-/
import RtlAtlas.Source.Bracket
import RtlAtlas.Text.Blank
import RtlAtlas.Text.Find
import RtlAtlas.Text.Word

namespace RtlAtlas.Source

open RtlAtlas.Text

/-- A place in a text. -/
structure Cursor where
  /-- How many characters lie before. -/
  offset : Nat
  /-- The last character before. -/
  last : Option Char
  /-- The characters that follow. -/
  rest : List Char
  deriving DecidableEq, Repr

namespace Cursor

def start (text : List Char) : Cursor := ⟨0, none, text⟩

/-- The place after `n` more characters, or the end. -/
def advance : Nat → Cursor → Cursor
  | 0, c => c
  | n + 1, c =>
    match c.rest with
    | [] => c
    | x :: xs => advance n ⟨c.offset + 1, some x, xs⟩

/-- The place after white space. -/
def skipBlank (c : Cursor) : Cursor := c.advance (c.rest.takeWhile isBlank).length

/-- The same place in the text that ends at an offset. -/
def upTo (stop : Nat) (c : Cursor) : Cursor := { c with rest := c.rest.take (stop - c.offset) }

/-- Whether the text goes on with a character. -/
def startsWith (c : Cursor) (x : Char) : Bool := c.rest.head? == some x

/-- Whether a word may start here: no word character lies before. -/
def atWordStart (c : Cursor) : Bool := !(c.last.any isWord)

def atLineStart (c : Cursor) : Bool := c.last == none || c.last == some '\n'

/-- The first place, from a given one on, where a pattern matches, with what it found. -/
def searchIn {α : Type} (pattern : Cursor → Option α) (offset : Nat) (last : Option Char) :
    List Char → Option α
  | [] => pattern ⟨offset, last, []⟩
  | x :: xs =>
    match pattern ⟨offset, last, x :: xs⟩ with
    | some found => some found
    | none => searchIn pattern (offset + 1) (some x) xs

/-- What a pattern finds at the first place from here on where it matches. -/
def search {α : Type} (pattern : Cursor → Option α) (c : Cursor) : Option α :=
  searchIn pattern c.offset c.last c.rest

/-- What a pattern finds again and again, each time from where the last find ends. -/
def searchAllFrom {α : Type} (pattern : Cursor → Option α) (next : α → Cursor) :
    Nat → Cursor → List α
  | 0, _ => []
  | fuel + 1, c =>
    match c.search pattern with
    | none => []
    | some found => found :: searchAllFrom pattern next fuel (next found)

/-- Everything a pattern finds from here on; a find is not empty, so there are at most as many as
there are characters. -/
def searchAll {α : Type} (pattern : Cursor → Option α) (next : α → Cursor) (c : Cursor) : List α :=
  searchAllFrom pattern next (c.rest.length + 1) c

/-- The place after a given word, if the text goes on with that word and the word ends there. -/
def afterWord? (word : String) (c : Cursor) : Option Cursor :=
  match dropLead? word.toList c.rest with
  | none => none
  | some rest => if rest.head?.any isWord then none else some (c.advance word.length)

/-- A word with boundaries on both sides, out of a list: the word and the place after it. -/
def word? (words : List String) (c : Cursor) : Option (String × Cursor) :=
  if c.atWordStart then words.findSome? fun w => (c.afterWord? w).map (w, ·) else none

/-- The identifier that the text goes on with, and the place after it. -/
def ident? (c : Cursor) : Option (List Char × Cursor) :=
  (identifier? c.rest).map fun (name, _) => (name, c.advance name.length)

/-- What stands between the bracket here and the one that closes it, and the place after that. -/
def enclosed? (c : Cursor) : Option (List Char × Cursor) :=
  (closing? c.rest).map fun n => ((c.rest.drop 1).take (n - 1), c.advance (n + 1))

/-- What stands before the next semicolon, and the place after it. -/
def toSemicolon? (c : Cursor) : Option (List Char × Cursor) :=
  let body := c.rest.takeWhile (· != ';')
  if body.length < c.rest.length then some (body, c.advance (body.length + 1)) else none

end Cursor

end RtlAtlas.Source
