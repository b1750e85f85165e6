/-
Brackets of the three kinds, and what stands outside of them. `closing?` gives the distance from an
opening bracket to the one that closes it, counting only well-nested text; `splitTopLevel` cuts a
text at the commas outside brackets and remembers where each segment starts; `cutTopLevel` keeps
what stands before a separator outside brackets.
-/
namespace RtlAtlas.Source

def closer? : Char → Option Char
  | '(' => some ')'
  | '[' => some ']'
  | '{' => some '}'
  | _ => none

def isOpener (c : Char) : Bool := (closer? c).isSome

def isCloser (c : Char) : Bool := c == ')' || c == ']' || c == '}'

/-- The distance to the bracket that closes the last of the `owed` ones, innermost first. -/
def closeFrom : List Char → List Char → Option Nat
  | _, [] => none
  | owed, c :: cs =>
    match closer? c with
    | some d => (closeFrom (d :: owed) cs).map (· + 1)
    | none =>
      if isCloser c then
        match owed with
        | [] => none
        | d :: owed' =>
          if c != d then none
          else if owed'.isEmpty then some 0
          else (closeFrom owed' cs).map (· + 1)
      else (closeFrom owed cs).map (· + 1)

/-- The distance from the opening bracket at the head of a text to the bracket that closes it. -/
def closing? : List Char → Option Nat
  | [] => none
  | c :: cs => (closer? c).bind fun d => (closeFrom [d] cs).map (· + 1)

/-- The index of the bracket that closes the one at `start`. -/
def findMatching (text : List Char) (start : Nat) : Option Nat :=
  (closing? (text.drop start)).map (start + ·)

/-- How a character changes the depth of nesting. -/
def nesting (c : Char) : Int := if isOpener c then 1 else if isCloser c then -1 else 0

/-- A piece of a text and the offset at which it starts. -/
structure Segment where
  text : List Char
  offset : Nat
  deriving DecidableEq, Repr

/-- The segments of a text that starts at `offset` and at the given depth. -/
def splitFrom (offset : Nat) (depth : Int) : List Char → List Segment
  | [] => [⟨[], offset⟩]
  | c :: cs =>
    if c == ',' && depth == 0 then ⟨[], offset⟩ :: splitFrom (offset + 1) 0 cs
    else
      match splitFrom (offset + 1) (depth + nesting c) cs with
      | [] => [⟨[c], offset⟩]
      | s :: ss => ⟨c :: s.text, offset⟩ :: ss

/-- The segments between the commas outside brackets of a text that starts at `offset`. -/
def splitTopLevel (text : List Char) (offset : Nat) : List Segment := splitFrom offset 0 text

/-- The part of a text from `start` up to `stop`, split at the commas outside brackets. -/
def splitRange (text : List Char) (start stop : Nat) : List Segment :=
  splitTopLevel ((text.take stop).drop start) start

/-- What stands before the first separator at depth zero, from a given depth on. -/
def cutFrom (sep : Char) (depth : Int) : List Char → List Char
  | [] => []
  | c :: cs =>
    if !isOpener c && !isCloser c && c == sep && depth == 0 then []
    else c :: cutFrom sep (depth + nesting c) cs

/-- What stands before the first separator outside brackets. -/
def cutTopLevel (text : List Char) (sep : Char) : List Char := cutFrom sep 0 text

example : findMatching "f(a[1],b)".toList 1 = some 8 := by decide
example : (splitTopLevel "a,(b,c),d".toList 0).map (·.offset) = [0, 2, 8] := by decide

end RtlAtlas.Source
