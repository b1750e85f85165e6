/-
Patterns for names: a star stands for any text, slashes included, a question mark for one character,
and square brackets for one character of a class. A class holds characters and ranges, is negated by
an exclamation mark in front, and takes a closing bracket in front as a member; a range whose ends
are the wrong way round is no range. A bracket without its partner stands for itself.
-/
namespace RtlAtlas.Pattern

/-- A member of a class: the characters from the first to the last. -/
structure Range where
  low : Char
  high : Char
  deriving DecidableEq, Repr

/-- One step of a pattern. -/
inductive Item where
  /-- Any text. -/
  | many
  /-- Any one character. -/
  | one
  | literal (c : Char)
  /-- A character of a class, or, if negated, one outside it. -/
  | charClass (negated : Bool) (members : List Range)
  /-- No character at all. -/
  | never
  deriving DecidableEq, Repr

/-! ## Classes -/

/-- Splits the text of a class at the hyphens that make ranges: a hyphen makes one if a character
stands before it that ends no other range. `free` counts the characters that cannot be such a
hyphen yet. -/
def chunksFrom (chunk : List Char) : Nat → List Char → List (List Char)
  | _, [] => [chunk.reverse]
  | free + 1, c :: cs => chunksFrom (c :: chunk) free cs
  | 0, c :: cs =>
    if c == '-' then chunk.reverse :: chunksFrom [] 2 cs else chunksFrom (c :: chunk) 0 cs

/-- Gives a hyphen that ends the class back to the chunk before it. -/
def keepLastHyphen : List (List Char) → List (List Char)
  | [] => []
  | [chunk] => [chunk]
  | [chunk, []] => [chunk ++ ['-']]
  | chunk :: chunks => chunk :: keepLastHyphen chunks

/-- Joins the chunks on both sides of a range whose ends are the wrong way round, without these
ends. -/
def dropEmptyRanges : List (List Char) → List (List Char)
  | [] => []
  | chunk :: chunks =>
    match dropEmptyRanges chunks with
    | [] => [chunk]
    | next :: rest =>
      match chunk.getLast?, next with
      | some low, high :: after =>
        if high < low then (chunk.dropLast ++ after) :: rest else chunk :: next :: rest
      | _, _ => chunk :: next :: rest

def singles (cs : List Char) : List Range := cs.map fun c => ⟨c, c⟩

/-- The members of a class from its chunks: neighbours are joined by a range. -/
def membersOf : List (List Char) → List Range
  | [] => []
  | [chunk] => singles chunk
  | chunk :: next :: rest =>
    match chunk.getLast?, next with
    | some low, high :: _ => singles chunk ++ ⟨low, high⟩ :: membersOf (next :: rest)
    | _, _ => singles chunk ++ ⟨'-', '-'⟩ :: membersOf (next :: rest)

/-- The item that the text between square brackets makes. -/
def classItem (text : List Char) : Item :=
  let first := if text.head? = some '!' then 2 else 1
  match dropEmptyRanges (keepLastHyphen (chunksFrom [] first text)) with
  | [[]] => .never
  | [['!']] => .one
  | ('!' :: chunk) :: chunks => .charClass true (membersOf (chunk :: chunks))
  | chunks => .charClass false (membersOf chunks)

/-! ## Patterns -/

/-- The text of a class up to its closing bracket, and what follows it. -/
def classText? (cs : List Char) : Option (List Char × List Char) :=
  let (bang, afterBang) : List Char × List Char :=
    match cs with
    | '!' :: r => (['!'], r)
    | r => ([], r)
  let (bracket, rest) : List Char × List Char :=
    match afterBang with
    | ']' :: r => ([']'], r)
    | r => ([], r)
  let body := rest.takeWhile (· != ']')
  if body.length < rest.length then
    some (bang ++ bracket ++ body, rest.drop (body.length + 1))
  else none

/-- The items of a pattern, of which at most `fuel` are read. -/
def itemsFrom : Nat → List Char → List Item
  | 0, _ => []
  | _, [] => []
  | fuel + 1, c :: cs =>
    if c == '*' then .many :: itemsFrom fuel cs
    else if c == '?' then .one :: itemsFrom fuel cs
    else if c == '[' then
      match classText? cs with
      | some (text, rest) => classItem text :: itemsFrom fuel rest
      | none => .literal '[' :: itemsFrom fuel cs
    else .literal c :: itemsFrom fuel cs

/-- The items of a pattern. -/
def items (pattern : List Char) : List Item := itemsFrom pattern.length pattern

/-- Whether an item other than a star stands for a character. -/
def Item.accepts : Item → Char → Bool
  | .one, _ => true
  | .literal d, c => c == d
  | .charClass negated members, c =>
    (members.any fun r => r.low ≤ c && c ≤ r.high) != negated
  | .many, _ => false
  | .never, _ => false

/-! ## Matching

A text is read from its end: for each rest of the items, the whole list first and the empty rest
last, a row tells whether it matches the text read so far. So the work is the product of both
lengths. -/

/-- The row of the empty text. -/
def emptyRow : List Item → List Bool
  | [] => [true]
  | i :: is =>
    let row := emptyRow is
    (i == .many && row.headD false) :: row

/-- The row of a text with one more character in front. -/
def nextRow (c : Char) : List Item → List Bool → List Bool
  | [], _ => [false]
  | i :: is, row =>
    let next := nextRow c is (row.drop 1)
    let here :=
      match i with
      | .many => next.headD false || row.headD false
      | other => other.accepts c && (row.drop 1).headD false
    here :: next

/-- Whether a text matches the items. -/
def matchItems (is : List Item) (cs : List Char) : Bool :=
  (cs.foldr (fun c row => nextRow c is row) (emptyRow is)).headD false

/-- Whether a whole text matches a pattern. -/
def matches? (pattern text : String) : Bool := matchItems (items pattern.toList) text.toList

end RtlAtlas.Pattern
