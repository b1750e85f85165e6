/-
The events that ripgrep prints, one JSON value in each line. An event of the type `match` tells of a
line that holds what is looked for; other events, blank lines and lines that are no JSON are passed
over. The fields of an event are used in a fixed order, and the first that cannot be used ends the
reading.
-/
import RtlAtlas.Error
import RtlAtlas.Json.Parser
import RtlAtlas.Text.Blank
import RtlAtlas.Text.Utf8

namespace RtlAtlas.Search

open RtlAtlas.Text

/-- What a line of a tool's output tells of. -/
structure Told where
  /-- The file that is named, unless no file can be named so. -/
  file : Option Path
  /-- The number of the line, or why it is not read. -/
  line : Except Error Json
  column : Nat
  text : String

namespace Event

/-- A field of a value that must have fields; nothing if it lacks this one. -/
def field? (name : String) (j : Json) : Except Error (Option Json) :=
  match j with
  | .obj _ => .ok (j.field? name)
  | _ => .error (.misfit (.noMember j.typeWord "get"))

def required (name : String) (j : Json) : Except Error Json :=
  match j.field? name with
  | some v => .ok v
  | none => .error (.missingField name)

/-- The text of a field that is itself an object with a field `text`; null and what is missing give
nothing. -/
def textOf (name : String) (data : Json) : Except Error (Option Json) := do
  let inner := (← field? name data).getD (.obj [])
  match ← field? "text" inner with
  | some .null => return none
  | found => return found

/-- The components of a path that is written in code points. -/
def partsOf (codes : List Nat) : List (List Nat) :=
  (splitAt 47 codes).filter fun part => part != [] && part != [46]

/-- The code points of a path of some components. -/
def joined (rooted : Bool) (parts : List (List Nat)) : List Nat :=
  (if rooted then [47] else []) ++ [47].intercalate parts

/-- Follows one more component. Each path on the way must be one that can be looked up. -/
def follow (rooted : Bool) (done : List (List Nat)) (part : List Nat) :
    Except Error (List (List Nat)) :=
  if part == [46, 46] then
    if done.getLast? = some part || (done.isEmpty && !rooted) then .ok (done ++ [part])
    else .ok done.dropLast
  else
    let here := done ++ [part]
    match unencodable? isByteMark (joined rooted here) with
    | some u => .error (.unencodable u)
    | none => if part.contains 0 then .error .nullByte else .ok here

/-- Checks that a path can be followed. -/
def checkPath (codes : List Nat) : Except Error Unit :=
  ((partsOf codes).foldlM (follow (codes.head? == some 47)) []).map fun _ => ()

/-- The file that a text names; nothing if it holds surrogates. -/
def fileOf (j : Json) : Except Error (Option Path) :=
  match j with
  | .str s => (checkPath (s.toList.map Char.toNat)).map fun _ => some (Path.ofString s)
  | .codes points => (checkPath points).map fun _ => none
  | _ => .error (.misfit (.noPath j.typeWord))

/-- The first match in a line. Where there are none it is an empty object. -/
def firstMatch (data : Json) : Except Error Json := do
  let found := (← field? "submatches" data).getD .null
  if !found.isGiven then return .obj []
  match found with
  | .arr items => return items.headD .null
  | .obj _ => throw (.missingField "0")
  | .str s => return .str (String.ofList (s.toList.take 1))
  | .codes points => return .codes (points.take 1)
  | _ => throw (.misfit (.noItems found.typeWord))

/-- The text of a line, which must have a UTF-8 form. -/
def lineText (j : Json) : Except Error String :=
  match j with
  | .str s => .ok s
  | .codes points =>
    match unencodable? (fun _ => false) points with
    | some u => .error (.unencodable u)
    | none => .ok ""
  | _ => .error (.misfit (.noMember j.typeWord "encode"))

/-- The column at a byte offset of a line; no offset means the end. -/
def columnAt (text : List Char) (offset : Json) : Except Error Nat :=
  match offset with
  | .null => .ok (text.length + 1)
  | .int n => .ok (charColumn text n)
  | .bool b => .ok (charColumn text (if b then 1 else 0))
  | _ => .error (.misfit .noPlace)

/-- The match that the data of an event tell of, if line and file are given. -/
def toldBy (data : Json) : Except Error (Option Told) := do
  match ← textOf "lines" data, ← textOf "path" data with
  | some line, some path =>
    let file ← fileOf path
    let number ← required "line_number" data
    let first ← firstMatch data
    let offset := (← field? "start" first).getD (.int 0)
    let text ← lineText line
    let column ← columnAt text.toList offset
    return some ⟨file, .ok number, column, String.ofList (trim text.toList)⟩
  | _, _ => return none

def isMatch (event : Json) : Except Error Bool :=
  (field? "type" event).map fun type => type.bind Json.string? == some "match"

/-- The match that a line of output tells of, if it tells of one. -/
def read (line : List Char) : Except Error (Option Told) :=
  if line.all isBlank then .ok none
  else
    match Json.parse line with
    | .error .malformed => .ok none
    | .error (.longNumber digits) => .error (.longNumber digits)
    | .error (.tooDeep isObject) => .error (.tooDeep (if isObject then .object else .array))
    | .ok event => do if ← isMatch event then toldBy (← required "data" event) else return none

end Event

end RtlAtlas.Search
