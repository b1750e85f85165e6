/-
Lists of bindings in an instantiation: the connections of ports to signals, and the overrides of
parameters. An entry is named, `.port(signal)`, or positional, an expression alone. `.port` without
brackets connects the signal of the same name, and the entry `.*` names nothing and is passed over.
-/
import RtlAtlas.Design
import RtlAtlas.Source.Bracket
import RtlAtlas.Text.Blank
import RtlAtlas.Text.Word

namespace RtlAtlas.Source

open RtlAtlas.Text

/-- A named entry: the name, and what the brackets after it hold if there are any. -/
structure NamedEntry where
  name : List Char
  value : Option (List Char)
  deriving DecidableEq, Repr

/-- What the brackets around a whole text hold. -/
def bracketed? : List Char → Option (List Char)
  | '(' :: cs => if cs.getLast? = some ')' then some cs.dropLast else none
  | _ => none

/-- Reads a named entry from a text without white space at its ends. -/
def namedEntryOf? : List Char → Option NamedEntry
  | '.' :: cs =>
    match identifier? (trimLeft cs) with
    | none => none
    | some (name, rest) =>
      match trimLeft rest with
      | [] => some ⟨name, none⟩
      | rest' => (bracketed? rest').map fun value => ⟨name, some value⟩
  | _ => none

/-- The connections of the remaining segments, when `position` entries have been read. -/
def connectionsFrom (position : Nat) : List Segment → List Connection
  | [] => []
  | s :: ss =>
    let entry := collapse s.text
    if entry = [] ∨ entry = ['.', '*'] then connectionsFrom position ss
    else
      let connection : Connection :=
        match namedEntryOf? entry with
        | some e =>
          { port := String.ofList e.name,
            signal := String.ofList ((e.value.map trim).getD e.name) }
        | none => { port := "", signal := String.ofList entry, position := some position }
      connection :: connectionsFrom (position + 1) ss

/-- The port connections of an instantiation, from the text between its brackets. -/
def parseConnections (text : List Char) : List Connection :=
  connectionsFrom 0 (splitTopLevel text 0)

/-- The override that a segment writes: positional ones are numbered by their segment. -/
def override? (index : Nat) (s : Segment) : Option (String × String) :=
  let entry := collapse s.text
  if entry = [] then none
  else
    match namedEntryOf? entry with
    | some e => some (String.ofList e.name, String.ofList (trim (e.value.getD [])))
    | none => some (s!"#{index}", String.ofList entry)

/-- The parameter overrides of an instantiation, from the text between the brackets after `#`. -/
def parseBindings (text : List Char) : OrderedMap String String :=
  .ofList ((splitTopLevel text 0).zipIdx.filterMap fun (s, index) => override? index s)

example : (parseConnections ".a(x), .b, y + 1".toList).map (·.signal) = ["x", "b", "y + 1"] := by
  decide +kernel

end RtlAtlas.Source
