/-
What a source text declares. A scan walks over the text without its comments, module by module, and
marks every named thing with the offsets it spans; `extract` turns the marks into symbols with line
numbers, and reports the modules with their ports and the instances with their bindings.
-/
import RtlAtlas.Error
import RtlAtlas.Source.Binding
import RtlAtlas.Source.Comment
import RtlAtlas.Source.Cursor
import RtlAtlas.Source.Declarator
import RtlAtlas.Text.Line
import RtlAtlas.Text.Lower

namespace RtlAtlas.Source

open RtlAtlas.Text

/-- A named thing and the offsets it spans. -/
structure Mark where
  name : List Char
  kind : SymbolKind
  start : Nat
  stop : Nat
  nodeType : String
  deriving DecidableEq, Repr

/-- An instantiation and the offset of its name. -/
structure InstanceMark where
  name : List Char
  moduleType : List Char
  start : Nat
  connections : List Connection
  parameters : OrderedMap String String
  deriving DecidableEq, Repr

/-- A module with all that was found in it. -/
structure ModuleMark where
  name : List Char
  start : Nat
  stop : Nat
  ports : List Port
  marks : List Mark
  instances : List InstanceMark
  deriving DecidableEq, Repr

/-! ## Statements -/

/-- A statement from its keyword to its semicolon. -/
structure Statement where
  start : Nat
  keyword : String
  body : Segment
  next : Cursor

/-- A statement that starts with one of the words. -/
def statement? (words : List String) (c : Cursor) : Option Statement :=
  match c.word? words with
  | none => none
  | some (keyword, after) =>
    after.toSemicolon?.map fun (body, next) => ⟨c.offset, keyword, ⟨body, after.offset⟩, next⟩

/-- The place after the spaces and tabs here. -/
def skipIndent (c : Cursor) : Cursor :=
  c.advance (c.rest.takeWhile fun x => x == ' ' || x == '\t').length

/-- A statement that starts with one of the words, first on its line. -/
def lineStatement? (words : List String) (c : Cursor) : Option Statement :=
  if c.atLineStart then (statement? words (skipIndent c)).map ({ · with start := c.offset }) else none

/-- A function or task, from its keyword to its end. -/
structure Routine where
  start : Nat
  stop : Nat
  kind : SymbolKind
  name : Option (List Char)
  next : Cursor

/-- Whether an offset lies inside one of the routines. -/
def inRoutine (routines : List Routine) (offset : Nat) : Bool :=
  routines.any fun r => r.start ≤ offset && offset < r.stop

/-- The function or task that starts here; one without an end reaches to the end of the text. -/
def routine? (c : Cursor) : Option Routine :=
  match c.word? ["function", "task"] with
  | none => none
  | some (keyword, after) =>
    let next :=
      match after.search (·.word? ["end" ++ keyword]) with
      | some (_, next) => next
      | none => after.advance after.rest.length
    let head := (after.upTo next.offset).rest.takeWhile fun x => x != '(' && x != ';'
    some ⟨c.offset, next.offset, if keyword == "function" then .function else .task,
      declaredName head, next⟩

/-- The mark of a routine that has a name. -/
def Routine.mark? (r : Routine) : Option Mark :=
  r.name.map fun name => ⟨name, r.kind, r.start, r.stop, r.kind.word ++ "_declaration"⟩

/-! ## Declarations -/

/-- The mark of the name that a segment declares, found in the given part of the segment. -/
def declarationMark? (kind : SymbolKind) (nodeType : String) (s : Segment) (declaration : List Char) :
    Option Mark :=
  (declaredName declaration).map fun name =>
    let offset := s.offset + nameOffset s.text name
    ⟨name, kind, offset, offset, nodeType⟩

/-- Takes the word `parameter` or `localparam` in front away. -/
def dropParameterWord (head : List Char) : List Char :=
  let c := Cursor.start (trimLeft head)
  match c.word? ["parameter", "localparam"] with
  | some (_, after) => after.rest
  | none => head

/-- The parameters of a comma-separated list. -/
def parameterMarks (nodeType : String) (list : Segment) : List Mark :=
  (splitTopLevel list.text list.offset).filterMap fun s =>
    declarationMark? .constant nodeType s (dropParameterWord (s.text.takeWhile (· != '=')))

/-- The signals of a declaration. -/
def signalMarks (s : Statement) : List Mark :=
  let nodeType :=
    if ["wire", "tri", "wand", "wor"].contains s.keyword then "net_declaration"
    else "data_declaration"
  (splitTopLevel s.body.text s.body.offset).filterMap fun p =>
    declarationMark? .signal nodeType p p.text

/-! ## Ports -/

/-- An entry of a port list; it has a port when its direction is known in the header. -/
structure HeaderPort where
  name : List Char
  offset : Nat
  port : Option Port

/-- The direction that a declaration starts with, and what follows it. -/
def direction? (declaration : List Char) : Option (Direction × List Char) :=
  match (Cursor.start declaration).word? ["input", "output", "inout"] with
  | none => none
  | some (word, after) => (Direction.ofWord? word).map (·, trimLeft after.rest)

/-- A type that is written, or the one that holds otherwise. -/
def orType (written otherwise : List Char) : List Char := if written = [] then otherwise else written

/-- The entries of a port list, where direction and type carry over from entry to entry. -/
def headerPortsFrom (direction : Option Direction) (type : List Char) :
    List Segment → List HeaderPort
  | [] => []
  | s :: ss =>
    let entry := trim s.text
    if entry = [] then headerPortsFrom direction type ss
    else
      match direction? entry with
      | some (d, declaration) =>
        match declaredName declaration with
        | none => headerPortsFrom (some d) type ss
        | some name =>
          let type' := orType (typeBefore declaration name) "wire".toList
          ⟨name, s.offset + nameOffset s.text name,
            some ⟨String.ofList name, d, String.ofList type'⟩⟩ :: headerPortsFrom (some d) type' ss
      | none =>
        match declaredName entry with
        | none => headerPortsFrom direction type ss
        | some name =>
          let type' := if direction.isSome then orType (typeBefore entry name) type else type
          ⟨name, s.offset + nameOffset s.text name,
            direction.map fun d => ⟨String.ofList name, d, String.ofList type'⟩⟩ ::
            headerPortsFrom direction type' ss

def headerPorts (list : Segment) : List HeaderPort :=
  headerPortsFrom none "wire".toList (splitTopLevel list.text list.offset)

/-- The ports that the segments of a body declaration declare; the type carries over. -/
def bodyPortsFrom (direction : Direction) (type : List Char) : List Segment → List (Port × Mark)
  | [] => []
  | s :: ss =>
    match declaredName s.text with
    | none => bodyPortsFrom direction type ss
    | some name =>
      let type' := orType (typeBefore s.text name) type
      let offset := s.offset + nameOffset s.text name
      (⟨String.ofList name, direction, String.ofList type'⟩,
        ⟨name, .port, offset, offset, "port_declaration"⟩) :: bodyPortsFrom direction type' ss

/-- The ports that a body declaration declares. -/
def bodyPorts (s : Statement) : List (Port × Mark) :=
  match Direction.ofWord? s.keyword with
  | none => []
  | some d => bodyPortsFrom d "wire".toList (splitTopLevel s.body.text s.body.offset)

/-- The ports of a module and their marks: those of the header if it gives every direction, else
those of the body in the order of the header. A header name that the body does not declare is an
`inout` wire. -/
def modulePorts (header : List HeaderPort) (body : List (Port × Mark)) : List Port × List Mark :=
  if !header.isEmpty && header.all (·.port.isSome) then
    (header.filterMap (·.port),
      header.map fun h => ⟨h.name, .port, h.offset, h.offset, "ansi_port_declaration"⟩)
  else
    let declared : OrderedMap String Port := .ofList (body.map fun (p, _) => (p.name, p))
    let order := if header.isEmpty then declared.keys else header.map (String.ofList ·.name)
    (order.map fun name => (declared.get? name).getD ⟨name, .inout, "wire"⟩, body.map (·.2))

/-! ## Instances -/

/-- The start of what may be an instantiation: an identifier first on its line, and the bracket of
parameter overrides if one follows. -/
structure InstanceLead where
  start : Nat
  moduleType : List Char
  overrides : Option Cursor
  next : Cursor

/-- The start of an instantiation here. -/
def instanceLead? (c : Cursor) : Option InstanceLead :=
  if !c.atLineStart then none
  else
    match (skipIndent c).ident? with
    | none => none
    | some (moduleType, after) =>
      let gap := after.skipBlank
      let bracket := (gap.advance 1).skipBlank
      if gap.startsWith '#' && bracket.startsWith '(' then
        some ⟨c.offset, moduleType, some bracket, bracket.advance 1⟩
      else some ⟨c.offset, moduleType, none, gap⟩

/-- The place after array ranges, at most `fuel` of them. -/
def skipRanges : Nat → Cursor → Cursor
  | 0, c => c
  | fuel + 1, c =>
    if c.startsWith '[' then
      let inside := (c.rest.drop 1).takeWhile (· != ']')
      if inside.length + 1 < c.rest.length then
        skipRanges fuel (c.advance (inside.length + 2)).skipBlank
      else c
    else c

/-- The instance that follows its module type and overrides, with its marks and the place after. -/
def instanceAfter? (moduleType : List Char) (parameters : OrderedMap String String) (c : Cursor) :
    Option (InstanceMark × Mark × Cursor) :=
  let nameAt := c.skipBlank
  match nameAt.ident? with
  | none => none
  | some (name, after) =>
    let bracket := skipRanges after.rest.length after.skipBlank
    if !bracket.startsWith '(' || isKeyword name then none
    else
      match bracket.enclosed? with
      | none => none
      | some (inside, close) =>
        let tail := close.skipBlank
        if tail.startsWith ';' || tail.startsWith ',' then
          some (⟨name, moduleType, nameAt.offset, parseConnections inside, parameters⟩,
            ⟨name, .instantiation, nameAt.offset, close.offset - 1, "module_instantiation"⟩,
            tail.advance 1)
        else none

/-- The instance that a start of an instantiation leads to. -/
def InstanceLead.instance? (lead : InstanceLead) : Option (InstanceMark × Mark × Cursor) :=
  match lead.overrides with
  | none => instanceAfter? lead.moduleType .empty lead.next
  | some bracket =>
    match bracket.enclosed? with
    | none => none
    | some (inside, after) => instanceAfter? lead.moduleType (parseBindings inside) after

/-- The instances from a place on; one start of an instantiation is tried per step. -/
def instancesFrom (routines : List Routine) : Nat → Cursor → List (InstanceMark × Mark)
  | 0, _ => []
  | fuel + 1, c =>
    match c.search instanceLead? with
    | none => []
    | some lead =>
      let found :=
        if isKeyword lead.moduleType || inRoutine routines lead.start then none else lead.instance?
      match found with
      | none => instancesFrom routines fuel lead.next
      | some (i, mark, next) => (i, mark) :: instancesFrom routines fuel next

/-! ## Modules -/

/-- The start of a module declaration, up to its name. -/
structure ModuleHead where
  name : List Char
  start : Nat
  next : Cursor

/-- The place after a word here and the white space after it, at least one character. -/
def afterWordAndBlank? (word : String) (c : Cursor) : Option Cursor :=
  match dropLead? word.toList c.rest with
  | none => none
  | some _ =>
    let gap := c.advance word.length
    let after := gap.skipBlank
    if gap.offset < after.offset then some after else none

/-- The name of a module, with a word for its lifetime in front or not. A lifetime word that no name
follows is the name itself. -/
def moduleName? (c : Cursor) : Option (List Char × Cursor) :=
  match ["automatic", "static"].findSome? (afterWordAndBlank? · c) |>.bind Cursor.ident? with
  | some found => some found
  | none => c.ident?

/-- The start of a module declaration here. -/
def moduleHead? (c : Cursor) : Option ModuleHead :=
  if !c.atWordStart then none
  else
    match ["module", "macromodule"].findSome? (afterWordAndBlank? · c) |>.bind moduleName? with
    | none => none
    | some (name, next) => some ⟨name, c.offset, next⟩

/-- The parameters of a module header, and the place after them. -/
def headerParameters (c : Cursor) : List Mark × Cursor :=
  if c.startsWith '#' then
    let bracket := (c.advance 1).skipBlank
    match bracket.enclosed? with
    | some (inside, after) =>
      (parameterMarks "parameter_port_declaration" ⟨inside, bracket.offset + 1⟩, after.skipBlank)
    | none => ([], c)
  else ([], c)

/-- The port list of a module header, and the place after it. -/
def headerPortList (c : Cursor) : List HeaderPort × Cursor :=
  if c.startsWith '(' then
    match c.enclosed? with
    | some (inside, after) => (headerPorts ⟨inside, c.offset + 1⟩, after)
    | none => ([], c)
  else ([], c)

/-- The module with the given start whose text ends at `stop`. -/
def scanModule (head : ModuleHead) (stop : Nat) : ModuleMark :=
  let (parameters, atPorts) := headerParameters (head.next.upTo stop).skipBlank
  let (header, afterPorts) := headerPortList atPorts
  let body :=
    match afterPorts.toSemicolon? with
    | some (_, next) => next
    | none => afterPorts
  let routines := body.searchAll routine? (·.next)
  let outside := fun (s : Statement) => !inRoutine routines s.start
  let statements := fun (pattern : Cursor → Option Statement) =>
    (body.searchAll pattern (·.next)).filter outside
  let declared := (statements (statement? ["input", "output", "inout"])).flatMap bodyPorts
  let (ports, portMarks) := modulePorts header declared
  let signals :=
    (statements (lineStatement? ["wire", "reg", "logic", "tri", "wand", "wor", "bit"])).flatMap
      signalMarks
  let constants := (statements (statement? ["parameter", "localparam"])).flatMap fun s =>
    parameterMarks "parameter_declaration" s.body
  let found := instancesFrom routines (body.rest.length + 1) body
  { name := head.name
    start := head.start
    stop := stop
    ports := ports
    marks := parameters ++ routines.filterMap Routine.mark? ++ portMarks ++
      [⟨head.name, .module, head.start, stop, "module_declaration"⟩] ++ signals ++ constants ++
      found.map (·.2)
    instances := found.map (·.1) }

/-- The modules from a place on. A module without an end reaches to the end of the text. -/
def scanFrom : Nat → Cursor → List ModuleMark
  | 0, _ => []
  | fuel + 1, c =>
    match c.search moduleHead? with
    | none => []
    | some head =>
      match head.next.search fun d => (d.word? ["endmodule"]).map fun (_, next) => (d.offset, next) with
      | none => [scanModule head (head.next.offset + head.next.rest.length)]
      | some (stop, next) => scanModule head stop :: scanFrom fuel next

/-- The modules of a text without comments. -/
def scan (text : List Char) : List ModuleMark := scanFrom (text.length + 1) (.start text)

/-! ## Extraction -/

/-- A symbol of a file that is not yet part of an index. -/
structure Extracted where
  name : String
  kind : SymbolKind
  line : Nat
  endLine : Nat
  nodeType : String
  deriving DecidableEq, Repr

/-- What a file declares. -/
structure Extraction where
  file : Path
  symbols : List Extracted
  modules : List ModuleDef
  instances : List Instance
  deriving DecidableEq, Repr

/-- A mark in lines of its text. -/
def Mark.extracted (text : List Char) (m : Mark) : Extracted :=
  ⟨String.ofList m.name, m.kind, lineOf text m.start, lineOf text m.stop, m.nodeType⟩

/-- A module in lines of its text. -/
def ModuleMark.definition (file : Path) (text : List Char) (m : ModuleMark) : ModuleDef :=
  ⟨String.ofList m.name, file, lineOf text m.start, lineOf text m.stop, m.ports⟩

/-- An instance in lines of its text. -/
def InstanceMark.inst (file : Path) (text : List Char) (i : InstanceMark) : Instance :=
  ⟨String.ofList i.name, String.ofList i.moduleType, file, lineOf text i.start, i.connections,
    i.parameters⟩

/-- What a source text declares. A text with a NUL character is refused. -/
def extract (file : Path) (content : List Char) : Except Error Extraction :=
  if content.contains (Char.ofNat 0) then .error (.source file .binary)
  else
    let text := stripComments content
    let modules := scan text
    .ok {
      file := file
      symbols := modules.flatMap fun m => m.marks.map (·.extracted text)
      modules := modules.map (·.definition file text)
      instances := modules.flatMap fun m => m.instances.map (·.inst file text) }

/-- The extensions of source files, in small letters. -/
def sourceExtensions : List String := [".v", ".sv", ".svh", ".vh"]

/-- Whether a file is a source text by its extension. -/
def supports (file : Path) : Bool := sourceExtensions.contains (lowerString file.suffix)

end RtlAtlas.Source
