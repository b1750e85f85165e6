/-
Modules with ANSI headers, as descriptions and as texts. A description lists the modules of a file, each
with its ports and its instances; `render` writes it in a canonical form: one port to a line, then one
instance to a line, module after module. `extraction` says what a file with such a text declares, line by
line. The parts of a description are such that every one of them can be written.
-/
import RtlAtlas.Proofs.Source.Reserved

namespace RtlAtlas.Source.Ansi

open RtlAtlas.Text

/-! ## Descriptions -/

/-- A word that is not reserved. -/
structure Word where
  text : List Char
  nonempty : text ≠ []
  plain : ∀ x ∈ text, isPlain x = true
  free : isReserved text = false
  deriving DecidableEq

/-- A name is a word that starts with no digit. -/
structure Name extends Word where
  start : text.head?.all isIdentStart = true
  deriving DecidableEq

def Name.string (n : Name) : String := String.ofList n.text

/-- The operators of bounds. -/
inductive Operator where
  | plus
  | minus
  | times
  deriving DecidableEq

def Operator.sign : Operator → Char
  | .plus => '+'
  | .minus => '-'
  | .times => '*'

/-- A bound of a range: a number or a name, or several of them with operators between. -/
structure Bound where
  first : Word
  others : List (Operator × Word)
  deriving DecidableEq

structure Range where
  left : Bound
  right : Bound
  deriving DecidableEq

/-- The keyword of a type. -/
inductive Net where
  | wire
  | reg
  | logic
  deriving DecidableEq

def Net.word : Net → String
  | .wire => "wire"
  | .reg => "reg"
  | .logic => "logic"

/-- The type of a port; both parts may be left out. -/
structure PortType where
  net : Option Net
  range : Option Range
  deriving DecidableEq

/-- What stands in front of the name of a port. -/
structure PortHead where
  direction : Direction
  type : PortType
  deriving DecidableEq

/-- A port; one without a head has that of the port before it. -/
structure PortEntry where
  head : Option PortHead
  name : Name
  deriving DecidableEq

/-- The connection of a port to a signal. -/
structure Binding where
  port : Name
  signal : Name
  deriving DecidableEq

/-- An instance of a module. -/
structure Cell where
  moduleType : Name
  name : Name
  bindings : List Binding
  deriving DecidableEq

/-- A module; its first port has a head. -/
structure Module where
  name : Name
  ports : List PortEntry
  cells : List Cell
  headed : ∀ e ∈ ports.head?, e.head.isSome = true
  deriving DecidableEq

/-! ## Texts -/

/-- The characters of a keyword. -/
def spell (keyword : String) : List Char := keyword.toList

def Bound.text (b : Bound) : List Char :=
  b.first.text ++ b.others.flatMap fun (operator, word) => operator.sign :: word.text

def Range.text (r : Range) : List Char := '[' :: (r.left.text ++ ':' :: (r.right.text ++ [']']))

def PortType.words (t : PortType) : List (List Char) :=
  (t.net.map (spell ·.word)).toList ++ (t.range.map Range.text).toList

/-- The text of a type; a port without a type is a wire. -/
def PortType.text (t : PortType) : List Char :=
  if t.words = [] then spell "wire" else [' '].intercalate t.words

/-- What is written in front of a name: the words of its type, each with a space behind it. -/
def PortType.lead (t : PortType) : List Char := t.words.flatMap (· ++ [' '])

def PortHead.text (h : PortHead) : List Char := spell h.direction.word ++ ' ' :: h.type.lead

/-- What is written in front of the name of a port. -/
def PortEntry.lead (e : PortEntry) : List Char := (e.head.map PortHead.text).getD []

def PortEntry.text (e : PortEntry) : List Char := e.lead ++ e.name.text

def Binding.text (b : Binding) : List Char := '.' :: (b.port.text ++ '(' :: (b.signal.text ++ [')']))

def Cell.bindingList (c : Cell) : List Char := [',', ' '].intercalate (c.bindings.map Binding.text)

/-- The line of an instance, with the line break in front of it. -/
def Cell.text (c : Cell) : List Char :=
  '\n' :: ' ' :: ' ' :: (c.moduleType.text ++ ' ' :: (c.name.text ++ ' ' :: '(' ::
    (c.bindingList ++ [')', ';'])))

/-- The lines of the ports, with the line break in front of each. -/
def portList (ports : List PortEntry) : List Char :=
  [','].intercalate (ports.map fun e => '\n' :: ' ' :: ' ' :: e.text) ++ ['\n']

def cellList (cells : List Cell) : List Char := cells.flatMap Cell.text ++ ['\n']

def Module.text (m : Module) : List Char :=
  spell "module" ++ ' ' :: (m.name.text ++ ' ' :: '(' :: (portList m.ports ++ ')' :: ';' ::
    (cellList m.cells ++ (spell "endmodule" ++ ['\n']))))

/-- The text of a file with the given modules. -/
def render (ms : List Module) : List Char := ms.flatMap Module.text

/-! ## What the texts declare -/

/-- The ports, where those without a head have that of the port before. -/
def portsOf (before : PortHead) : List PortEntry → List Port
  | [] => []
  | e :: es =>
    let head := e.head.getD before
    ⟨e.name.string, head.direction, String.ofList head.type.text⟩ :: portsOf head es

/-- The head before the first port. No port has it. -/
def noHead : PortHead := ⟨.inout, none, none⟩

def Binding.connection (b : Binding) : Connection := { port := b.port.string, signal := b.signal.string }

/-- The line of `endmodule` in a module that starts at a line. -/
def Module.lastLine (line : Nat) (m : Module) : Nat := line + m.ports.length + m.cells.length + 2

/-- The module and its number of line, for all modules of a file from a line on. -/
def numbered (line : Nat) : List Module → List (Module × Nat)
  | [] => []
  | m :: ms => (m, line) :: numbered (m.lastLine line + 1) ms

def Module.definition (file : Path) (line : Nat) (m : Module) : ModuleDef :=
  ⟨m.name.string, file, line, m.lastLine line, portsOf noHead m.ports⟩

/-- The instances of a module that starts at a line. -/
def Module.instances (file : Path) (line : Nat) (m : Module) : List Instance :=
  (m.cells.zipIdx (line + m.ports.length + 2)).map fun (c, l) =>
    ⟨c.name.string, c.moduleType.string, file, l, c.bindings.map Binding.connection, .empty⟩

/-- The symbols of a module that starts at a line. -/
def Module.symbols (line : Nat) (m : Module) : List Extracted :=
  ((m.ports.zipIdx (line + 1)).map fun (e, l) =>
      ⟨e.name.string, .port, l, l, "ansi_port_declaration"⟩) ++
    [⟨m.name.string, .module, line, m.lastLine line, "module_declaration"⟩] ++
    (m.cells.zipIdx (line + m.ports.length + 2)).map fun (c, l) =>
      ⟨c.name.string, .instantiation, l, l, "module_instantiation"⟩

/-- What a file with the given modules declares. -/
def extraction (file : Path) (ms : List Module) : Extraction where
  file := file
  symbols := (numbered 1 ms).flatMap fun (m, line) => m.symbols line
  modules := (numbered 1 ms).map fun (m, line) => m.definition file line
  instances := (numbered 1 ms).flatMap fun (m, line) => m.instances file line

end RtlAtlas.Source.Ansi
