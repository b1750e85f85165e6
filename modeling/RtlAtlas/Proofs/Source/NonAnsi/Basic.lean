/-
Modules with non-ANSI headers, as descriptions and as texts. The header lists the names of the ports; their
directions and types are declared in the body, line by line, among functions and tasks that declare
arguments of their own in the same way. `ports` says which ports such a module has. Only the
declarations outside of functions and tasks count, and the last one of a name does.
-/
import RtlAtlas.Proofs.Source.ConnectionList
import RtlAtlas.Proofs.Source.Frame

namespace RtlAtlas.Source.NonAnsi

open RtlAtlas.Text

/-! ## Descriptions -/

/-- Whether a word is one of a list. -/
def isAmong (words : List String) (word : List Char) : Bool := words.contains (String.ofList word)

/-- The words that declare a port. -/
def directionWords : List String := ["input", "output", "inout"]

/-- The words that start a function or a task. -/
def routineWords : List String := ["function", "task"]

/-- The words at which a function, a task or the module ends. -/
def endWords : List String := ["endfunction", "endtask", "endmodule"]

/-- An identifier of ASCII letters, digits and underscores that is not a keyword. -/
structure Name where
  text : List Char
  starts : text.head?.any isIdentStart = true
  plain : ∀ x ∈ text, isPlain x = true
  free : isKeyword text = false

def Name.string (n : Name) : String := String.ofList n.text

/-- A range `[m:l]`; what stands between the brackets neither ends a statement nor starts or ends a
function, a task or the module. -/
structure Range where
  bounds : Expression
  free : Without (isAmong (routineWords ++ endWords)) (bounds.text ++ [']'])
  unended : ';' ∉ bounds.text
  bare : Bare bounds.text

/-- A declaration `dir [m:l] n1, ..., nj;` of ports, with a range or without. -/
structure Declaration where
  direction : Direction
  range : Option Range
  first : Name
  others : List Name

inductive SubroutineKind where
  | function
  | task
  deriving DecidableEq

/-- A function or task. It is written up to a semicolon behind which it has no arguments of its own, and
from there on up to its end. -/
structure Subroutine where
  kind : SubroutineKind
  head : List Char
  tail : List Char
  unended : Without (isAmong endWords) (head ++ ';' :: tail)
  settled : Without (isAmong directionWords) tail
  bare : Bare (head ++ ';' :: tail)

/-- An item of a body. -/
inductive Item where
  | declaration (d : Declaration)
  | subroutine (s : Subroutine)

/-- A module whose header lists names. -/
structure Module where
  name : Name
  header : List Name
  items : List Item

/-! ## Texts -/

def Range.text (r : Range) : List Char := '[' :: (r.bounds.text ++ [']'])

/-- Names with a comma and a space between neighbours. -/
def nameList (names : List Name) : List Char := [',', ' '].intercalate (names.map Name.text)

namespace Declaration

def names (d : Declaration) : List Name := d.first :: d.others

/-- The range with a space behind it, if there is one. -/
def lead (d : Declaration) : List Char := d.range.elim [] (·.text ++ [' '])

/-- What stands between the direction and the semicolon. -/
def body (d : Declaration) : List Char := ' ' :: (d.lead ++ nameList d.names)

def text (d : Declaration) : List Char := d.direction.word.toList ++ (d.body ++ [';'])

end Declaration

def SubroutineKind.word : SubroutineKind → String
  | .function => "function"
  | .task => "task"

namespace Subroutine

/-- What stands between the keyword and the word that ends the function or task. -/
def body (s : Subroutine) : List Char := ' ' :: (s.head ++ ';' :: s.tail)

def text (s : Subroutine) : List Char :=
  s.kind.word.toList ++ (s.body ++ ("end" ++ s.kind.word).toList)

end Subroutine

namespace Item

/-- An item without the white space around it. -/
def core : Item → List Char
  | declaration d => d.text
  | subroutine s => s.text

/-- The line or lines of an item. -/
def text (i : Item) : List Char := ' ' :: ' ' :: (i.core ++ ['\n'])

end Item

namespace Module

/-- The body of a module, from the line break behind the header on. -/
def body (m : Module) : List Char := '\n' :: m.items.flatMap Item.text

/-- What stands between the name of a module and the word that ends it. -/
def inside (m : Module) : List Char := ' ' :: '(' :: (nameList m.header ++ ')' :: ';' :: m.body)

def text (m : Module) : List Char :=
  "module".toList ++ ' ' :: (m.name.text ++ (m.inside ++ "endmodule\n".toList))

end Module

/-! ## Ports -/

/-- The type that a declaration gives to all its ports. -/
def Declaration.type (d : Declaration) : List Char := d.range.elim "wire".toList Range.text

def Declaration.ports (d : Declaration) : List Port :=
  d.names.map fun n => ⟨n.string, d.direction, String.ofList d.type⟩

/-- The ports that an item declares; the arguments of functions and tasks are none. -/
def Item.ports : Item → List Port
  | declaration d => d.ports
  | subroutine _ => []

/-- The last port with a name, or an `inout` wire. -/
def portNamed (declared : List Port) (name : String) : Port :=
  (declared.filter (·.name == name)).getLast?.getD ⟨name, .inout, "wire"⟩

theorem name_portNamed (declared : List Port) (name : String) : (portNamed declared name).name = name := by
  unfold portNamed
  cases hlast : (declared.filter (·.name == name)).getLast? with
  | none => rfl
  | some p =>
    have hp := (List.mem_filter.1 (List.mem_of_getLast? hlast)).2
    exact eq_of_beq hp

namespace Module

/-- The ports that the body declares, one after the other. -/
def declared (m : Module) : List Port := m.items.flatMap Item.ports

/-- The names of the ports: those of the header, or all that are declared if the header is empty, each in
the place of its first declaration. -/
def order (m : Module) : List String :=
  if m.header = [] then (m.declared.map (·.name)).eraseDups else m.header.map Name.string

def ports (m : Module) : List Port := m.order.map (portNamed m.declared)

theorem names_ports (m : Module) : m.ports.map (·.name) = m.order := by
  rw [ports, List.map_map]
  exact List.map_id'' (name_portNamed m.declared) _

end Module

end RtlAtlas.Source.NonAnsi
