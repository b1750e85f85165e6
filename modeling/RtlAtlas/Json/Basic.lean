/-
JSON values: the form of the events that search tools print, of machine-readable answers and of the
arguments and results of tools. Fields of an object keep their order.
-/
import RtlAtlas.Number.Double

namespace RtlAtlas

/-- A JSON value. -/
inductive Json where
  | null
  | bool (value : Bool)
  | int (value : Int)
  /-- A number with a fraction or an exponent: `digits * 10 ^ exponent` with a sign. -/
  | decimal (negative : Bool) (digits : Nat) (exponent : Int)
  /-- One of the words for numbers that are none or infinite. -/
  | nonFinite (word : String)
  | str (value : String)
  /-- A string that holds surrogates alone, by its code points. -/
  | codes (codes : List Nat)
  | arr (items : List Json)
  | obj (fields : List (String × Json))
  deriving Repr

namespace Json

instance : Inhabited Json := ⟨.null⟩

/-- The fields of an object; no other value has any. -/
def fields : Json → List (String × Json)
  | .obj fs => fs
  | _ => []

/-- The value of a field, the last one given. -/
def field? (name : String) (j : Json) : Option Json :=
  (j.fields.reverse.find? fun f => f.1 == name).map (·.2)

/-- The value of a field that is given and not null. -/
def given? (name : String) (j : Json) : Option Json :=
  match j.field? name with
  | some .null => none
  | other => other

def string? : Json → Option String
  | .str s => some s
  | _ => none

def int? : Json → Option Int
  | .int n => some n
  | _ => none

def bool? : Json → Option Bool
  | .bool b => some b
  | _ => none

def items? : Json → Option (List Json)
  | .arr items => some items
  | _ => none

/-- The double that a number with a fraction or an exponent means. -/
def double? : Json → Option Double
  | .decimal negative digits exponent => some (Double.ofDecimal negative digits exponent)
  | _ => none

/-- A string, or null for none. -/
def ofString? : Option String → Json
  | some s => .str s
  | none => .null

def ofInt? : Option Int → Json
  | some n => .int n
  | none => .null

def ofStrings (ss : List String) : Json := .arr (ss.map .str)

def ofNat (n : Nat) : Json := .int n

end Json

end RtlAtlas
