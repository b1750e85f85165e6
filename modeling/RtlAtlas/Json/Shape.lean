/-
What a JSON value can be used for. A use that the value does not allow is a misfit; its wording names
what the value is.
-/
import RtlAtlas.Json.Basic

namespace RtlAtlas.Json

def typeWord : Json → String
  | .null => "NoneType"
  | .bool _ => "bool"
  | .int _ => "int"
  | .decimal .. => "float"
  | .nonFinite _ => "float"
  | .str _ => "str"
  | .codes _ => "str"
  | .arr _ => "list"
  | .obj _ => "dict"

/-- Whether a value counts as given: zeros and empty values do not. -/
def isGiven : Json → Bool
  | .null => false
  | .bool b => b
  | .int n => n != 0
  | .decimal negative digits exponent => !(Double.ofDecimal negative digits exponent).isZero
  | .nonFinite _ => true
  | .str s => s != ""
  | .codes cs => !cs.isEmpty
  | .arr items => !items.isEmpty
  | .obj fields => !fields.isEmpty

/-- A use of a value that what it is does not allow, by the word for what it is. -/
inductive Misfit where
  /-- It is asked for a member that only other values have. -/
  | noMember (type member : String)
  /-- It is asked for its first item. -/
  | noItems (type : String)
  /-- It is asked for the item with a name. -/
  | noFields (type : String)
  /-- It is looked up among names. -/
  | noName (type : String)
  /-- It is taken for the path of a file. -/
  | noPath (type : String)
  /-- It is compared with a depth. -/
  | noDepth (type : String)
  /-- It is taken for a place in a row. -/
  | noPlace
  deriving DecidableEq, Repr

def Misfit.message : Misfit → String
  | .noMember type member => s!"'{type}' object has no attribute '{member}'"
  | .noItems type => s!"'{type}' object is not subscriptable"
  | .noFields "list" => "list indices must be integers or slices, not str"
  | .noFields "str" => "string indices must be integers, not 'str'"
  | .noFields type => s!"'{type}' object is not subscriptable"
  | .noName type => s!"unhashable type: '{type}'"
  | .noPath type => s!"expected str, bytes or os.PathLike object, not {type}"
  | .noDepth type => s!"'>=' not supported between instances of 'int' and '{type}'"
  | .noPlace => "slice indices must be integers or None or have an __index__ method"

/-- The text that a value is when it is looked up among names; nothing if it is no text and so equals
no name. Values made of others cannot be looked up. -/
def nameKey (j : Json) : Except Misfit (Option String) :=
  match j with
  | .arr _ => .error (.noName j.typeWord)
  | .obj _ => .error (.noName j.typeWord)
  | _ => .ok j.string?

end RtlAtlas.Json
