/-
The spelling of JSON values in messages: words with a capital, text between single quotes, numbers as
short as they can be.
-/
import RtlAtlas.Json.Basic
import RtlAtlas.Number.Shortest
import RtlAtlas.Text.Surrogate

namespace RtlAtlas.Json

def spellWord (word : String) : String :=
  match word with
  | "NaN" => "nan"
  | "Infinity" => "inf"
  | _ => "-inf"

def spellCode (code : Nat) : List Char :=
  if Text.isSurrogate code then '\\' :: 'u' :: Text.hexDigits 4 code
  else Text.quoteChar '\'' (Char.ofNat code)

mutual

def spell : Json → String
  | .null => "None"
  | .bool true => "True"
  | .bool false => "False"
  | .int n => toString n
  | .decimal negative digits exponent => (Double.ofDecimal negative digits exponent).text
  | .nonFinite word => spellWord word
  | .str s => Text.quoted s
  | .codes cs => String.ofList ('\'' :: cs.flatMap spellCode ++ ['\''])
  | .arr items => "[" ++ ", ".intercalate (spellItems items) ++ "]"
  | .obj fields => "\x7b" ++ ", ".intercalate (spellFields fields) ++ "\x7d"

def spellItems : List Json → List String
  | [] => []
  | item :: items => spell item :: spellItems items

def spellFields : List (String × Json) → List String
  | [] => []
  | (name, value) :: fields => (Text.quoted name ++ ": " ++ spell value) :: spellFields fields

end

/-- A value as a part of a sentence: text stands as it is. -/
def shown : Json → String
  | .str s => s
  | j => spell j

end RtlAtlas.Json
