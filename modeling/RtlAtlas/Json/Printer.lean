/-
Writing JSON on one line: a comma and a space between items, a colon and a space after names, and
every character outside printable ASCII as an escape of its UTF-16 units.
-/
import RtlAtlas.Json.Basic
import RtlAtlas.Text.Surrogate

namespace RtlAtlas.Json

open RtlAtlas.Text

def unitEscape (unit : Nat) : List Char := '\\' :: 'u' :: hexDigits 4 unit

def escapeChar (c : Char) : List Char :=
  if c == '"' || c == '\\' then ['\\', c]
  else if c == '\n' then ['\\', 'n']
  else if c == '\r' then ['\\', 'r']
  else if c == '\t' then ['\\', 't']
  else if c.toNat == 0x8 then ['\\', 'b']
  else if c.toNat == 0xC then ['\\', 'f']
  else if 0x20 ≤ c.toNat && c.toNat < 0x7F then [c]
  else if c.toNat < 0x10000 then unitEscape c.toNat
  else
    let rest := c.toNat - 0x10000
    unitEscape (0xD800 + rest / 0x400) ++ unitEscape (0xDC00 + rest % 0x400)

/-- A code point of a string, which may be a surrogate. -/
def escapeCode (code : Nat) : List Char :=
  if isSurrogate code then unitEscape code else escapeChar (Char.ofNat code)

def renderString (s : String) : List Char := '"' :: s.toList.flatMap escapeChar ++ ['"']

mutual

def renderChars : Json → List Char
  | .null => "null".toList
  | .bool true => "true".toList
  | .bool false => "false".toList
  | .int n => (toString n).toList
  | .decimal negative digits exponent =>
    (if negative then ['-'] else []) ++ s!"{digits}e{exponent}".toList
  | .nonFinite word => word.toList
  | .str s => renderString s
  | .codes cs => '"' :: cs.flatMap escapeCode ++ ['"']
  | .arr items => '[' :: renderItems items ++ [']']
  | .obj fields => '{' :: renderFields fields ++ ['}']

/-- The items of an array. -/
def renderItems : List Json → List Char
  | [] => []
  | [item] => renderChars item
  | item :: items => renderChars item ++ ',' :: ' ' :: renderItems items

def renderFields : List (String × Json) → List Char
  | [] => []
  | [(name, value)] => renderString name ++ ':' :: ' ' :: renderChars value
  | (name, value) :: fields =>
    renderString name ++ ':' :: ' ' :: renderChars value ++ ',' :: ' ' :: renderFields fields

end

/-- The text of a value on one line. -/
def render (j : Json) : String := String.ofList (renderChars j)

end RtlAtlas.Json
