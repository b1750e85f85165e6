/-
Reading JSON. `parse?` accepts one value with white space around it and refuses everything else;
of two fields with one name the last counts. Numbers without fraction and exponent are integers, of
which the very long ones are refused, and so are values that nest very deep.
-/
import RtlAtlas.Json.Basic
import RtlAtlas.Text.Digit
import RtlAtlas.Text.Find
import RtlAtlas.Text.Surrogate

namespace RtlAtlas.Json

open RtlAtlas.Text

def isSpace (c : Char) : Bool := c == ' ' || c == '\t' || c == '\n' || c == '\r'

def skipSpace (cs : List Char) : List Char := cs.dropWhile isSpace

def hexValue? (c : Char) : Option Nat :=
  if '0' ≤ c && c ≤ '9' then some (c.toNat - 48)
  else if 'a' ≤ c && c ≤ 'f' then some (c.toNat - 87)
  else if 'A' ≤ c && c ≤ 'F' then some (c.toNat - 55)
  else none

def unit? (a b c d : Char) : Option Nat := do
  let a ← hexValue? a
  let b ← hexValue? b
  let c ← hexValue? c
  let d ← hexValue? d
  return ((a * 16 + b) * 16 + c) * 16 + d

/-- The character that an escape letter stands for. -/
def escaped? : Char → Option Char
  | '"' => some '"'
  | '\\' => some '\\'
  | '/' => some '/'
  | 'b' => some (Char.ofNat 8)
  | 'f' => some (Char.ofNat 12)
  | 'n' => some '\n'
  | 'r' => some '\r'
  | 't' => some '\t'
  | _ => none

/-- Puts a code point in front of what was read. -/
def consRead (code : Nat) (read : Option (List Nat × List Char)) : Option (List Nat × List Char) :=
  read.map fun (s, rest) => (code :: s, rest)

/-- The code point that a pair of surrogates stands for, if two code points are one. -/
def paired? (hi lo : Nat) : Option Nat :=
  if 0xD800 ≤ hi && hi < 0xDC00 && 0xDC00 ≤ lo && lo < 0xE000 then
    some (0x10000 + (hi - 0xD800) * 0x400 + (lo - 0xDC00))
  else none

/-- The code points of the rest of a string up to its closing quote, and what follows it. -/
def stringFrom? : List Char → Option (List Nat × List Char)
  | [] => none
  | '"' :: cs => some ([], cs)
  | '\\' :: 'u' :: a :: b :: c :: d :: '\\' :: 'u' :: e :: f :: g :: h :: cs =>
    match unit? a b c d, unit? e f g h with
    | some hi, some lo =>
      match paired? hi lo with
      | some code => consRead code (stringFrom? cs)
      | none => consRead hi (stringFrom? ('\\' :: 'u' :: e :: f :: g :: h :: cs))
    | _, _ => none
  | '\\' :: 'u' :: a :: b :: c :: d :: cs =>
    match unit? a b c d with
    | some n => consRead n (stringFrom? cs)
    | none => none
  | '\\' :: c :: cs =>
    match escaped? c with
    | some x => consRead x.toNat (stringFrom? cs)
    | none => none
  | c :: cs => if c.toNat < 0x20 || c == '\\' then none else consRead c.toNat (stringFrom? cs)
termination_by cs => cs.length

def ofCodes (points : List Nat) : Json :=
  match ofCodes? points with
  | some s => .str s
  | none => .codes points

/-- The name of a field of some code points. -/
def nameOf (points : List Nat) : String := String.ofList (points.map Char.ofNat)

/-- An ASCII digit. -/
def isDecimal (c : Char) : Bool := '0' ≤ c && c ≤ '9'

def natOf (cs : List Char) : Nat := cs.foldl (fun n c => 10 * n + (c.toNat - 48)) 0

/-- The digits in front, at least one, and what follows. -/
def digits? (cs : List Char) : Option (List Char × List Char) :=
  match cs.takeWhile isDecimal with
  | [] => none
  | ds => some (ds, cs.dropWhile isDecimal)

/-- The whole part of a number: no zero in front of other digits. -/
def wholePart? : List Char → Option (List Char × List Char)
  | '0' :: cs => some (['0'], cs)
  | cs => digits? cs

/-- The fraction in front, if there is one, and what follows. -/
def fraction (cs : List Char) : List Char × List Char :=
  match cs with
  | '.' :: rest => (digits? rest).getD ([], cs)
  | _ => ([], cs)

/-- The exponent in front, if there is one, and what follows. -/
def exponent (cs : List Char) : Option Int × List Char :=
  match cs with
  | e :: rest =>
    if e == 'e' || e == 'E' then
      let signed :=
        match rest with
        | '-' :: r => (digits? r).map fun (ds, r) => (-(natOf ds : Int), r)
        | '+' :: r => (digits? r).map fun (ds, r) => ((natOf ds : Int), r)
        | r => (digits? r).map fun (ds, r) => ((natOf ds : Int), r)
      match signed with
      | some (n, r) => (some n, r)
      | none => (none, cs)
    else (none, cs)
  | [] => (none, cs)

/-- Why a text is not read as a value. -/
inductive Flaw where
  /-- It writes no value. -/
  | malformed
  /-- An integer has too many digits, this many. -/
  | longNumber (digits : Nat)
  /-- Too many arrays and objects lie in each other; the innermost is an object or not. -/
  | tooDeep (isObject : Bool)
  deriving DecidableEq, Repr

/-- The greatest number of arrays and objects that lie in each other. -/
def depthLimit : Nat := 987

/-- A value that was read, and what follows it. -/
abbrev Read (α : Type) := Except Flaw (α × List Char)

def Read.ofOption {α : Type} (read : Option (α × List Char)) : Read α :=
  match read with
  | some r => .ok r
  | none => .error .malformed

def number (cs : List Char) : Read Json :=
  let (negative, body) : Bool × List Char :=
    match cs with
    | '-' :: r => (true, r)
    | r => (false, r)
  match wholePart? body with
  | none => .error .malformed
  | some (whole, afterWhole) =>
    let (frac, afterFrac) := fraction afterWhole
    let (exp, rest) := exponent afterFrac
    if frac.isEmpty && exp.isNone then
      if digitLimit < whole.length then .error (.longNumber whole.length)
      else
        let n : Int := natOf whole
        .ok (.int (if negative then -n else n), rest)
    else .ok (.decimal negative (natOf (whole ++ frac)) (exp.getD 0 - frac.length), rest)

def wordValues : List (String × Json) :=
  [("null", .null), ("true", .bool true), ("false", .bool false), ("NaN", .nonFinite "NaN"),
    ("Infinity", .nonFinite "Infinity"), ("-Infinity", .nonFinite "-Infinity")]

/-- The word in front that stands for a value, and what follows. -/
def word? (cs : List Char) : Option (Json × List Char) :=
  wordValues.findSome? fun (w, v) => (dropLead? w.toList cs).map (v, ·)

/-- The name of a field in front with the colon after it, and what follows. -/
def fieldName? (cs : List Char) : Option (String × List Char) :=
  match cs with
  | '"' :: rest =>
    match stringFrom? rest with
    | none => none
    | some (points, rest) =>
      match skipSpace rest with
      | ':' :: rest => some (nameOf points, rest)
      | _ => none
  | _ => none

mutual

/-- The value in front, and what follows; there is room for `room` more arrays and objects in each
other. -/
def valueFrom : Nat → Nat → List Char → Read Json
  | 0, _, _ => .error .malformed
  | fuel + 1, room, cs =>
    match cs with
    | '"' :: rest =>
      (Read.ofOption (stringFrom? rest)).map fun (points, rest) => (ofCodes points, rest)
    | '[' :: rest =>
      if room = 0 then .error (.tooDeep false)
      else
        match skipSpace rest with
        | ']' :: rest => .ok (.arr [], rest)
        | rest => (itemsFrom fuel (room - 1) rest).map fun (vs, rest) => (.arr vs, rest)
    | '{' :: rest =>
      if room = 0 then .error (.tooDeep true)
      else
        match skipSpace rest with
        | '}' :: rest => .ok (.obj [], rest)
        | rest => (fieldsFrom fuel (room - 1) rest).map fun (fs, rest) => (.obj fs, rest)
    | _ =>
      match word? cs with
      | some r => .ok r
      | none => number cs

/-- The items of an array up to its closing bracket, and what follows. -/
def itemsFrom : Nat → Nat → List Char → Read (List Json)
  | 0, _, _ => .error .malformed
  | fuel + 1, room, cs =>
    match valueFrom fuel room (skipSpace cs) with
    | .error flaw => .error flaw
    | .ok (v, rest) =>
      match skipSpace rest with
      | ',' :: rest => (itemsFrom fuel room rest).map fun (vs, rest) => (v :: vs, rest)
      | ']' :: rest => .ok ([v], rest)
      | _ => .error .malformed

/-- The fields of an object up to its closing brace, and what follows. -/
def fieldsFrom : Nat → Nat → List Char → Read (List (String × Json))
  | 0, _, _ => .error .malformed
  | fuel + 1, room, cs =>
    match fieldName? (skipSpace cs) with
    | none => .error .malformed
    | some (name, rest) =>
      match valueFrom fuel room (skipSpace rest) with
      | .error flaw => .error flaw
      | .ok (v, rest) =>
        match skipSpace rest with
        | ',' :: rest => (fieldsFrom fuel room rest).map fun (fs, rest) => ((name, v) :: fs, rest)
        | '}' :: rest => .ok ([(name, v)], rest)
        | _ => .error .malformed

end

/-- The value that a text writes, or why it is not read. Flaws are looked for from left to right. -/
def parse (cs : List Char) : Except Flaw Json :=
  match valueFrom (2 * cs.length + 2) depthLimit (skipSpace cs) with
  | .error flaw => .error flaw
  | .ok (v, rest) => if (skipSpace rest).isEmpty then .ok v else .error .malformed

def parse? (cs : List Char) : Option Json := (parse cs).toOption

end RtlAtlas.Json
