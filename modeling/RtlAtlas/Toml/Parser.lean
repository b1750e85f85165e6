/-
Reading a configuration file: lines of keys and values, table headers and headers of arrays of
tables. A key is given at most once, a table is opened at most once, and arrays and tables written
as values are closed to later lines. A file that breaks a rule is refused as a whole.
-/
import RtlAtlas.Text.Digit
import RtlAtlas.Text.Find
import RtlAtlas.Toml.Moment

namespace RtlAtlas.Toml

open RtlAtlas.Text

/-! ## Characters and strings -/

def isGap (c : Char) : Bool := c == ' ' || c == '\t'

def skipGap (cs : List Char) : List Char := cs.dropWhile isGap

/-- A control character, which may stand nowhere but as a tab or at the end of a line. -/
def isControl (c : Char) : Bool := c.toNat < 0x20 || c.toNat == 0x7F

/-- A control character other than a tab. -/
def isIllegal (c : Char) : Bool := isControl c && c != '\t'

def isBareKey (c : Char) : Bool :=
  ('a' ≤ c && c ≤ 'z') || ('A' ≤ c && c ≤ 'Z') || ('0' ≤ c && c ≤ '9') || c == '-' || c == '_'

/-- What follows a comment, if one stands in front; illegal characters in it are refused. -/
def skipComment? (cs : List Char) : Option (List Char) :=
  match cs with
  | '#' :: rest =>
    if (rest.takeWhile (· != '\n')).any isIllegal then none else some (rest.dropWhile (· != '\n'))
  | _ => some cs

def hexValue? (c : Char) : Option Nat :=
  if '0' ≤ c && c ≤ '9' then some (c.toNat - 48)
  else if 'a' ≤ c && c ≤ 'f' then some (c.toNat - 87)
  else if 'A' ≤ c && c ≤ 'F' then some (c.toNat - 55)
  else none

/-- The character that `count` hexadecimal digits in front name, and what follows. -/
def hexChar? (count : Nat) (cs : List Char) : Option (Char × List Char) :=
  let digits := cs.take count
  if digits.length < count then none
  else
    match digits.mapM hexValue? with
    | none => none
    | some values =>
      let code := values.foldl (fun n d => 16 * n + d) 0
      if code < 0xD800 || (0xE000 ≤ code && code < 0x110000) then
        some (Char.ofNat code, cs.drop count)
      else none

/-- The character that an escape letter stands for. -/
def escaped? : Char → Option Char
  | 'b' => some (Char.ofNat 8)
  | 't' => some '\t'
  | 'n' => some '\n'
  | 'f' => some (Char.ofNat 12)
  | 'r' => some '\r'
  | '"' => some '"'
  | '\\' => some '\\'
  | _ => none

/-- What follows a backslash at the end of a line of a text of several lines: the white space up to
the next visible character is left out. -/
def skipFold? (cs : List Char) : Option (List Char) :=
  match skipGap cs with
  | '\n' :: rest => some (rest.dropWhile fun c => isGap c || c == '\n')
  | [] => some []
  | _ => none

/-- The rest of a quoted string up to its end, and what follows; at most `fuel` steps are made. -/
def basicFrom? (multiline : Bool) : Nat → List Char → Option (List Char × List Char)
  | 0, _ => none
  | _, [] => none
  | fuel + 1, c :: cs =>
    let go := fun (x : Char) (rest : List Char) =>
      (basicFrom? multiline fuel rest).map fun (s, r) => (x :: s, r)
    if c == '"' then
      if !multiline then some ([], cs)
      else
        match cs with
        | '"' :: '"' :: rest => some ([], rest)
        | _ => go c cs
    else if c == '\\' then
      match cs with
      | 'u' :: rest => (hexChar? 4 rest).bind fun (x, r) => go x r
      | 'U' :: rest => (hexChar? 8 rest).bind fun (x, r) => go x r
      | d :: rest =>
        if multiline && (isGap d || d == '\n') then
          (skipFold? cs).bind fun r => basicFrom? multiline fuel r
        else (escaped? d).bind fun x => go x rest
      | [] => none
    else if isIllegal c && !(multiline && c == '\n') then none
    else go c cs

/-- The rest of a verbatim string up to its end, and what follows. -/
def literalFrom? : List Char → Option (List Char × List Char)
  | [] => none
  | '\'' :: cs => some ([], cs)
  | c :: cs => if isIllegal c then none else (literalFrom? cs).map fun (s, r) => (c :: s, r)

/-- The rest of a verbatim text of several lines up to its end, and what follows. -/
def literalLinesFrom? : List Char → Option (List Char × List Char)
  | [] => none
  | '\'' :: '\'' :: '\'' :: cs => some ([], cs)
  | c :: cs =>
    if isIllegal c && c != '\n' then none
    else (literalLinesFrom? cs).map fun (s, r) => (c :: s, r)

/-- Adds up to two more quotes that stand right behind a text of several lines. -/
def extraQuotes (quote : Char) (read : List Char × List Char) : List Char × List Char :=
  let extra := (read.2.takeWhile (· == quote)).take 2
  (read.1 ++ extra, read.2.drop extra.length)

def skipBreak (cs : List Char) : List Char :=
  match cs with
  | '\n' :: rest => rest
  | _ => cs

def string? (cs : List Char) : Option (List Char × List Char) :=
  match cs with
  | '"' :: '"' :: '"' :: rest =>
    (basicFrom? true (rest.length + 1) (skipBreak rest)).map (extraQuotes '"')
  | '"' :: rest => basicFrom? false (rest.length + 1) rest
  | '\'' :: '\'' :: '\'' :: rest => (literalLinesFrom? (skipBreak rest)).map (extraQuotes '\'')
  | '\'' :: rest => literalFrom? rest
  | _ => none

/-! ## Keys -/

/-- One part of a key, and what follows. -/
def keyPart? (cs : List Char) : Option (String × List Char) :=
  match cs with
  | '"' :: rest => (basicFrom? false (rest.length + 1) rest).map fun (s, r) => (String.ofList s, r)
  | '\'' :: rest => (literalFrom? rest).map fun (s, r) => (String.ofList s, r)
  | _ =>
    match cs.takeWhile isBareKey with
    | [] => none
    | part => some (String.ofList part, cs.dropWhile isBareKey)

/-- The parts of a key with dots between them, and what follows the white space behind it. -/
def keyFrom? : Nat → List Char → Option (List String × List Char)
  | 0, _ => none
  | fuel + 1, cs =>
    match keyPart? cs with
    | none => none
    | some (part, rest) =>
      match skipGap rest with
      | '.' :: rest' => (keyFrom? fuel (skipGap rest')).map fun (parts, r) => (part :: parts, r)
      | rest' => some ([part], rest')

def key? (cs : List Char) : Option (List String × List Char) := keyFrom? (cs.length + 1) cs

/-! ## Numbers -/

/-- The digits in front with single underscores between them, and what follows. -/
def digitsFrom (isDigit : Char → Bool) : List Char → List Char × List Char
  | '_' :: c :: cs =>
    if isDigit c then
      let (ds, rest) := digitsFrom isDigit cs
      (c :: ds, rest)
    else ([], '_' :: c :: cs)
  | c :: cs =>
    if isDigit c then
      let (ds, rest) := digitsFrom isDigit cs
      (c :: ds, rest)
    else ([], c :: cs)
  | [] => ([], [])

/-- At least one digit in front, and what follows. -/
def digits? (isDigit : Char → Bool) (cs : List Char) : Option (List Char × List Char) :=
  match cs with
  | c :: rest =>
    if isDigit c then
      let (ds, r) := digitsFrom isDigit rest
      some (c :: ds, r)
    else none
  | [] => none

def isDecimal (c : Char) : Bool := '0' ≤ c && c ≤ '9'

/-- The number that digits write in a base. -/
def numberOf (base : Nat) (ds : List Char) : Nat :=
  ds.foldl (fun n d => base * n + (hexValue? d).getD 0) 0

/-- An integer with a letter for its base, and what follows. -/
def based? (cs : List Char) : Option (Toml × List Char) :=
  let read := fun (base : Nat) (rest : List Char) =>
    (digits? (fun c => (hexValue? c).any (· < base)) rest).map fun (ds, r) =>
      (Toml.integer (numberOf base ds), r)
  match cs with
  | '0' :: 'x' :: rest => read 16 rest
  | '0' :: 'o' :: rest => read 8 rest
  | '0' :: 'b' :: rest => read 2 rest
  | _ => none

/-- The fraction in front, if there is one. -/
def fraction (cs : List Char) : List Char × List Char :=
  match cs with
  | '.' :: rest =>
    match digits? isDecimal rest with
    | some (ds, r) => ('.' :: ds, r)
    | none => ([], cs)
  | _ => ([], cs)

/-- The exponent in front, if there is one. -/
def exponent (cs : List Char) : List Char × List Char :=
  match cs with
  | e :: rest =>
    if e == 'e' || e == 'E' then
      let (sign, body) : List Char × List Char :=
        match rest with
        | '+' :: r => (['+'], r)
        | '-' :: r => (['-'], r)
        | r => ([], r)
      match digits? isDecimal body with
      | some (ds, r) => ('e' :: sign ++ ds, r)
      | none => ([], cs)
    else ([], cs)
  | [] => ([], [])

/-- Why a text is not read as a configuration file. -/
inductive Flaw where
  /-- It is not written the way it must be. -/
  | malformed
  /-- An integer has too many digits, this many. -/
  | longNumber (digits : Nat)
  /-- Arrays and tables written as values lie too deep in each other. -/
  | tooDeep
  deriving DecidableEq, Repr

/-- How much room there is for arrays and tables that lie in each other. -/
def nestingRoom : Nat := 980

def arrayRoom : Nat := 2

def tableRoom : Nat := 3

def need {α : Type} (read : Option α) : Except Flaw α :=
  match read with
  | some a => .ok a
  | none => .error .malformed

/-- The integer that a sign and decimal digits write. -/
def integerOf (sign ds : List Char) : Except Flaw Toml :=
  if digitLimit < ds.length then .error (.longNumber ds.length)
  else
    let n : Int := numberOf 10 ds
    .ok (.integer (if sign = ['-'] then -n else n))

/-- A decimal number, and what follows, if there is one in front. -/
def decimal (cs : List Char) : Except Flaw (Option (Toml × List Char)) :=
  let (sign, body) : List Char × List Char :=
    match cs with
    | '+' :: r => (['+'], r)
    | '-' :: r => (['-'], r)
    | r => ([], r)
  let whole : Option (List Char × List Char) :=
    match body with
    | '0' :: r => some (['0'], r)
    | _ => digits? isDecimal body
  match whole with
  | none => .ok none
  | some (ds, afterWhole) =>
    let (frac, afterFrac) := fraction afterWhole
    let (exp, rest) := exponent afterFrac
    if frac.isEmpty && exp.isEmpty then (integerOf sign ds).map fun n => some (n, rest)
    else .ok (some (.float (String.ofList (sign ++ ds ++ frac ++ exp)), rest))

def wordValues : List (String × Toml) :=
  [("true", .boolean true), ("false", .boolean false), ("inf", .float "inf"), ("nan", .float "nan"),
    ("-inf", .float "-inf"), ("+inf", .float "+inf"), ("-nan", .float "-nan"),
    ("+nan", .float "+nan")]

/-- A number or a word, and what follows. -/
def simple (cs : List Char) : Except Flaw (Toml × List Char) :=
  match based? cs with
  | some read => .ok read
  | none => do
    match ← decimal cs with
    | some read => return read
    | none => need (wordValues.findSome? fun (w, v) => (dropLead? w.toList cs).map (v, ·))

/-- A moment, a number or a word, and what follows. -/
def scalar (cs : List Char) : Except Flaw (Toml × List Char) :=
  match moment? cs with
  | some (value, rest) => need (value.map (·, rest))
  | none => simple cs

/-! ## Values -/

/-- What follows the white space, line breaks and comments in front, inside an array. -/
def skipFiller? : Nat → List Char → Option (List Char)
  | 0, cs => some cs
  | fuel + 1, cs =>
    match cs.dropWhile fun c => isGap c || c == '\n' with
    | '#' :: rest => (skipComment? ('#' :: rest)).bind (skipFiller? fuel)
    | rest => some rest

/-- Whether a value is an array or a table, which later lines may not change. -/
def isClosed : Toml → Bool
  | .array _ => true
  | .table _ => true
  | _ => false

mutual

/-- The value in front, and what follows; `room` is left for arrays and tables in each other. -/
def valueFrom : Nat → Nat → List Char → Except Flaw (Toml × List Char)
  | 0, _, _ => .error .malformed
  | fuel + 1, room, cs =>
    match cs with
    | '"' :: _ => need ((string? cs).map fun (s, r) => (.string (String.ofList s), r))
    | '\'' :: _ => need ((string? cs).map fun (s, r) => (.string (String.ofList s), r))
    | '[' :: rest => do
      match ← need (skipFiller? rest.length rest) with
      | ']' :: r => return (.array [], r)
      | r =>
        if room < arrayRoom then throw .tooDeep
        let (items, r') ← itemsFrom fuel (room - arrayRoom) r
        return (.array items, r')
    | '{' :: rest =>
      match skipGap rest with
      | '}' :: r => .ok (.table [], r)
      | r => do
        if room < tableRoom then throw .tooDeep
        let (entries, r') ← entriesFrom fuel (room - tableRoom) [] [] r
        return (.table entries, r')
    | _ => scalar cs

/-- The items of an array up to its end, and what follows. -/
def itemsFrom : Nat → Nat → List Char → Except Flaw (List Toml × List Char)
  | 0, _, _ => .error .malformed
  | fuel + 1, room, cs => do
    let (v, rest) ← valueFrom fuel room cs
    match ← need (skipFiller? rest.length rest) with
    | ']' :: r => return ([v], r)
    | ',' :: r =>
      match ← need (skipFiller? r.length r) with
      | ']' :: r' => return ([v], r')
      | r' =>
        let (vs, r'') ← itemsFrom fuel room r'
        return (v :: vs, r'')
    | _ => throw .malformed

/-- The entries of a table written as a value, up to its end, and what follows. `closed` holds the
keys that may not be entered again. -/
def entriesFrom : Nat → Nat → List (List String) → List (String × Toml) → List Char →
    Except Flaw (List (String × Toml) × List Char)
  | 0, _, _, _, _ => .error .malformed
  | fuel + 1, room, closed, entries, cs =>
    match key? cs with
    | some (key, '=' :: rest) => do
      let (v, r) ← valueFrom fuel room (skipGap rest)
      if closed.any fun k => k.isPrefixOf key then throw .malformed
      let entries' ← need (atPlainTable (addEntry (key.getLastD "") v) key.dropLast entries)
      match skipGap r with
      | '}' :: r' => return (entries', r')
      | ',' :: r' =>
        let closed' := if isClosed v then key :: closed else closed
        entriesFrom fuel room closed' entries' (skipGap r')
      | _ => throw .malformed
    | _ => .error .malformed

end

/-! ## Documents -/

/-- A document as far as it has been read. -/
structure Document where
  entries : List (String × Toml) := []
  /-- The table that keys are entered into. -/
  header : List String := []
  /-- Tables that may not be opened by a header again. -/
  opened : List (List String) := []
  /-- Values that may not be changed, and all below them. -/
  closed : List (List String) := []
  /-- Tables that dotted keys have made and that may not be opened once the current table ends. -/
  pending : List (List String) := []

/-- Whether a key lies at or below a closed value. -/
def Document.isClosed (d : Document) (key : List String) : Bool :=
  d.closed.any fun k => k.isPrefixOf key

/-- Ends the current table. -/
def Document.endTable (d : Document) : Document :=
  { d with opened := d.pending ++ d.opened, pending := [] }

/-- Opens a table by a header. -/
def Document.openTable? (d : Document) (key : List String) : Option Document :=
  if d.opened.contains key || d.isClosed key then none
  else
    (atTable some key d.entries).map fun entries =>
      { d with entries := entries, header := key, opened := key :: d.opened }

/-- Adds a table to an array of tables by a header. -/
def Document.openItem? (d : Document) (key : List String) : Option Document :=
  if d.isClosed key then none
  else
    (atTable (addTable (key.getLastD "")) key.dropLast d.entries).map fun entries =>
      { d with
        entries := entries
        header := key
        opened := key :: d.opened.filter fun k => !key.isPrefixOf k
        closed := d.closed.filter fun k => !key.isPrefixOf k }

/-- The keys of the tables on the way to a dotted key, below the header. -/
def wayTo (header key : List String) : List (List String) :=
  (List.range (key.length - 1)).map fun i => header ++ key.take (i + 1)

/-- Enters a value under a key of the current table. -/
def Document.enter? (d : Document) (key : List String) (value : Toml) : Option Document :=
  let way := wayTo d.header key
  let parent := d.header ++ key.dropLast
  if way.any d.opened.contains || d.isClosed parent then none
  else
    (atTable (addEntry (key.getLastD "") value) parent d.entries).map fun entries =>
      { d with
        entries := entries
        pending := way ++ d.pending
        closed := if Toml.isClosed value then (d.header ++ key) :: d.closed else d.closed }

/-- Reads one statement, a header or a key with its value, and gives what follows it. -/
def statement (d : Document) (cs : List Char) : Except Flaw (Document × List Char) :=
  match cs with
  | '[' :: '[' :: rest =>
    match key? (skipGap rest) with
    | some (key, ']' :: ']' :: r) => need ((d.endTable.openItem? key).map (·, r))
    | _ => .error .malformed
  | '[' :: rest =>
    match key? (skipGap rest) with
    | some (key, ']' :: r) => need ((d.endTable.openTable? key).map (·, r))
    | _ => .error .malformed
  | '#' :: _ => .ok (d, cs)
  | _ =>
    match key? cs with
    | some (key, '=' :: rest) => do
      let (v, r) ← valueFrom (2 * rest.length + 2) nestingRoom (skipGap rest)
      need ((d.enter? key v).map (·, r))
    | _ => .error .malformed

/-- Reads the remaining statements, each on a line of its own. -/
def documentFrom : Nat → Document → List Char → Except Flaw Document
  | 0, _, _ => .error .malformed
  | fuel + 1, d, cs =>
    match skipGap cs with
    | [] => .ok d
    | '\n' :: rest => documentFrom fuel d rest
    | line => do
      let (d', rest) ← statement d line
      match ← need (skipComment? (skipGap rest)) with
      | [] => return d'
      | '\n' :: rest' => documentFrom fuel d' rest'
      | _ => throw .malformed

/-- The text with pairs of carriage return and line feed made line feeds. -/
def joinBreaks : List Char → List Char
  | '\r' :: '\n' :: cs => '\n' :: joinBreaks cs
  | c :: cs => c :: joinBreaks cs
  | [] => []

/-- The entries of a configuration file, or its first flaw. -/
def parse (text : List Char) : Except Flaw (List (String × Toml)) :=
  let cs := joinBreaks text
  (documentFrom (cs.length + 1) {} cs).map (·.entries)

end RtlAtlas.Toml
