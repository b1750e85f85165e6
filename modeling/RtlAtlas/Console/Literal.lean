/-
Literals as parameters of tags: numbers, texts, the constants `True`, `False`, `None` and `...`, and
tuples, sets and dictionaries of them. `isLiteral` tells whether a text is one; nothing is computed.
Signs and a sum are allowed only where they write one number: a real part and an imaginary one. What
is put into a set, or stands as a key, must not be a set or a dictionary itself, nor hold one.
-/
import RtlAtlas.Text.Digit
import RtlAtlas.Text.Line
import RtlAtlas.Text.Lower

namespace RtlAtlas.Console.Literal

open RtlAtlas.Text

/-! ## Tokens -/

/-- A token. -/
inductive Token where
  | number (imaginary : Bool)
  /-- A text or, if `bytes`, a row of bytes. -/
  | quoted (bytes : Bool)
  | constant
  /-- The word that writes the empty set when brackets follow. -/
  | setWord
  | openRound
  | closeRound
  | openCurly
  | closeCurly
  | comma
  | colon
  | sign
  deriving DecidableEq, Repr

/-- An ASCII digit. -/
def isDecimal (c : Char) : Bool := '0' ≤ c && c ≤ '9'

def isHex (c : Char) : Bool := isDecimal c || ('a' ≤ c && c ≤ 'f') || ('A' ≤ c && c ≤ 'F')

def isOctal (c : Char) : Bool := '0' ≤ c && c ≤ '7'

def isBinary (c : Char) : Bool := c == '0' || c == '1'

def isWordChar (c : Char) : Bool :=
  isDecimal c || ('a' ≤ c && c ≤ 'z') || ('A' ≤ c && c ≤ 'Z') || c == '_' || 0x80 ≤ c.toNat

/-- The digits in front, between which single underscores may stand, and what follows; nothing if an
underscore has no digit after it. -/
def digits? (isDigit : Char → Bool) : List Char → Option (List Char × List Char)
  | [] => some ([], [])
  | '_' :: c :: cs =>
    if isDigit c then (digits? isDigit cs).map fun (ds, rest) => (c :: ds, rest) else none
  | c :: cs =>
    if isDigit c then (digits? isDigit cs).map fun (ds, rest) => (c :: ds, rest)
    else if c == '_' then none
    else some ([], c :: cs)

/-- The digits in front, the first of which is no underscore. -/
def plainDigits? (cs : List Char) : Option (List Char × List Char) :=
  if cs.head? = some '_' then none else digits? isDecimal cs

/-- The exponent in front; nothing if it has no digits. Also tells whether there is one. -/
def exponent? (cs : List Char) : Option (Bool × List Char) :=
  match cs with
  | e :: rest =>
    if e == 'e' || e == 'E' then
      let digits :=
        match rest with
        | '+' :: r => r
        | '-' :: r => r
        | r => r
      match plainDigits? digits with
      | some (_ :: _, r) => some (true, r)
      | _ => none
    else some (false, cs)
  | [] => some (false, cs)

/-- Whether digits may write a whole number: no zero in front of others, and not too many of them. -/
def isWhole (ds : List Char) : Bool :=
  ds.all (· == '0') || (ds.head? != some '0' && ds.length ≤ digitLimit)

/-- A number is not followed by a letter, a digit or an underscore. -/
def endNumber? (imaginary : Bool) (cs : List Char) : Option (Token × List Char) :=
  match cs with
  | c :: _ => if isWordChar c then none else some (.number imaginary, cs)
  | [] => some (.number imaginary, [])

def decimalNumber? (cs : List Char) : Option (Token × List Char) := do
  let (whole, afterWhole) ← plainDigits? cs
  let (fraction, afterFraction) ←
    match afterWhole with
    | '.' :: rest => (plainDigits? rest).map fun (_, r) => (true, r)
    | rest => some (false, rest)
  let (power, rest) ← exponent? afterFraction
  match rest with
  | c :: r =>
    if c == 'j' || c == 'J' then endNumber? true r
    else if fraction || power || isWhole whole then endNumber? false rest
    else none
  | [] => if fraction || power || isWhole whole then some (.number false, []) else none

/-- A number in a base that is a power of two, after its two letters. -/
def binaryNumber? (isDigit : Char → Bool) (cs : List Char) : Option (Token × List Char) :=
  match digits? isDigit cs with
  | some (_ :: _, rest) => endNumber? false rest
  | _ => none

def number? (cs : List Char) : Option (Token × List Char) :=
  match cs with
  | '0' :: c :: rest =>
    if c == 'x' || c == 'X' then binaryNumber? isHex rest
    else if c == 'o' || c == 'O' then binaryNumber? isOctal rest
    else if c == 'b' || c == 'B' then binaryNumber? isBinary rest
    else decimalNumber? cs
  | _ => decimalNumber? cs

/-! ## Texts -/

/-- What a text of one line holds up to the quote that ends it, and what follows. -/
def shortBody? (quote : Char) : List Char → Option (List Char × List Char)
  | [] => none
  | '\\' :: c :: cs => (shortBody? quote cs).map fun (body, rest) => ('\\' :: c :: body, rest)
  | c :: cs =>
    if c == quote then some ([], cs)
    else if c == '\n' then none
    else (shortBody? quote cs).map fun (body, rest) => (c :: body, rest)

/-- What a text of several lines holds up to the three quotes that end it, and what follows. -/
def longBody? (quote : Char) : List Char → Option (List Char × List Char)
  | [] => none
  | '\\' :: c :: cs => (longBody? quote cs).map fun (body, rest) => ('\\' :: c :: body, rest)
  | c :: cs =>
    if c == quote && [quote, quote].isPrefixOf cs then some ([], cs.drop 2)
    else (longBody? quote cs).map fun (body, rest) => (c :: body, rest)

/-- What stands between quotes, the first of which is at hand. -/
def body? (quote : Char) (cs : List Char) : Option (List Char × List Char) :=
  if [quote, quote].isPrefixOf cs then longBody? quote (cs.drop 2) else shortBody? quote cs

def hexNumber (cs : List Char) : Nat :=
  cs.foldl (fun n c => 16 * n + (if isDecimal c then c.toNat - 48 else c.toNat % 32 + 9)) 0

/-- A character of the name of a character. -/
def isNameChar (c : Char) : Bool :=
  isDecimal c || ('a' ≤ c && c ≤ 'z') || ('A' ≤ c && c ≤ 'Z') || c == ' ' || c == '-'

def afterHex? (count : Nat) (cs : List Char) : Option (List Char) :=
  if cs.length < count || !(cs.take count).all isHex then none
  else if 0x10FFFF < hexNumber (cs.take count) then none
  else some (cs.drop count)

/-- What follows an escape that starts with a letter; bytes know only the escape by two digits. -/
def afterEscape? (bytes : Bool) (letter : Char) (cs : List Char) : Option (List Char) :=
  if letter == 'x' then afterHex? 2 cs
  else if bytes then some cs
  else if letter == 'u' then afterHex? 4 cs
  else if letter == 'U' then afterHex? 8 cs
  else if letter == 'N' then
    match cs with
    | '{' :: rest =>
      match rest.takeWhile isNameChar, rest.dropWhile isNameChar with
      | _ :: _, '}' :: r => some r
      | _, _ => none
    | _ => none
  else some cs

/-- Whether all escapes, at most `fuel` characters, are well formed. -/
def escapesFine (bytes : Bool) : Nat → List Char → Bool
  | 0, _ => true
  | _, [] => true
  | fuel + 1, '\\' :: c :: cs =>
    match afterEscape? bytes c cs with
    | some rest => escapesFine bytes fuel rest
    | none => false
  | fuel + 1, _ :: cs => escapesFine bytes fuel cs

/-- Reads a text whose letters in front, in small letters, are at hand. -/
def quoted? (letters : List Char) (quote : Char) (cs : List Char) :
    Option (Token × List Char) := do
  let bytes := letters.contains 'b'
  let raw := letters.contains 'r'
  if !(["", "r", "u", "b", "br", "rb"].contains (String.ofList letters)) then failure
  let (body, rest) ← body? quote cs
  if bytes && body.any (0x80 ≤ ·.toNat) then failure
  if !raw && !escapesFine bytes body.length body then failure
  return (.quoted bytes, rest)

/-! ## Reading tokens -/

/-- Space between tokens. -/
def isGap (c : Char) : Bool := c == ' ' || c == '\t' || c == Char.ofNat 12

def mark? : Char → Option Token
  | '(' => some .openRound
  | ')' => some .closeRound
  | '{' => some .openCurly
  | '}' => some .closeCurly
  | ',' => some .comma
  | ':' => some .colon
  | '+' => some .sign
  | '-' => some .sign
  | _ => none

def wordToken? (word : String) : Option Token :=
  if word == "True" || word == "False" || word == "None" then some .constant
  else if word == "set" then some .setWord
  else none

def token? (cs : List Char) : Option (Token × List Char) :=
  match cs with
  | [] => none
  | '.' :: '.' :: '.' :: rest => some (.constant, rest)
  | '.' :: c :: rest => if isDecimal c then number? ('.' :: c :: rest) else none
  | c :: rest =>
    if isDecimal c then number? cs
    else if c == '"' || c == '\'' then quoted? [] c rest
    else if isWordChar c then
      let word := cs.takeWhile isWordChar
      match cs.dropWhile isWordChar with
      | q :: after =>
        if q == '"' || q == '\'' then quoted? (lower word) q after
        else (wordToken? (String.ofList word)).map (·, q :: after)
      | [] => (wordToken? (String.ofList word)).map (·, [])
    else (mark? c).map (·, rest)

/-- The number of open brackets after a token. -/
def depthAfter (depth : Nat) : Token → Nat
  | .openRound => depth + 1
  | .openCurly => depth + 1
  | .closeRound => depth - 1
  | .closeCurly => depth - 1
  | _ => depth

def maxDepth : Nat := 200

/-- Where in a text a reader is: before its first token, where a line must not start with space; in
it; or after it, where only comments may follow. -/
inductive Place where
  | before (indented : Bool)
  | within
  | after
  deriving DecidableEq, Repr

/-- The tokens of a text, at most `fuel` characters of it. -/
def tokensFrom? : Nat → Place → Nat → List Char → Option (List Token)
  | 0, _, _, _ => some []
  | _, _, _, [] => some []
  | fuel + 1, place, depth, c :: cs =>
    if c == '\n' then
      let place' :=
        match place with
        | .before _ => .before false
        | .within => if depth = 0 then .after else .within
        | .after => .after
      tokensFrom? fuel place' depth cs
    else if isGap c then
      let place' := if place = .within || place = .after then place
        else .before (c != Char.ofNat 12)
      tokensFrom? fuel place' depth cs
    else if c == '#' then tokensFrom? fuel place depth (cs.dropWhile (· != '\n'))
    else if c == '\\' then
      match place, cs with
      | .after, _ => none
      | _, '\n' :: rest => if rest.isEmpty then none else tokensFrom? fuel place depth rest
      | _, _ => none
    else if place = .before true || place = .after then none
    else
      match token? (c :: cs) with
      | none => none
      | some (t, rest) =>
        if maxDepth < depthAfter depth t then none
        else (tokensFrom? fuel .within (depthAfter depth t) rest).map (t :: ·)

def tokens? (cs : List Char) : Option (List Token) :=
  let cs' := unifyBreaks cs
  tokensFrom? cs'.length (.before false) 0 cs'

/-! ## Values -/

/-- What is known of a value. -/
inductive Kind where
  /-- A number without a sign. -/
  | number (imaginary : Bool)
  /-- A number with a sign. -/
  | signed (imaginary : Bool)
  /-- The word for sets, which is no value yet. -/
  | setWord
  /-- Any other value; `key` tells whether it may be put into a set. -/
  | other (key : Bool)
  deriving DecidableEq, Repr

def Kind.isValue (k : Kind) : Bool := k != .setWord

/-- Whether a value may be put into a set. -/
def Kind.isKey (k : Kind) : Bool := k.isValue && k != .other false

/-- The sum of a real number and an imaginary one. -/
def Kind.add? (left right : Kind) : Option Kind :=
  match left, right with
  | .number false, .number true => some (.other true)
  | .signed false, .number true => some (.other true)
  | _, _ => none

def tupleOf? (kinds : List Kind) : Option Kind :=
  if kinds.all (·.isValue) then some (.other (kinds.all (·.isKey))) else none

/-- Drops the texts in front that continue a text; they must be of its sort. -/
def dropTexts? (bytes : Bool) : List Token → Option (List Token)
  | .quoted b :: ts => if b = bytes then dropTexts? bytes ts else none
  | ts => some ts

/-- The word for sets, which two brackets make the empty set. -/
def afterSetWord : List Token → Option (Kind × List Token)
  | .openRound :: .closeRound :: rest => some (.other false, rest)
  | rest => some (.setWord, rest)

mutual

/-- The value in front, nested at most `fuel` deep, and what follows. -/
def valueFrom? : Nat → List Token → Option (Kind × List Token)
  | 0, _ => none
  | fuel + 1, ts =>
    match signedFrom? fuel ts with
    | some (left, .sign :: rest) =>
      match signedFrom? fuel rest with
      | some (right, after) => (left.add? right).map (·, after)
      | none => none
    | found => found

/-- A value with a sign in front if wanted. -/
def signedFrom? : Nat → List Token → Option (Kind × List Token)
  | 0, _ => none
  | fuel + 1, .sign :: ts =>
    match atomFrom? fuel ts with
    | some (.number imaginary, rest) => some (.signed imaginary, rest)
    | _ => none
  | fuel + 1, ts => atomFrom? fuel ts

/-- A value without a sign. -/
def atomFrom? : Nat → List Token → Option (Kind × List Token)
  | 0, _ => none
  | fuel + 1, t :: ts =>
    match t with
    | .number imaginary => some (.number imaginary, ts)
    | .quoted bytes => (dropTexts? bytes ts).map (.other true, ·)
    | .constant => some (.other true, ts)
    | .setWord => afterSetWord ts
    | .openRound =>
      match ts with
      | .closeRound :: rest => some (.other true, rest)
      | _ =>
        match valueFrom? fuel ts with
        | some (k, .closeRound :: rest) => if k = .setWord then afterSetWord rest else some (k, rest)
        | some (k, .comma :: rest) =>
          match valuesFrom? fuel .closeRound rest with
          | some (ks, rest) => (tupleOf? (k :: ks)).map (·, rest)
          | none => none
        | _ => none
    | .openCurly =>
      match ts with
      | .closeCurly :: rest => some (.other false, rest)
      | _ =>
        match valueFrom? fuel ts with
        | some (k, .colon :: rest) =>
          if k.isKey then (entriesFrom? fuel rest).map (.other false, ·) else none
        | some (k, .comma :: rest) =>
          match valuesFrom? fuel .closeCurly rest with
          | some (ks, rest) => if (k :: ks).all (·.isKey) then some (.other false, rest) else none
          | none => none
        | some (k, .closeCurly :: rest) => if k.isKey then some (.other false, rest) else none
        | _ => none
    | _ => none
  | _ + 1, [] => none

/-- The values up to a closing bracket, where a comma may come last, and what follows. -/
def valuesFrom? : Nat → Token → List Token → Option (List Kind × List Token)
  | 0, _, _ => none
  | _ + 1, _, [] => none
  | fuel + 1, closing, t :: ts =>
    if t = closing then some ([], ts)
    else
      match valueFrom? fuel (t :: ts) with
      | some (k, .comma :: rest) =>
        (valuesFrom? fuel closing rest).map fun (ks, rest) => (k :: ks, rest)
      | some (k, next :: rest) => if next = closing then some ([k], rest) else none
      | _ => none

/-- The rest of a dictionary after a key and its colon. -/
def entriesFrom? : Nat → List Token → Option (List Token)
  | 0, _ => none
  | fuel + 1, ts =>
    match valueFrom? fuel ts with
    | some (v, .closeCurly :: rest) => if v.isValue then some rest else none
    | some (v, .comma :: .closeCurly :: rest) => if v.isValue then some rest else none
    | some (v, .comma :: rest) =>
      match valueFrom? fuel rest with
      | some (k, .colon :: rest) => if v.isValue && k.isKey then entriesFrom? fuel rest else none
      | _ => none
    | _ => none

end

/-- The values of a row with commas between them, of which one may come last. -/
def rowFine : Nat → List Token → Bool
  | 0, _ => false
  | fuel + 1, ts =>
    match valueFrom? (3 * ts.length + 3) ts with
    | some (k, []) => k.isValue
    | some (k, [.comma]) => k.isValue
    | some (k, .comma :: rest) => k.isValue && rowFine fuel rest
    | _ => false

/-- Whether a text is a literal; a tuple needs no brackets around it. -/
def isLiteral (cs : List Char) : Bool :=
  match tokens? cs with
  | some ts => rowFine (ts.length + 1) ts
  | none => false

example : isLiteral "(1, -2.5e3+1j, \"a\" 'b', None)".toList := by decide +kernel
example : isLiteral "(1,".toList = false ∧ isLiteral "x y".toList = false := by decide +kernel

end RtlAtlas.Console.Literal
