/-
Marked-up text for a console. A tag stands between square brackets and starts with a small letter or
one of `#`, `/` and `@`; it goes on to the next closing bracket without another opening one. Tags
say how text looks and are dropped from plain output. A tag that starts with a slash closes the
innermost open tag, or the innermost one with the name given; if there is none the text is refused.
A tag that starts with an at sign names something that a click does, with parameters after an equals
sign; they are looked at when it is closed. A backslash before a tag takes its meaning away, and two
of them stand for one.
-/
import RtlAtlas.Console.Layout
import RtlAtlas.Console.Literal
import RtlAtlas.Console.Style
import RtlAtlas.Text.Word

namespace RtlAtlas.Markup

open RtlAtlas.Text

/-- A piece of marked-up text. -/
inductive Piece where
  | text (cs : List Char)
  /-- A tag, by what stands between its brackets. -/
  | tag (cs : List Char)
  deriving DecidableEq, Repr

def startsTag (c : Char) : Bool := ('a' ≤ c && c ≤ 'z') || c == '#' || c == '/' || c == '@'

/-- Splits a text at the first closing bracket, if no opening one comes before it. -/
def toClosing? : List Char → Option (List Char × List Char)
  | [] => none
  | c :: cs =>
    if c == ']' then some ([], cs)
    else if c == '[' then none
    else (toClosing? cs).map fun (inner, rest) => (c :: inner, rest)

/-- The tag at the head of a text, and what follows it. -/
def tag? : List Char → Option (List Char × List Char)
  | '[' :: c :: cs =>
    if startsTag c then (toClosing? cs).map fun (inner, rest) => (c :: inner, rest) else none
  | _ => none

/-- A piece of text, unless it is empty. -/
def textPiece (cs : List Char) : List Piece := if cs.isEmpty then [] else [.text cs]

/-- The pieces of a tag with backslashes in front. -/
def tagPieces (backslashes : Nat) (inner : List Char) : List Piece :=
  textPiece (List.replicate (backslashes / 2) '\\') ++
    if backslashes % 2 = 1 then [.text ('[' :: inner ++ [']'])] else [.tag inner]

/-- The pieces of a text, at most `fuel` characters and tags of it, after some plain text, which is
kept backwards. -/
def piecesFrom : Nat → List Char → List Char → List Piece
  | 0, plain, cs => textPiece (plain.reverse ++ cs)
  | _ + 1, plain, [] => textPiece plain.reverse
  | fuel + 1, plain, c :: cs =>
    let whole := c :: cs
    let backslashes := whole.takeWhile (· == '\\')
    match tag? (whole.drop backslashes.length) with
    | some (inner, rest) =>
      textPiece plain.reverse ++ tagPieces backslashes.length inner ++ piecesFrom fuel [] rest
    | none => piecesFrom fuel (c :: plain) cs

def pieces (cs : List Char) : List Piece := piecesFrom cs.length [] cs

/-! ## Tags -/

/-- Why a marked-up text is refused. -/
inductive Fault where
  /-- A tag is closed that is not open. -/
  | nothingToClose
  /-- The parameters of a tag are no literal. -/
  | badParameters
  /-- A part of a colour is written as a number but is none. -/
  | noNumber (text : String)
  deriving DecidableEq, Repr

/-- A tag that is open. -/
structure OpenTag where
  name : String
  parameters : Option (List Char)
  /-- How much text was shown before it. -/
  start : Nat
  deriving DecidableEq, Repr

/-- The name of a tag without its parameters. -/
def bareName (inner : List Char) : List Char := inner.takeWhile (· != '=')

/-- The parameters of a tag, which an equals sign introduces. -/
def parametersOf (inner : List Char) : Option (List Char) :=
  match inner.dropWhile (· != '=') with
  | [] => none
  | _ :: parameters => some parameters

/-- The name by which a tag is opened and closed. -/
def tagName (cs : List Char) : Except Fault String :=
  match Console.styleName cs with
  | .ok name => .ok name
  | .error (.noNumber text) => .error (.noNumber text)
  | .error .noStyle => .ok (String.ofList cs)

/-- A character of the name of a handler. -/
def isHandlerChar (c : Char) : Bool := isWord c || c == '.'

/-- The literal that the parameters of a tag hold: after the name of a handler it stands between round
brackets, and a name alone comes without one. -/
def parameterLiteral (parameters : List Char) : List Char :=
  let rest := parameters.dropWhile isHandlerChar
  match rest with
  | [] => "()".toList
  | c :: after =>
    if c == '(' && after.getLast? = some ')' && !after.contains '\n' then rest else parameters

/-- Whether the parameters of a tag can be read. -/
def parametersFine (tag : OpenTag) : Bool :=
  match tag.parameters with
  | none => true
  | some [] => true
  | some parameters => Console.Literal.isLiteral (parameterLiteral (trim parameters))

/-- Whether a tag names something that a click does. -/
def OpenTag.isAction (tag : OpenTag) : Bool := tag.name.toList.head? = some '@'

def OpenTag.style (tag : OpenTag) : List Char :=
  match tag.parameters with
  | none => tag.name.toList
  | some parameters => tag.name.toList ++ ' ' :: parameters

/-- A stretch of shown text whose style cannot be read, with what is wrong with it. -/
structure Stretch where
  start : Nat
  stop : Nat
  fault : Fault
  deriving DecidableEq, Repr

/-- What has been read of a marked-up text. -/
structure Reading where
  /-- The text shown, the last character first. -/
  shown : List Char := []
  /-- How much text that is. -/
  length : Nat := 0
  /-- The open tags, the innermost first. -/
  opened : List OpenTag := []
  /-- Stretches that must not be shown. -/
  bad : List Stretch := []

def Reading.show (r : Reading) (cs : List Char) : Reading :=
  { r with shown := cs.reverse ++ r.shown, length := r.length + cs.length }

/-- Gives the text since a tag was opened the style it asks for. -/
def Reading.style (r : Reading) (tag : OpenTag) : Reading :=
  match Console.Style.parse tag.style with
  | .error (.noNumber text) => { r with bad := ⟨tag.start, r.length, .noNumber text⟩ :: r.bad }
  | _ => r

/-- Closes an open tag. -/
def Reading.close (r : Reading) (tag : OpenTag) (rest : List OpenTag) : Except Fault Reading :=
  if tag.isAction then
    if parametersFine tag then .ok { r with opened := rest } else .error .badParameters
  else .ok ({ r with opened := rest }.style tag)

/-- Reads a tag. -/
def Reading.tag (r : Reading) (inner : List Char) : Except Fault Reading :=
  match bareName inner with
  | '/' :: name =>
    if (trim name).isEmpty then
      match r.opened with
      | [] => .error .nothingToClose
      | tag :: rest => r.close tag rest
    else
      match tagName (trim name) with
      | .error fault => .error fault
      | .ok wanted =>
        match r.opened.find? fun tag => tag.name == wanted with
        | none => .error .nothingToClose
        | some tag => r.close tag (r.opened.eraseP fun tag => tag.name == wanted)
  | name =>
    match tagName name with
    | .error fault => .error fault
    | .ok name => .ok { r with opened := ⟨name, parametersOf inner, r.length⟩ :: r.opened }

/-! ## Plain output -/

/-- A control character that a console acts on instead of showing it. -/
def isControl (c : Char) : Bool :=
  c.toNat == 7 || c.toNat == 8 || c.toNat == 11 || c.toNat == 12 || c.toNat == 13

/-- Takes the backslash before an opening bracket away. -/
def dropEscapes : List Char → List Char
  | [] => []
  | '\\' :: '[' :: cs => '[' :: dropEscapes cs
  | c :: cs => c :: dropEscapes cs

/-- Reads a piece; `replace` is applied to each piece of text. -/
def Reading.piece (replace : List Char → List Char) (r : Reading) : Piece → Except Fault Reading
  | .text cs => .ok (r.show ((replace (dropEscapes cs)).filter (!isControl ·)))
  | .tag inner => r.tag inner

/-- Reads a marked-up text. Tags that are still open at its end go on to there. -/
def read (replace : List Char → List Char) (cs : List Char) : Except Fault Reading := do
  let r ← (pieces cs).foldlM (Reading.piece replace) {}
  return r.opened.foldl Reading.style { r with opened := [] }

/-- Whether a stretch is looked at when a text is shown: where the text is taken apart, at line feeds
and tabs and where it is broken, only stretches that hold something are. -/
def Stretch.counts (text : List Char) (s : Stretch) : Bool :=
  let held := (text.take s.stop).drop s.start
  if text.contains '\n' then held.any (· != '\n')
  else if text.contains '\t' || Console.columns < text.length then !held.isEmpty
  else true

/-- What a console without colours shows of a marked-up text. -/
def plain (replace : List Char → List Char) (cs : List Char) : Except Fault (List Char) :=
  match read replace cs with
  | .error fault => .error fault
  | .ok r =>
    let text := r.shown.reverse
    match r.bad.find? (·.counts text) with
    | some stretch => .error stretch.fault
    | none => .ok (Console.layOut text)

example : (plain id "[b]Note:[/b] mem[i] \\[u] [7:0]".toList).toOption =
    some "Note: mem [u] [7:0]".toList := by decide +kernel
example : (plain id "a[/b]".toList).toOption = none := by decide +kernel

end RtlAtlas.Markup
