/-
Comments of a source text. `stripComments` blanks them out: every character of a comment becomes a
space, line feeds excepted, so that offsets and line numbers stay those of the text. String literals
are passed over, because the marks of a comment mean nothing inside them.
-/
namespace RtlAtlas.Source

/-- What the reader is inside of. -/
inductive Mode where
  | code
  /-- A string literal, up to its closing quote or the end of the line. -/
  | literal
  /-- A comment up to the end of the line. -/
  | lineComment
  /-- A comment up to its closing mark. -/
  | blockComment
  deriving DecidableEq, Repr

/-- A character of a comment, blanked. -/
def blanked (c : Char) : Char := if c == '\n' then '\n' else ' '

/-- Blanks the comments of what follows, when the reader is inside of `mode`. -/
def stripFrom : Mode → List Char → List Char
  | _, [] => []
  | .code, '/' :: '/' :: cs => ' ' :: ' ' :: stripFrom .lineComment cs
  | .code, '/' :: '*' :: cs => ' ' :: ' ' :: stripFrom .blockComment cs
  | .code, c :: cs => c :: stripFrom (if c == '"' then .literal else .code) cs
  | .literal, '\\' :: c :: cs => '\\' :: c :: stripFrom .literal cs
  | .literal, c :: cs => c :: stripFrom (if c == '"' || c == '\n' then .code else .literal) cs
  | .lineComment, c :: cs => blanked c :: stripFrom (if c == '\n' then .code else .lineComment) cs
  | .blockComment, '*' :: '/' :: cs => ' ' :: ' ' :: stripFrom .code cs
  | .blockComment, c :: cs => blanked c :: stripFrom .blockComment cs

/-- The text with its comments blanked out. -/
def stripComments (text : List Char) : List Char := stripFrom .code text

@[simp] theorem length_stripFrom (mode : Mode) (text : List Char) :
    (stripFrom mode text).length = text.length := by
  fun_induction stripFrom mode text <;> simp_all

example : stripComments "a // b\nc /* d */ e \"//\"".toList =
    "a     \nc         e \"//\"".toList := by decide

end RtlAtlas.Source
