/-
Surrogates: the code points that UTF-16 takes in pairs for one character. Alone they are no
characters and have no UTF-8 form, so a text that may hold some is a list of code points.
-/
import RtlAtlas.Text.Quoted

namespace RtlAtlas.Text

def isSurrogate (code : Nat) : Bool := 0xD800 ≤ code && code < 0xE000

/-- Whether a surrogate stands for a single byte where the names of files are concerned. -/
def isByteMark (code : Nat) : Bool := 0xDC80 ≤ code && code < 0xDD00

/-- The text that code points write, if none of them is a surrogate. -/
def ofCodes? (codes : List Nat) : Option String :=
  if codes.any isSurrogate then none else some (String.ofList (codes.map Char.ofNat))

/-- A run of code points that have no UTF-8 form, from `start` up to `stop`. -/
structure Unencodable where
  /-- The first of them. -/
  code : Nat
  start : Nat
  stop : Nat
  deriving DecidableEq, Repr

/-- What has no UTF-8 form among code points: the surrogates from the first one on that is not
`spared`. -/
def unencodable? (spared : Nat → Bool) (codes : List Nat) : Option Unencodable :=
  match codes.dropWhile fun c => !isSurrogate c || spared c with
  | [] => none
  | code :: rest =>
    let start := codes.length - rest.length - 1
    some ⟨code, start, start + 1 + (rest.takeWhile isSurrogate).length⟩

/-- What is said of code points that have no UTF-8 form. -/
def Unencodable.message (u : Unencodable) : String :=
  let which :=
    if u.stop = u.start + 1 then
      let digits := String.ofList (hexDigits 4 u.code)
      s!"character '\\u" ++ s!"{digits}' in position {u.start}"
    else s!"characters in position {u.start}-{u.stop - 1}"
  s!"'utf-8' codec can't encode {which}: surrogates not allowed"

example : unencodable? isByteMark [0x61, 0xDC80, 0xD800, 0xDC80, 0x62] = some ⟨0xD800, 2, 4⟩ := by
  decide

end RtlAtlas.Text
