/-
Whole numbers as the values of options. White space around the number, a plus sign in front, zeros in
front, single underscores between digits and a fraction of zeros only are allowed; the digits are
those of ASCII, and there is a limit to their number.
-/
import RtlAtlas.Text.Blank
import RtlAtlas.Text.Digit

namespace RtlAtlas.Command.Integer

open RtlAtlas.Text

/-- White space around a number: all but the four separators U+001C to U+001F. -/
def isMargin (c : Char) : Bool := isBlank c && !(0x1C ≤ c.toNat && c.toNat ≤ 0x1F)

/-- Drops the white space at both ends. -/
def trimMargins (cs : List Char) : List Char :=
  ((cs.dropWhile isMargin).reverse.dropWhile isMargin).reverse

/-- Drops a fraction that holds zeros only, at least one. -/
def dropFraction (cs : List Char) : List Char :=
  match cs.dropWhile (· != '.') with
  | '.' :: '0' :: zeros => if zeros.all (· == '0') then cs.takeWhile (· != '.') else cs
  | _ => cs

def isAsciiDigit (c : Char) : Bool := '0' ≤ c && c ≤ '9'

/-- Drops zeros in front, with underscores between them, if digits follow; of zeros only the last
character stays. -/
def dropZeros (cs : List Char) : List Char :=
  match cs with
  | '0' :: _ =>
    match cs.dropWhile fun c => c == '0' || c == '_' with
    | [] => cs.drop (cs.length - 1)
    | c :: rest => if isAsciiDigit c then c :: rest else cs
  | _ => cs

/-- Takes single underscores out that stand between other characters. -/
def joinDigits : List Char → List Char
  | c :: '_' :: d :: cs => if c != '_' && d != '_' then c :: joinDigits (d :: cs) else c :: '_' :: d :: cs
  | c :: cs => c :: joinDigits cs
  | [] => []

/-- The number that ASCII digits write, without a zero in front of others. -/
def natural? (cs : List Char) : Option Nat :=
  match cs with
  | [] => none
  | ['0'] => some 0
  | c :: _ =>
    if c != '0' && cs.all isAsciiDigit && cs.length ≤ digitLimit then some (decimal cs)
    else none

/-- The number that digits write, with a minus sign in front if wanted. -/
def signed? : List Char → Option Int
  | '-' :: cs => (natural? cs).map fun n => -(n : Int)
  | cs => (natural? cs).map fun n => (n : Int)

/-- The number that is written without white space around it and without a plus sign. -/
def bare? (cs : List Char) : Option Int := signed? (joinDigits (dropZeros (dropFraction cs)))

/-- The whole number that the value of an option writes; two signs write none. -/
def parse? (cs : List Char) : Option Int :=
  match trimMargins cs with
  | '+' :: '-' :: _ => none
  | '+' :: rest => bare? rest
  | rest => bare? rest

example : parse? " +1_000.00 ".toList = some 1000 ∧ parse? "-2.0".toList = some (-2) := by
  decide +kernel
example : parse? "1.".toList = none ∧ parse? "1__0".toList = none := by decide +kernel

end RtlAtlas.Command.Integer
