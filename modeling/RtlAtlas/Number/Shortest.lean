/-
The text of a double: the fewest decimal digits that mean it again, and of those the nearest. A decimal
means a double if it lies in the interval of numbers that round to it, whose ends belong to it if the
mantissa is even. All comparisons are exact: a decimal `c * 10 ^ s` and a binary number `w * 2 ^ k` are
both multiplied until they are whole.
-/
import RtlAtlas.Number.Double

namespace RtlAtlas.Double

/-- The number `c * 10 ^ s`, made whole together with numbers `w * 2 ^ k`. -/
def decimalSide (c : Nat) (s k : Int) : Nat := c * raise 10 s * raise 2 (-k)

/-- The number `w * 2 ^ k`, made whole together with numbers `c * 10 ^ s`. -/
def binarySide (w : Nat) (s k : Int) : Nat := w * raise 2 k * raise 10 (-s)

/-- The number of quarters between a double and the end of its interval below it: the next double is
nearer there if the mantissa is the least full one. -/
def quartersBelow (m : Nat) (e : Int) : Nat := if m = leastFull && leastExponent < e then 1 else 2

/-- The multiple of `10 ^ s` that means a double, if there is one; of two the nearer, or else the even
one. -/
def onGrid? (m : Nat) (e s : Int) : Option Nat :=
  let k := e - 2
  let least := binarySide (4 * m - quartersBelow m e) s k
  let value := binarySide (4 * m) s k
  let greatest := binarySide (4 * m + 2) s k
  let unit := decimalSide 1 s k
  let inside := fun c =>
    if m % 2 = 0 then least ≤ c * unit && c * unit ≤ greatest
    else least < c * unit && c * unit < greatest
  let below := value / unit
  match inside below, inside (below + 1) with
  | true, true => some (divNearest value unit)
  | true, false => some below
  | false, true => some (below + 1)
  | false, false => none

/-- The place of the first decimal digit of a positive double: zero for the ones. -/
def order (m : Nat) (e : Int) : Int :=
  let a := m * raise 2 e
  let b := raise 2 (-e)
  if b ≤ a then ((Nat.toDigits 10 (a / b)).length : Int) - 1
  else -(((List.range 324).find? fun (j : Nat) => b ≤ a * Nat.pow 10 (j + 1)).getD 323 + 1 : Int)

/-- The shortest decimal that means a positive double, as a multiple of a power of ten. Seventeen
digits are always enough. -/
def shortest (m : Nat) (e : Int) : Nat × Int :=
  let first := order m e
  ((List.range 17).findSome? fun (n : Nat) =>
    (onGrid? m e (first - n)).map (·, first - n)).getD (m, 0)

def trimZeros (digits : List Char) : List Char := (digits.reverse.dropWhile (· == '0')).reverse

/-- Digits with a point after the first `whole` of them. -/
def positional (digits : List Char) (whole : Int) : List Char :=
  if whole ≤ 0 then '0' :: '.' :: List.replicate whole.natAbs '0' ++ digits
  else if (digits.length : Int) ≤ whole then
    digits ++ List.replicate (whole.toNat - digits.length) '0' ++ ['.', '0']
  else digits.take whole.toNat ++ '.' :: digits.drop whole.toNat

/-- Digits with a point after the first of them, and an exponent of at least two digits. -/
def scientific (digits : List Char) (exponent : Int) : List Char :=
  let places := (toString exponent.natAbs).toList
  digits.take 1 ++ (if digits.length ≤ 1 then [] else '.' :: digits.drop 1) ++
    'e' :: (if exponent < 0 then '-' else '+') ::
      (List.replicate (2 - places.length) '0' ++ places)

/-- The text of a positive double: positional from `10 ^ -4` up to `10 ^ 16`. -/
def magnitudeText (m : Nat) (e : Int) : List Char :=
  let (c, s) := shortest m e
  let written := Nat.toDigits 10 c
  let whole : Int := (written.length : Int) + s
  let digits := trimZeros written
  if -4 < whole && whole ≤ 16 then positional digits whole else scientific digits (whole - 1)

/-- The text of a double. -/
def text : Double → String
  | .infinite negative => if negative then "-inf" else "inf"
  | .finite negative m e =>
    let magnitude := if m = 0 then "0.0" else String.ofList (magnitudeText m e)
    if negative then "-" ++ magnitude else magnitude

example : (ofDecimal false 15 (-1)).text = "1.5" ∧ (ofDecimal true 1 22).text = "-1e+22" := by
  decide +kernel
example : (ofDecimal false 1 (-7)).text = "1e-07" ∧ (ofDecimal true 0 0).text = "-0.0" := by
  decide +kernel

end RtlAtlas.Double
