/-
Numbers of double precision, the values of written numbers that have a fraction or an exponent. A
written number means the double nearest to it; a tie goes to the even mantissa, and what lies beyond
the greatest double is infinite.
-/
namespace RtlAtlas

/-- A number of double precision. -/
inductive Double where
  /-- The number `mantissa * 2 ^ exponent` with a sign. The mantissa has 53 binary digits, or fewer if
  the exponent is the least one. -/
  | finite (negative : Bool) (mantissa : Nat) (exponent : Int)
  | infinite (negative : Bool)
  deriving DecidableEq, Repr

namespace Double

/-- A power of a base; for a negative exponent it is one. -/
def raise (base : Nat) (exponent : Int) : Nat := Nat.pow base exponent.toNat

def leastExponent : Int := -1074

def greatestExponent : Int := 971

/-- The least number with 53 binary digits. -/
def leastFull : Nat := 4503599627370496

/-- The number of binary digits of a number. -/
def bitLength (n : Nat) : Nat := if n = 0 then 0 else Nat.log2 n + 1

/-- The whole number nearest to a quotient; a half goes to the even neighbour. -/
def divNearest (a b : Nat) : Nat :=
  let below := a / b
  let twice := 2 * (a % b)
  if b < twice || (twice == b && below % 2 == 1) then below + 1 else below

/-- The exponent of the double nearest to a quotient, as long as the mantissa is not rounded up to a
further digit. -/
def exponentFor (a b : Nat) : Int :=
  let guess : Int := (bitLength a : Int) - bitLength b - 53
  let e := if guess < leastExponent then leastExponent else guess
  if 2 * leastFull * b * raise 2 e ≤ a * raise 2 (-e) then e + 1 else e

/-- The double nearest to the quotient of two positive numbers. -/
def ofQuotient (negative : Bool) (a b : Nat) : Double :=
  let e := exponentFor a b
  let m := divNearest (a * raise 2 (-e)) (b * raise 2 e)
  let (m', e') := if m = 2 * leastFull then (leastFull, e + 1) else (m, e)
  if greatestExponent < e' then .infinite negative else .finite negative m' e'

/-- The double nearest to `digits * 10 ^ exponent`. Numbers far outside of the range of doubles are
told by their sizes alone. -/
def ofDecimal (negative : Bool) (digits : Nat) (exponent : Int) : Double :=
  let size : Int := bitLength digits
  if digits = 0 then .finite negative 0 leastExponent
  else if 1030 < size + 3 * exponent && 0 ≤ exponent then .infinite negative
  else if size + 3 * exponent < -1080 && exponent < 0 then .finite negative 0 leastExponent
  else ofQuotient negative (digits * raise 10 exponent) (raise 10 (-exponent))

/-- Whether a number is zero, of either sign. -/
def isZero : Double → Bool
  | .finite _ m _ => m == 0
  | .infinite _ => false

/-- The least whole number that is not below a finite double. -/
def ceiling (negative : Bool) (mantissa : Nat) (exponent : Int) : Int :=
  let signed : Int := if negative then -mantissa else mantissa
  Int.neg (Int.fdiv (-(signed * raise 2 exponent)) (raise 2 (-exponent)))

example : ofDecimal false 15 (-1) = .finite false 6755399441055744 (-52) := by decide +kernel
example : ofDecimal true 1 400 = .infinite true ∧ ofDecimal true 0 7 = .finite true 0 (-1074) := by
  decide +kernel
example : ceiling true 3 (-1) = -1 ∧ ceiling false 3 (-1) = 2 := by decide +kernel

end Double

end RtlAtlas
