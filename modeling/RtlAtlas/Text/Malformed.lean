/-
The first place at which bytes stop being UTF-8, and how it is told: the bytes concerned, by value if
there is one and by position if there are several, and what is wrong with them.
-/
import RtlAtlas.Text.Quoted
import RtlAtlas.Text.Utf8

namespace RtlAtlas.Text

/-- What is wrong with some bytes. -/
inductive ByteFault where
  | badStart
  | badContinuation
  | cutOff
  deriving DecidableEq, Repr

/-- Bytes that are no character. -/
structure Malformed where
  /-- The first of the bytes. -/
  byte : UInt8
  /-- Where they start. -/
  position : Nat
  /-- How many there are. -/
  length : Nat
  fault : ByteFault
  deriving DecidableEq, Repr

/-- The first malformed piece from a position on, after an open character that started with the
given byte at the given position. -/
def malformedFrom : Nat → Option (Nat × UInt8 × Unfinished) → List UInt8 → Option Malformed
  | _, none, [] => none
  | here, some (start, first, _), [] => some ⟨first, start, here - start, .cutOff⟩
  | here, none, b :: bs =>
    if b < 0x80 then malformedFrom (here + 1) none bs
    else
      match lead? b with
      | some u => malformedFrom (here + 1) (some (here, b, u)) bs
      | none => some ⟨b, here, 1, .badStart⟩
  | here, some (start, first, u), b :: bs =>
    if u.low ≤ b && b ≤ u.high then
      match u.take b with
      | .inl _ => malformedFrom (here + 1) none bs
      | .inr u' => malformedFrom (here + 1) (some (start, first, u')) bs
    else some ⟨first, start, here - start, .badContinuation⟩

def malformed? (bytes : List UInt8) : Option Malformed := malformedFrom 0 none bytes

def ByteFault.message : ByteFault → String
  | .badStart => "invalid start byte"
  | .badContinuation => "invalid continuation byte"
  | .cutOff => "unexpected end of data"

/-- Which bytes are malformed and why, in words. -/
def Malformed.message (m : Malformed) : String :=
  let which :=
    if m.length = 1 then
      "byte 0x" ++ String.ofList (hexDigits 2 m.byte.toNat) ++ s!" in position {m.position}"
    else
      let last := m.position + m.length - 1
      s!"bytes in position {m.position}-{last}"
  s!"'utf-8' codec can't decode {which}: {m.fault.message}"

example : (malformed? [0x61, 0xFF]).map (·.message) =
    some "'utf-8' codec can't decode byte 0xff in position 1: invalid start byte" := by
  decide +kernel
example : malformed? (bytesOf "aé漢😀") = none := by decide +kernel

end RtlAtlas.Text
