/-
The SHA-1 digest of a row of bytes, as hexadecimal text.
-/
import RtlAtlas.Digest.Word

namespace RtlAtlas.Digest

/-- The five chaining words. -/
structure Sha1State where
  a : UInt32
  b : UInt32
  c : UInt32
  d : UInt32
  e : UInt32

def Sha1State.start : Sha1State := ⟨0x67452301, 0xEFCDAB89, 0x98BADCFE, 0x10325476, 0xC3D2E1F0⟩

/-- Adds words to the schedule, which is held backwards. -/
def sha1Extend : Nat → List UInt32 → List UInt32
  | 0, ws => ws
  | n + 1, ws =>
    let at' := fun i => ws.getD i 0
    sha1Extend n (rotl (at' 2 ^^^ at' 7 ^^^ at' 13 ^^^ at' 15) 1 :: ws)

/-- One round with its number and its schedule word. -/
def sha1Round (s : Sha1State) (round : Nat) (w : UInt32) : Sha1State :=
  let (f, k) :=
    if round < 20 then ((s.b &&& s.c) ||| (~~~s.b &&& s.d), (0x5A827999 : UInt32))
    else if round < 40 then (s.b ^^^ s.c ^^^ s.d, 0x6ED9EBA1)
    else if round < 60 then ((s.b &&& s.c) ||| (s.b &&& s.d) ||| (s.c &&& s.d), 0x8F1BBCDC)
    else (s.b ^^^ s.c ^^^ s.d, 0xCA62C1D6)
  ⟨rotl s.a 5 + f + s.e + k + w, s.a, rotl s.b 30, s.c, s.d⟩

def sha1Block (s : Sha1State) (block : List UInt32) : Sha1State :=
  let schedule := (sha1Extend 64 block.reverse).reverse
  let t := schedule.zipIdx.foldl (fun t (w, i) => sha1Round t i w) s
  ⟨s.a + t.a, s.b + t.b, s.c + t.c, s.d + t.d, s.e + t.e⟩

/-- The SHA-1 digest as forty hexadecimal digits. -/
def sha1Hex (message : List UInt8) : String :=
  let s := (blocksOf message).foldl sha1Block .start
  hexText [s.a, s.b, s.c, s.d, s.e]

end RtlAtlas.Digest
