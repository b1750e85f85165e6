/-
What the SHA digests share: words of 32 bits in big-endian order, rotation, and the padding that
fills a message up to whole blocks of 64 bytes.
-/
namespace RtlAtlas.Digest

def rotl (x : UInt32) (n : UInt32) : UInt32 := (x <<< n) ||| (x >>> (32 - n))

def rotr (x : UInt32) (n : UInt32) : UInt32 := (x >>> n) ||| (x <<< (32 - n))

/-- A number as `count` bytes, the most significant first. -/
def bigEndian (count n : Nat) : List UInt8 :=
  (List.range count).map fun i => UInt8.ofNat (n >>> (8 * (count - 1 - i)))

/-- A message with a one bit, zeros and its length in bits, whole blocks of 64 bytes. -/
def pad (message : List UInt8) : List UInt8 :=
  let zeros := (119 - message.length % 64) % 64
  message ++ 0x80 :: List.replicate zeros 0 ++ bigEndian 8 (8 * message.length)

/-- The words of a row of bytes; bytes that fill no word are left out. -/
def wordsOf : List UInt8 → List UInt32
  | a :: b :: c :: d :: rest =>
    UInt32.ofNat (((a.toNat * 256 + b.toNat) * 256 + c.toNat) * 256 + d.toNat) :: wordsOf rest
  | _ => []

/-- Cuts a list into pieces of sixteen words, at most `fuel` of them. -/
def blocksFrom : Nat → List UInt32 → List (List UInt32)
  | 0, _ => []
  | fuel + 1, ws => if ws.isEmpty then [] else ws.take 16 :: blocksFrom fuel (ws.drop 16)

def blocksOf (message : List UInt8) : List (List UInt32) :=
  let ws := wordsOf (pad message)
  blocksFrom (ws.length / 16) ws

def hexDigit (n : Nat) : Char := Char.ofNat (if n < 10 then 48 + n else 87 + n)

/-- Words as hexadecimal text, eight digits each. -/
def hexText (ws : List UInt32) : String :=
  String.ofList ((ws.flatMap fun w => bigEndian 4 w.toNat).flatMap fun b =>
    [hexDigit (b.toNat / 16), hexDigit (b.toNat % 16)])

end RtlAtlas.Digest
