/-
Bytes and characters. `encode` writes a text in UTF-8; `decodeParts` reads any row of bytes, each
part either a character or a malformed piece, where a malformed piece is the longest one that could
still have started a character. Reading strictly wants no malformed piece, reading with a mark puts
U+FFFD in place of each, and a column ignores them.
-/
import RtlAtlas.Slice

namespace RtlAtlas.Text

def encode (cs : List Char) : List UInt8 := cs.flatMap String.utf8EncodeChar

/-- The bytes of a string. -/
def bytesOf (s : String) : List UInt8 := encode s.toList

/-- A character that has started but still owes continuation bytes. -/
structure Unfinished where
  /-- How many bytes are still owed; at least one. -/
  owed : Nat
  /-- The least and the greatest byte that may come next: this rules out overlong forms,
  surrogates and numbers past the last character. -/
  low : UInt8
  high : UInt8
  /-- The code point so far. -/
  value : Nat

/-- What the first byte of a character of several bytes starts. -/
def lead? (b : UInt8) : Option Unfinished :=
  if 0xC2 ≤ b && b ≤ 0xDF then some ⟨1, 0x80, 0xBF, b.toNat % 32⟩
  else if b == 0xE0 then some ⟨2, 0xA0, 0xBF, 0⟩
  else if b == 0xED then some ⟨2, 0x80, 0x9F, 0xD⟩
  else if 0xE1 ≤ b && b ≤ 0xEF then some ⟨2, 0x80, 0xBF, b.toNat % 16⟩
  else if b == 0xF0 then some ⟨3, 0x90, 0xBF, 0⟩
  else if 0xF1 ≤ b && b ≤ 0xF3 then some ⟨3, 0x80, 0xBF, b.toNat % 8⟩
  else if b == 0xF4 then some ⟨3, 0x80, 0x8F, 4⟩
  else none

/-- Takes one more byte: the character when it is complete, else what is still owed. -/
def Unfinished.take (u : Unfinished) (b : UInt8) : Char ⊕ Unfinished :=
  let value := u.value * 64 + b.toNat % 64
  if u.owed ≤ 1 then .inl (Char.ofNat value) else .inr ⟨u.owed - 1, 0x80, 0xBF, value⟩

/-- The parts of a byte that starts anew: a character, a malformed piece, or an open character. -/
def startByte (b : UInt8) : List (Option Char) × Option Unfinished :=
  if b < 0x80 then ([some (Char.ofNat b.toNat)], none)
  else
    match lead? b with
    | some u => ([], some u)
    | none => ([none], none)

/-- The parts that follow an open character, if there is one. -/
def decodeFrom : Option Unfinished → List UInt8 → List (Option Char)
  | none, [] => []
  | some _, [] => [none]
  | none, b :: bs => (startByte b).1 ++ decodeFrom (startByte b).2 bs
  | some u, b :: bs =>
    if u.low ≤ b && b ≤ u.high then
      match u.take b with
      | .inl c => some c :: decodeFrom none bs
      | .inr u' => decodeFrom (some u') bs
    else none :: ((startByte b).1 ++ decodeFrom (startByte b).2 bs)

/-- The characters of a row of bytes, `none` for each malformed piece. -/
def decodeParts (bytes : List UInt8) : List (Option Char) := decodeFrom none bytes

/-- The text that the bytes write, if they are well formed. -/
def decode? (bytes : List UInt8) : Option (List Char) := (decodeParts bytes).mapM id

/-- The text that the bytes write, with U+FFFD for each malformed piece. -/
def decodeMarked (bytes : List UInt8) : List Char :=
  (decodeParts bytes).map (·.getD (Char.ofNat 0xFFFD))

/-- The column, counted from one, of the character at a byte offset of a line. -/
def charColumn (line : List Char) (offset : Int) : Nat :=
  ((decodeParts (takeTo offset (encode line))).filterMap id).length + 1

example : decode? (bytesOf "aé漢😀") = some "aé漢😀".toList := by decide
example : charColumn "é a".toList 1 = 1 ∧ charColumn "é a".toList 2 = 2 := by decide

end RtlAtlas.Text
