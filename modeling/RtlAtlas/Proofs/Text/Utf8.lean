/-
Decoding undoes encoding: the bytes that write a text are well formed, and no other text is written
by them. A character is followed byte by byte, the first byte saying how many are owed and which may
come next.
-/
import Mathlib.Tactic.Common
import RtlAtlas.Text.Utf8

namespace RtlAtlas.Text

/-! ## One byte at a time -/

theorem decodeFrom_ascii {b : UInt8} (h : b.toNat < 0x80) (bs : List UInt8) :
    decodeFrom none (b :: bs) = some (Char.ofNat b.toNat) :: decodeFrom none bs := by
  rw [decodeFrom, startByte, if_pos (UInt8.lt_iff_toNat_lt.2 h)]
  rfl

theorem decodeFrom_lead {b : UInt8} {u : Unfinished} (hb : 0x80 ≤ b.toNat) (h : lead? b = some u)
    (bs : List UInt8) : decodeFrom none (b :: bs) = decodeFrom (some u) bs := by
  have hlt : ¬b < 0x80 := fun hlt => by
    have : b.toNat < 0x80 := UInt8.lt_iff_toNat_lt.1 hlt
    omega
  rw [decodeFrom, startByte, if_neg hlt, h]
  rfl

theorem toNat_ofNat {n : Nat} (h : n < 256) : (UInt8.ofNat n).toNat = n := by
  simp [UInt8.toNat_ofNat', Nat.mod_eq_of_lt h]

/-- The continuation byte that holds the last six bits of a number. -/
def tail (n : Nat) : UInt8 := UInt8.ofNat (n % 64 + 128)

theorem toNat_tail (n : Nat) : (tail n).toNat = n % 64 + 128 := toNat_ofNat (by omega)

/-- A byte within its bounds goes on with an open character. -/
theorem decodeFrom_tail {u : Unfinished} {n : Nat} (hlow : u.low.toNat ≤ n % 64 + 128)
    (hhigh : n % 64 + 128 ≤ u.high.toNat) (bs : List UInt8) :
    decodeFrom (some u) (tail n :: bs) =
      if u.owed ≤ 1 then some (Char.ofNat (u.value * 64 + n % 64)) :: decodeFrom none bs
      else decodeFrom (some ⟨u.owed - 1, 0x80, 0xBF, u.value * 64 + n % 64⟩) bs := by
  have hb : (decide (u.low ≤ tail n) && decide (tail n ≤ u.high)) = true := by
    simp [UInt8.le_iff_toNat_le, toNat_tail, hlow, hhigh]
  rw [decodeFrom, if_pos hb, Unfinished.take, toNat_tail, show (n % 64 + 128) % 64 = n % 64 by omega]
  by_cases ho : u.owed ≤ 1
  · rw [if_pos ho, if_pos ho]
  · rw [if_neg ho, if_neg ho]

theorem decodeFrom_last (value n : Nat) (bs : List UInt8) :
    decodeFrom (some ⟨1, 0x80, 0xBF, value⟩) (tail n :: bs) =
      some (Char.ofNat (value * 64 + n % 64)) :: decodeFrom none bs := by
  have hlow : 128 ≤ n % 64 + 128 := by omega
  have hhigh : n % 64 + 128 ≤ 191 := by omega
  rw [decodeFrom_tail hlow hhigh]
  rfl

theorem decodeFrom_next {owed value n : Nat} {low high : UInt8} (ho : 1 < owed)
    (hlow : low.toNat ≤ n % 64 + 128) (hhigh : n % 64 + 128 ≤ high.toNat) (bs : List UInt8) :
    decodeFrom (some ⟨owed, low, high, value⟩) (tail n :: bs) =
      decodeFrom (some ⟨owed - 1, 0x80, 0xBF, value * 64 + n % 64⟩) bs := by
  rw [decodeFrom_tail hlow hhigh, if_neg (by simpa using ho)]

/-! ## First bytes -/

/-- What a first byte starts, by its number. -/
theorem lead?_eq (b : UInt8) : lead? b =
    if 0xC2 ≤ b.toNat ∧ b.toNat ≤ 0xDF then some ⟨1, 0x80, 0xBF, b.toNat % 32⟩
    else if b.toNat = 0xE0 then some ⟨2, 0xA0, 0xBF, 0⟩
    else if b.toNat = 0xED then some ⟨2, 0x80, 0x9F, 0xD⟩
    else if 0xE1 ≤ b.toNat ∧ b.toNat ≤ 0xEF then some ⟨2, 0x80, 0xBF, b.toNat % 16⟩
    else if b.toNat = 0xF0 then some ⟨3, 0x90, 0xBF, 0⟩
    else if 0xF1 ≤ b.toNat ∧ b.toNat ≤ 0xF3 then some ⟨3, 0x80, 0xBF, b.toNat % 8⟩
    else if b.toNat = 0xF4 then some ⟨3, 0x80, 0x8F, 4⟩
    else none := by
  unfold lead?
  simp only [UInt8.le_iff_toNat_le, ← UInt8.toNat_inj, beq_iff_eq, Bool.and_eq_true, decide_eq_true_eq]
  rfl

/-! ## One character -/

theorem valid_toNat (c : Char) : c.toNat < 0xD800 ∨ 0xDFFF < c.toNat ∧ c.toNat < 0x110000 := c.valid

/-- Two continuation bytes end a character of three bytes. -/
theorem decodeFrom_two {value m n : Nat} {low high : UInt8} (hlow : low.toNat ≤ m % 64 + 128)
    (hhigh : m % 64 + 128 ≤ high.toNat) (bs : List UInt8) :
    decodeFrom (some ⟨2, low, high, value⟩) (tail m :: tail n :: bs) =
      some (Char.ofNat ((value * 64 + m % 64) * 64 + n % 64)) :: decodeFrom none bs := by
  rw [decodeFrom_next (by omega) hlow hhigh, decodeFrom_last]

/-- Three continuation bytes end a character of four bytes. -/
theorem decodeFrom_three {value l m n : Nat} {low high : UInt8} (hlow : low.toNat ≤ l % 64 + 128)
    (hhigh : l % 64 + 128 ≤ high.toNat) (bs : List UInt8) :
    decodeFrom (some ⟨3, low, high, value⟩) (tail l :: tail m :: tail n :: bs) =
      some (Char.ofNat (((value * 64 + l % 64) * 64 + m % 64) * 64 + n % 64)) :: decodeFrom none bs := by
  have hm : 128 ≤ m % 64 + 128 ∧ m % 64 + 128 ≤ 191 := by omega
  rw [decodeFrom_next (by omega) hlow hhigh, decodeFrom_two hm.1 hm.2]

theorem encodeChar_eq (c : Char) : String.utf8EncodeChar c =
    if c.toNat ≤ 0x7F then [UInt8.ofNat c.toNat]
    else if c.toNat ≤ 0x7FF then [UInt8.ofNat (c.toNat / 64 % 32 + 192), tail c.toNat]
    else if c.toNat ≤ 0xFFFF then
      [UInt8.ofNat (c.toNat / 4096 % 16 + 224), tail (c.toNat / 64), tail c.toNat]
    else [UInt8.ofNat (c.toNat / 262144 % 8 + 240), tail (c.toNat / 4096), tail (c.toNat / 64),
      tail c.toNat] := rfl

/-- The bytes of a character are read back as that character. -/
theorem decodeFrom_encodeChar (c : Char) (bs : List UInt8) :
    decodeFrom none (String.utf8EncodeChar c ++ bs) = some c :: decodeFrom none bs := by
  have hc : Char.ofNat c.toNat = c := Char.ofNat_toNat c
  have hv := valid_toNat c
  rw [encodeChar_eq]
  generalize c.toNat = v at hc hv
  -- the bound on the second byte is tighter where the first byte could start an overlong form, a
  -- surrogate or a number past the last character, none of which `v` is
  split
  · have hb : (UInt8.ofNat v).toNat = v := toNat_ofNat (by omega)
    rw [List.singleton_append, decodeFrom_ascii (by omega), hb, hc]
  · split
    · have hb : (UInt8.ofNat (v / 64 % 32 + 192)).toNat = v / 64 % 32 + 192 := toNat_ofNat (by omega)
      have hl := lead?_eq (UInt8.ofNat (v / 64 % 32 + 192))
      rw [hb, if_pos (by omega)] at hl
      rw [List.cons_append, List.singleton_append, decodeFrom_lead (by omega) hl, decodeFrom_last,
        show (v / 64 % 32 + 192) % 32 * 64 + v % 64 = v by omega, hc]
    · split
      · have hb : (UInt8.ofNat (v / 4096 % 16 + 224)).toNat = v / 4096 % 16 + 224 :=
          toNat_ofNat (by omega)
        have hl := lead?_eq (UInt8.ofNat (v / 4096 % 16 + 224))
        rw [hb, if_neg (by omega)] at hl
        simp only [List.cons_append, List.nil_append]
        split at hl
        · have hlow : 160 ≤ v / 64 % 64 + 128 := by omega
          have hhigh : v / 64 % 64 + 128 ≤ 191 := by omega
          rw [decodeFrom_lead (by omega) hl, decodeFrom_two hlow hhigh,
            show (0 * 64 + v / 64 % 64) * 64 + v % 64 = v by omega, hc]
        · have hlow : 128 ≤ v / 64 % 64 + 128 := by omega
          split at hl
          · have hhigh : v / 64 % 64 + 128 ≤ 159 := by omega
            rw [decodeFrom_lead (by omega) hl, decodeFrom_two hlow hhigh,
              show (13 * 64 + v / 64 % 64) * 64 + v % 64 = v by omega, hc]
          · have hhigh : v / 64 % 64 + 128 ≤ 191 := by omega
            rw [if_pos (by omega)] at hl
            rw [decodeFrom_lead (by omega) hl, decodeFrom_two hlow hhigh,
              show ((v / 4096 % 16 + 224) % 16 * 64 + v / 64 % 64) * 64 + v % 64 = v by omega, hc]
      · have hb : (UInt8.ofNat (v / 262144 % 8 + 240)).toNat = v / 262144 % 8 + 240 :=
          toNat_ofNat (by omega)
        have hl := lead?_eq (UInt8.ofNat (v / 262144 % 8 + 240))
        rw [hb, if_neg (by omega), if_neg (by omega), if_neg (by omega), if_neg (by omega)] at hl
        simp only [List.cons_append, List.nil_append]
        split at hl
        · have hlow : 144 ≤ v / 4096 % 64 + 128 := by omega
          have hhigh : v / 4096 % 64 + 128 ≤ 191 := by omega
          rw [decodeFrom_lead (by omega) hl, decodeFrom_three hlow hhigh,
            show ((0 * 64 + v / 4096 % 64) * 64 + v / 64 % 64) * 64 + v % 64 = v by omega, hc]
        · have hlow : 128 ≤ v / 4096 % 64 + 128 := by omega
          split at hl
          · have hhigh : v / 4096 % 64 + 128 ≤ 191 := by omega
            rw [decodeFrom_lead (by omega) hl, decodeFrom_three hlow hhigh,
              show (((v / 262144 % 8 + 240) % 8 * 64 + v / 4096 % 64) * 64 + v / 64 % 64) * 64 +
                v % 64 = v by omega, hc]
          · have hhigh : v / 4096 % 64 + 128 ≤ 143 := by omega
            rw [if_pos (by omega)] at hl
            rw [decodeFrom_lead (by omega) hl, decodeFrom_three hlow hhigh,
              show ((4 * 64 + v / 4096 % 64) * 64 + v / 64 % 64) * 64 + v % 64 = v by omega, hc]

/-! ## Texts -/

theorem decodeParts_encode : ∀ cs : List Char, decodeParts (encode cs) = cs.map some
  | [] => rfl
  | c :: cs => by
    show decodeFrom none (String.utf8EncodeChar c ++ encode cs) = _
    rw [decodeFrom_encodeChar, List.map_cons]
    exact congrArg _ (decodeParts_encode cs)

/-- Decoding undoes encoding. -/
theorem decode?_encode (cs : List Char) : decode? (encode cs) = some cs := by
  unfold decode?
  rw [decodeParts_encode, List.mapM_map]
  exact (List.mapM_pure (m := Option) (f := id)).trans (by rw [List.map_id]; rfl)

/-- In the bytes of a text nothing is marked as malformed. -/
theorem decodeMarked_encode (cs : List Char) : decodeMarked (encode cs) = cs := by
  rw [decodeMarked, decodeParts_encode, List.map_map]
  exact List.map_id cs

end RtlAtlas.Text
