/-
Columns of byte offsets. A cut inside a character leaves that character open, which no column counts, and
what stands before the cut is read as if there were no cut. So the column of an offset is one more than the
number of characters that are written in full before it.
-/
import Mathlib.Data.List.Basic
import RtlAtlas.Proofs.Text.Utf8

namespace RtlAtlas.Text

variable {c : Char} {line : List Char} {offset : Nat}

/-! ## Reading on behind a cut -/

/-- What a byte adds to the parts behind an open character, and what it leaves open. -/
def Unfinished.next (u : Unfinished) (b : UInt8) : List (Option Char) × Option Unfinished :=
  if u.low ≤ b && b ≤ u.high then
    match u.take b with
    | .inl c => ([some c], none)
    | .inr u' => ([], some u')
  else (none :: (startByte b).1, (startByte b).2)

/-- What a byte adds to the parts, and what it leaves open. -/
def readByte (state : Option Unfinished) (b : UInt8) : List (Option Char) × Option Unfinished :=
  match state with
  | none => startByte b
  | some u => u.next b

theorem decodeFrom_cons (state : Option Unfinished) (b : UInt8) (bs : List UInt8) :
    decodeFrom state (b :: bs) = (readByte state b).1 ++ decodeFrom (readByte state b).2 bs := by
  cases state with
  | none => rfl
  | some u =>
    rw [decodeFrom, readByte, Unfinished.next]
    split
    · cases u.take b <;> rfl
    · rfl

theorem startByte_progress (b : UInt8) : (startByte b).1 ≠ [] ∨ (startByte b).2 ≠ none := by
  unfold startByte
  split
  · exact .inl (List.cons_ne_nil _ _)
  · cases lead? b with
    | some u => exact .inr (Option.some_ne_none u)
    | none => exact .inl (List.cons_ne_nil _ _)

/-- A byte gives a part or leaves a character open. -/
theorem readByte_progress (state : Option Unfinished) (b : UInt8) :
    (readByte state b).1 ≠ [] ∨ (readByte state b).2 ≠ none := by
  cases state with
  | none => exact startByte_progress b
  | some u =>
    rw [readByte, Unfinished.next]
    split
    · cases u.take b with
      | inl c => exact .inl (List.cons_ne_nil _ _)
      | inr u' => exact .inr (Option.some_ne_none u')
    · exact .inl (List.cons_ne_nil _ _)

/-- The bytes behind a cut are read on from what those before it leave open. -/
theorem decodeFrom_append : ∀ (front : List UInt8) (state : Option Unfinished), ∃ parts left,
    ∀ behind, decodeFrom state (front ++ behind) = parts ++ decodeFrom left behind
  | [], state => ⟨[], state, fun _ => rfl⟩
  | b :: front, state => by
    obtain ⟨parts, left, h⟩ := decodeFrom_append front (readByte state b).2
    refine ⟨(readByte state b).1 ++ parts, left, fun behind => ?_⟩
    rw [List.cons_append, decodeFrom_cons, h, List.append_assoc]

/-- Bytes, and a character that is left open, give some part. -/
theorem decodeFrom_ne_nil : ∀ (bs : List UInt8) (state : Option Unfinished),
    bs ≠ [] ∨ state ≠ none → decodeFrom state bs ≠ []
  | [], none, h => by simp at h
  | [], some u, _ => List.cons_ne_nil _ _
  | b :: bs, state, _ => by
    rw [decodeFrom_cons]
    rcases readByte_progress state b with h | h
    · exact List.append_ne_nil_of_left_ne_nil h _
    · exact List.append_ne_nil_of_right_ne_nil _ (decodeFrom_ne_nil bs _ (.inr h))

/-! ## Cutting a text -/

/-- The bytes of a character that is cut off give no character. -/
theorem filterMap_decodeParts_cut {front behind : List UInt8}
    (hcut : String.utf8EncodeChar c = front ++ behind) (hbehind : behind ≠ []) :
    (decodeParts front).filterMap id = [] := by
  obtain ⟨parts, left, h⟩ := decodeFrom_append front none
  -- the whole gives one part, and the bytes that were cut off give one already
  have hwhole : parts ++ decodeFrom left behind = [some c] := by
    rw [← h, ← hcut, ← List.append_nil (String.utf8EncodeChar c), decodeFrom_encodeChar]
    rfl
  have hrest := decodeFrom_ne_nil behind left (.inl hbehind)
  obtain rfl : parts = [] := by
    rcases List.append_eq_singleton_iff.1 hwhole with ⟨hparts, -⟩ | ⟨-, hnil⟩
    · exact hparts
    · exact absurd hnil hrest
  have hfront := h []
  rw [List.append_nil, List.nil_append] at hfront
  rw [decodeParts, hfront]
  cases left <;> rfl

/-- The number of bytes in front of a character of a text. -/
def bytesBefore (line : List Char) (k : Nat) : Nat := (encode (line.take k)).length

/-- The number of characters of a text whose bytes all stand before an offset. -/
def charsBefore (line : List Char) (offset : Nat) : Nat :=
  (List.range line.length).countP fun k => bytesBefore line (k + 1) ≤ offset

theorem encode_cons (c : Char) (cs : List Char) : encode (c :: cs) = String.utf8EncodeChar c ++ encode cs :=
  rfl

theorem encode_append (cs cs' : List Char) : encode (cs ++ cs') = encode cs ++ encode cs' :=
  List.flatMap_append

theorem bytesBefore_zero (line : List Char) : bytesBefore line 0 = 0 := rfl

theorem bytesBefore_cons_succ (c : Char) (cs : List Char) (k : Nat) :
    bytesBefore (c :: cs) (k + 1) = c.utf8Size + bytesBefore cs k := by
  unfold bytesBefore
  rw [List.take_succ_cons, encode_cons, List.length_append, String.length_utf8EncodeChar]

theorem bytesBefore_length (line : List Char) : bytesBefore line line.length = (encode line).length := by
  rw [bytesBefore, List.take_length]

theorem bytesBefore_le_length (line : List Char) (k : Nat) : bytesBefore line k ≤ (encode line).length := by
  have hsplit := encode_append (line.take k) (line.drop k)
  rw [List.take_append_drop] at hsplit
  rw [bytesBefore, hsplit, List.length_append]
  omega

/-- A first character counts if all its bytes stand before the offset, and if it does not, no other does. -/
theorem charsBefore_cons (c : Char) (cs : List Char) (offset : Nat) : charsBefore (c :: cs) offset =
    if c.utf8Size ≤ offset then charsBefore cs (offset - c.utf8Size) + 1 else 0 := by
  have hlater : ∀ k, bytesBefore (c :: cs) (k + 1 + 1) ≤ offset ↔
      c.utf8Size + bytesBefore cs (k + 1) ≤ offset := by
    intro k
    rw [bytesBefore_cons_succ]
  have hfirst : bytesBefore (c :: cs) (0 + 1) = c.utf8Size := by
    rw [bytesBefore_cons_succ, bytesBefore_zero, Nat.add_zero]
  unfold charsBefore
  rw [List.length_cons, List.range_succ_eq_map, List.countP_cons, List.countP_map, hfirst]
  simp only [Function.comp_def, Nat.succ_eq_add_one, hlater, decide_eq_true_eq]
  split
  · congr 2
    funext k
    simp only [decide_eq_decide]
    omega
  · rw [Nat.add_zero, List.countP_eq_zero]
    intro k _
    simp only [decide_eq_true_eq]
    omega

theorem charsBefore_le_length (line : List Char) (offset : Nat) : charsBefore line offset ≤ line.length :=
  calc charsBefore line offset ≤ (List.range line.length).length := List.countP_le_length
    _ = line.length := List.length_range

theorem charsBefore_mono (line : List Char) {offset' : Nat} (h : offset ≤ offset') :
    charsBefore line offset ≤ charsBefore line offset' := by
  apply List.countP_mono_left
  intro k _ hk
  simp only [decide_eq_true_eq] at hk ⊢
  omega

/-- The bytes before an offset are read as the characters that are written in full before it. -/
theorem filterMap_decodeParts_take : ∀ (line : List Char) (offset : Nat),
    (decodeParts ((encode line).take offset)).filterMap id = line.take (charsBefore line offset)
  | [], offset => by
    rw [show encode [] = [] from rfl, List.take_nil, List.take_nil]
    rfl
  | c :: cs, offset => by
    rw [charsBefore_cons, encode_cons]
    by_cases hle : c.utf8Size ≤ offset
    · rw [if_pos hle, List.take_succ_cons, ← filterMap_decodeParts_take cs, List.take_append,
        String.length_utf8EncodeChar, List.take_of_length_le (by rwa [String.length_utf8EncodeChar]),
        decodeParts, decodeFrom_encodeChar]
      rfl
    · rw [if_neg hle, List.take_zero, List.take_append_of_le_length
        (by rw [String.length_utf8EncodeChar]; omega)]
      refine filterMap_decodeParts_cut (List.take_append_drop offset _).symm fun hnil => hle ?_
      rwa [List.drop_eq_nil_iff, String.length_utf8EncodeChar] at hnil

/-! ## Columns -/

theorem charColumn_natCast (line : List Char) (offset : Nat) :
    charColumn line offset = charsBefore line offset + 1 := by
  unfold charColumn takeTo
  rw [if_pos (Int.natCast_nonneg offset), Int.toNat_natCast, filterMap_decodeParts_take, List.length_take,
    Nat.min_eq_left (charsBefore_le_length line offset)]

/-- An offset below zero counts from the end, and no further than to the start. -/
theorem charColumn_of_neg {offset : Int} (h : offset < 0) (line : List Char) :
    charColumn line offset = charColumn line (max ((encode line).length + offset) 0) := by
  unfold charColumn takeTo
  rw [if_neg (by omega), if_pos (by omega)]
  congr 5
  omega

/-- At the start of a character, or inside of it, just those in front of it are written in full. -/
theorem charsBefore_eq : ∀ {line : List Char} {k offset : Nat}, k < line.length →
    bytesBefore line k ≤ offset → offset < bytesBefore line (k + 1) → charsBefore line offset = k
  | [], _, _, hk, _, _ => absurd hk (Nat.not_lt_zero _)
  | c :: cs, 0, offset, _, _, hlt => by
    rw [bytesBefore_cons_succ, bytesBefore_zero] at hlt
    rw [charsBefore_cons, if_neg (by omega)]
  | c :: cs, k + 1, offset, hk, hle, hlt => by
    rw [bytesBefore_cons_succ] at hle hlt
    rw [charsBefore_cons, if_pos (by omega),
      charsBefore_eq (Nat.lt_of_succ_lt_succ hk) (by omega) (by omega)]

/-- Where a character starts, as many characters are written as stand in front of it. -/
theorem charsBefore_bytesBefore : ∀ {line : List Char} {k : Nat}, k ≤ line.length →
    charsBefore line (bytesBefore line k) = k
  | [], _, hk => by
    obtain rfl := Nat.le_zero.1 hk
    rfl
  | c :: cs, 0, _ => by
    have hsize := c.utf8Size_pos
    rw [charsBefore_cons, bytesBefore_zero, if_neg (by omega)]
  | c :: cs, k + 1, hk => by
    rw [charsBefore_cons, bytesBefore_cons_succ, if_pos (by omega), Nat.add_sub_cancel_left,
      charsBefore_bytesBefore (Nat.le_of_succ_le_succ hk)]

theorem charsBefore_of_length_le (h : (encode line).length ≤ offset) :
    charsBefore line offset = line.length := by
  refine Nat.le_antisymm (charsBefore_le_length line offset) ?_
  rw [← bytesBefore_length] at h
  calc line.length = charsBefore line (bytesBefore line line.length) :=
        (charsBefore_bytesBefore (Nat.le_refl _)).symm
    _ ≤ charsBefore line offset := charsBefore_mono line h

/-- The column of an offset tells how many characters are written in full before it: at the start of a
character or inside of it, those in front of it; past the end, all. An offset below zero counts from the
end. So columns do not decrease along a line, and each of them is the column of some offset. -/
theorem charColumn_counts (line : List Char) :
    (∀ offset : Nat, offset ≤ (encode line).length →
      charColumn line offset = 1 + charsBefore line offset) ∧
    (∀ offset k : Nat, k < line.length → bytesBefore line k ≤ offset →
      offset < bytesBefore line (k + 1) → charColumn line offset = k + 1) ∧
    (∀ offset : Int, (encode line).length < offset → charColumn line offset = line.length + 1) ∧
    (∀ offset : Int, offset < 0 →
      charColumn line offset = charColumn line (max ((encode line).length + offset) 0)) ∧
    (∀ offset offset' : Nat, offset ≤ offset' → offset' ≤ (encode line).length →
      charColumn line offset ≤ charColumn line offset') ∧
    ∀ column, 1 ≤ column → column ≤ line.length + 1 →
      ∃ offset : Nat, offset ≤ (encode line).length ∧ charColumn line offset = column := by
  refine ⟨?_, ?_, ?_, ?_, ?_, ?_⟩
  · intro offset _
    rw [charColumn_natCast, Nat.add_comm]
  · intro offset k hk hle hlt
    rw [charColumn_natCast, charsBefore_eq hk hle hlt]
  · intro offset hlt
    obtain ⟨n, rfl⟩ := Int.eq_ofNat_of_zero_le (by omega : 0 ≤ offset)
    rw [charColumn_natCast, charsBefore_of_length_le (by omega)]
  · intro offset hneg
    exact charColumn_of_neg hneg line
  · intro offset offset' hle _
    rw [charColumn_natCast, charColumn_natCast]
    exact Nat.succ_le_succ (charsBefore_mono line hle)
  · -- the character of a column starts at an offset of that column
    intro column hpos hcolumn
    refine ⟨bytesBefore line (column - 1), bytesBefore_le_length line _, ?_⟩
    rw [charColumn_natCast, charsBefore_bytesBefore (by omega)]
    omega

/-- In a line of characters of one to four bytes, an offset inside the widest one has its column, also when
it is counted from the end. -/
theorem charColumn_counts_mixedWidths :
    charColumn "é漢😀a".toList 8 = 3 ∧ charColumn "é漢😀a".toList (-2) = 3 ∧
      charColumn "é漢😀a".toList 11 = 5 ∧ charColumn "é漢😀a".toList 3 ≤ charColumn "é漢😀a".toList 8 ∧
      ∃ offset : Nat, offset ≤ (encode "é漢😀a".toList).length ∧
        charColumn "é漢😀a".toList offset = 4 := by
  obtain ⟨-, hinside, hpast, hneg, hmono, hhit⟩ := charColumn_counts "é漢😀a".toList
  have hwidest := hinside 8 2 (by decide) (by decide) (by decide)
  refine ⟨hwidest, ?_, hpast 11 (by decide), hmono 3 8 (by decide) (by decide), hhit 4 (by decide) (by decide)⟩
  rw [hneg (-2) (by decide)]
  exact hwidest

end RtlAtlas.Text
