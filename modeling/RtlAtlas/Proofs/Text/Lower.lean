/-
Finding and lower-casing. A text occurs in another when it is an infix of it. The capital sigma is
the one letter whose small form depends on its neighbours: everywhere else lower-casing goes letter by
letter, so a text without it keeps its place when the line around it is lower-cased.
-/
import RtlAtlas.Text.Find
import RtlAtlas.Text.Lower
import RtlAtlas.Text.Word
import Mathlib.Data.List.Basic
import Mathlib.Tactic.SplitIfs

namespace RtlAtlas.Text

/-! ## Occurrence -/

theorem occurs_iff {needle cs : List Char} : occurs needle cs = true ↔ needle <:+: cs := by
  unfold occurs
  induction cs with
  | nil => cases needle <;> simp [find?]
  | cons c cs ih =>
    rw [List.infix_cons_iff, ← ih, find?, ← List.isPrefixOf_iff_prefix]
    cases needle.isPrefixOf (c :: cs) <;> simp

/-! ## Lower-casing -/

/-- The capital sigma. -/
def sigma : Char := Char.ofNat 0x3A3

/-- The small letters of a character whose neighbours do not matter. -/
def smallOf (c : Char) : List Char := if c.toNat = 0x130 then ['i', Char.ofNat 0x307] else [lowerChar c]

/-- A text without a capital sigma is lower-cased letter by letter, whatever stands around it. -/
theorem lowerFrom_append (rest : List Char) : ∀ {cs : List Char} (before : List Char), sigma ∉ cs →
    lowerFrom before (cs ++ rest) = cs.flatMap smallOf ++ lowerFrom (cs.reverse ++ before) rest
  | [], _, _ => rfl
  | c :: cs, before, h => by
    rw [List.mem_cons, not_or] at h
    have hc : c.toNat ≠ 0x3A3 := fun e => h.1 (by rw [sigma, ← e, Char.ofNat_toNat])
    have hsmall : (if c.toNat < 0x80 then [lowerChar c]
        else if c.toNat == 0x130 then ['i', Char.ofNat 0x307]
        else if c.toNat == 0x3A3 then
          [Char.ofNat (if leadsCased before && !leadsCased (cs ++ rest) then 0x3C2 else 0x3C3)]
        else [lowerChar c]) = smallOf c := by
      unfold smallOf
      split_ifs <;> simp_all
    rw [List.cons_append, lowerFrom, hsmall, lowerFrom_append rest _ h.2, List.flatMap_cons,
      List.append_assoc, List.reverse_cons, List.append_assoc, List.singleton_append]

theorem lower_of_notMem {cs : List Char} (h : sigma ∉ cs) : lower cs = cs.flatMap smallOf := by
  have := lowerFrom_append [] [] h
  rwa [List.append_nil, lowerFrom, List.append_nil] at this

/-- What is lower-cased in front of a text. -/
theorem exists_lowerFrom_append (rest : List Char) : ∀ (cs before : List Char),
    ∃ front, lowerFrom before (cs ++ rest) = front ++ lowerFrom (cs.reverse ++ before) rest
  | [], _ => ⟨[], rfl⟩
  | c :: cs, before => by
    obtain ⟨front, h⟩ := exists_lowerFrom_append rest cs (c :: before)
    rw [List.cons_append, lowerFrom, h, List.reverse_cons, List.append_assoc, List.singleton_append]
    exact ⟨_, (List.append_assoc ..).symm⟩

/-- A text without a capital sigma is found, lower-cased, where it stands in a line. -/
theorem lower_infix {cs line : List Char} (hs : sigma ∉ cs) (h : cs <:+: line) :
    lower cs <:+: lower line := by
  obtain ⟨before, after, rfl⟩ := h
  obtain ⟨front, hfront⟩ := exists_lowerFrom_append (cs ++ after) before []
  rw [lower_of_notMem hs, lower, List.append_assoc, hfront, lowerFrom_append _ _ hs]
  exact ⟨front, _, List.append_assoc ..⟩

/-! ## The capital sigma -/

theorem leadsCased_cons (c : Char) (cs : List Char) : leadsCased (c :: cs) =
    if inRanges caseIgnorableRanges c.toNat then leadsCased cs else inRanges casedRanges c.toNat := by
  unfold leadsCased
  by_cases hc : inRanges caseIgnorableRanges c.toNat <;> simp [hc]

/-- What follows a character that is not ignored does not matter. -/
theorem leadsCased_append_of_mem {c : Char} (hc : inRanges caseIgnorableRanges c.toNat = false)
    (ds : List Char) : ∀ {cs : List Char}, c ∈ cs → leadsCased (cs ++ ds) = leadsCased cs
  | d :: cs, h => by
    rw [List.cons_append, leadsCased_cons, leadsCased_cons]
    rcases List.mem_cons.1 h with rfl | h
    · simp [hc]
    · rw [leadsCased_append_of_mem hc ds h]

theorem leadsCased_append_of_false {ds : List Char} (h : leadsCased ds = false) :
    ∀ cs : List Char, leadsCased (cs ++ ds) = leadsCased cs
  | [] => h
  | c :: cs => by
    rw [List.cons_append, leadsCased_cons, leadsCased_cons, leadsCased_append_of_false h cs]

/-- A text is lower-cased as it is alone where what stands in front of it leads on alike and what
follows it does not lead to a cased character. -/
theorem lowerFrom_append_of_alike {rest : List Char} (hrest : leadsCased rest = false) :
    ∀ {cs alone before : List Char},
      (∀ front, leadsCased (front ++ alone) = leadsCased (front ++ before)) →
      lowerFrom before (cs ++ rest) = lowerFrom alone cs ++ lowerFrom (cs.reverse ++ before) rest
  | [], _, _, _ => rfl
  | c :: cs, alone, before, h => by
    -- what leads on alike still does with one more character behind it
    have hnext : ∀ front, leadsCased (front ++ c :: alone) = leadsCased (front ++ c :: before) :=
      fun front => by simpa using h (front ++ [c])
    have hhere : leadsCased alone = leadsCased before := h []
    rw [List.cons_append, lowerFrom, lowerFrom, leadsCased_append_of_false hrest,
      lowerFrom_append_of_alike hrest hnext, hhere, List.reverse_cons]
    simp only [List.append_assoc, List.singleton_append]

theorem ascii_of_isIdentStart {c : Char} (h : isIdentStart c = true) : c.toNat < 0x80 := by
  simp only [isIdentStart, isLetter, Bool.or_eq_true, Bool.and_eq_true, decide_eq_true_eq,
    beq_iff_eq] at h
  rcases h with (⟨-, h⟩ | ⟨-, h⟩) | rfl
  · exact Nat.lt_of_le_of_lt (Char.le_def.1 h) (by decide)
  · exact Nat.lt_of_le_of_lt (Char.le_def.1 h) (by decide)
  · decide

theorem not_ignorable_of_isIdentStart {c : Char} (h : isIdentStart c = true) :
    inRanges caseIgnorableRanges c.toNat = false := by
  have table : ∀ n < 0x80, isIdentStart (Char.ofNat n) = true →
      inRanges caseIgnorableRanges n = false := by decide +kernel
  exact table c.toNat (ascii_of_isIdentStart h) (by rwa [Char.ofNat_toNat])

/-- An identifier is found, lower-cased, where it stands in a line, unless it holds a capital sigma
and what follows it leads to a cased character. -/
theorem lower_infix_of_isIdentStart {c : Char} (hc : isIdentStart c = true) {cs before after : List Char}
    (hafter : sigma ∈ c :: cs → leadsCased after = false) :
    lower (c :: cs) <:+: lower (before ++ (c :: cs ++ after)) := by
  by_cases hs : sigma ∈ c :: cs
  · -- the first character is never ignored, so nothing in front of it matters to those behind it
    have halike : ∀ front : List Char,
        leadsCased (front ++ [c]) = leadsCased (front ++ c :: before.reverse) := by
      intro front
      have hstop := not_ignorable_of_isIdentStart hc
      rw [List.append_cons front c before.reverse,
        leadsCased_append_of_mem hstop _ (List.mem_append_right _ (List.mem_singleton_self c))]
    obtain ⟨front, hfront⟩ := exists_lowerFrom_append (c :: cs ++ after) before []
    have hsmall : ∀ (context rest : List Char),
        lowerFrom context (c :: rest) = lowerChar c :: lowerFrom (c :: context) rest := by
      intro context rest
      rw [lowerFrom, if_pos (ascii_of_isIdentStart hc), List.singleton_append]
    rw [lower, lower, hfront, List.append_nil, List.cons_append, hsmall, hsmall,
      lowerFrom_append_of_alike (hafter hs) halike]
    exact ⟨front, lowerFrom (cs.reverse ++ c :: before.reverse) after, by simp⟩
  · exact lower_infix hs ⟨before, after, (List.append_assoc ..)⟩

/-! ## ASCII -/

/-- A text in ASCII. -/
def Ascii (cs : List Char) : Prop := ∀ c ∈ cs, c.toNat < 0x80

instance (cs : List Char) : Decidable (Ascii cs) :=
  List.decidableBAll (fun c : Char => c.toNat < 0x80) cs

theorem lowerChar_of_ascii {c : Char} (h : c.toNat < 0x80) : lowerChar c = c.toLower := by
  have table : ∀ n < 0x80, lowerChar (Char.ofNat n) = (Char.ofNat n).toLower := by decide +kernel
  have := table c.toNat h
  rwa [Char.ofNat_toNat] at this

theorem lower_of_ascii {cs : List Char} (h : Ascii cs) :
    lower cs = cs.map Char.toLower := by
  have hs : sigma ∉ cs := fun hm => absurd (h sigma hm) (by decide)
  rw [lower_of_notMem hs, List.map_eq_flatMap]
  refine List.flatMap_congr fun c hc => ?_
  have hne : c.toNat ≠ 0x130 := fun e => absurd (h c hc) (by omega)
  rw [smallOf, if_neg hne, lowerChar_of_ascii (h c hc)]

end RtlAtlas.Text
