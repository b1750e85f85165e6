/-
Searching again and again. When every find moves the search on, all that is found from a place on is the
first find and all that is found behind it. So a text that is made of parts is searched part by part: a
part where nothing is found is passed over, and what is found in a part that no find leaves comes in
front of what is found behind it.
-/
import RtlAtlas.Proofs.Source.Passage
import RtlAtlas.Proofs.Source.Reserved

namespace RtlAtlas.Source

open RtlAtlas.Text

namespace Cursor

variable {α : Type} {pattern : Cursor → Option α} {next : α → Cursor} {c d : Cursor}

/-- What a pattern finds ends behind the place where it is found. -/
def MovesOn (pattern : Cursor → Option α) (next : α → Cursor) : Prop :=
  ∀ c a, pattern c = some a → c.Reaches (next a) ∧ c.offset < (next a).offset

theorem Reaches.length_lt (h : c.Reaches d) (hlt : c.offset < d.offset) :
    d.rest.length < c.rest.length := by
  have hstop := h.stop_eq
  omega

/-- A place that is reached is told by its offset. -/
theorem Reaches.eq_advance (h : c.Reaches d) : d = c.advance (d.offset - c.offset) := by
  obtain ⟨a, ha⟩ := h.passes
  rw [ha.offset, Nat.add_sub_cancel_left]
  exact ha.place

theorem MovesOn.length_lt (h : MovesOn pattern next) {a : α} (hs : c.search pattern = some a) :
    (next a).rest.length < c.rest.length := by
  obtain ⟨d, hd, hp⟩ := search_eq_some hs
  obtain ⟨hnext, hlt⟩ := h d a hp
  exact (hd.trans hnext).length_lt (Nat.lt_of_le_of_lt hd.offset_le hlt)

/-- More fuel than there are characters finds nothing more. -/
theorem searchAllFrom_eq (h : MovesOn pattern next) : ∀ (fuel : Nat) {c : Cursor}, c.rest.length < fuel →
    searchAllFrom pattern next fuel c = c.searchAll pattern next
  | 0, _, hfuel => absurd hfuel (Nat.not_lt_zero _)
  | fuel + 1, c, hfuel => by
    unfold searchAll searchAllFrom
    cases hs : c.search pattern with
    | none => rfl
    | some a =>
      have hless := h.length_lt hs
      have hle := Nat.le_of_lt_succ hfuel
      exact congrArg (a :: ·) ((searchAllFrom_eq h fuel (Nat.lt_of_lt_of_le hless hle)).trans
        (searchAllFrom_eq h c.rest.length hless).symm)

/-- All that is found is the first find and what is found behind it. -/
theorem searchAll_eq (h : MovesOn pattern next) (c : Cursor) : c.searchAll pattern next =
    match c.search pattern with
    | none => []
    | some a => a :: (next a).searchAll pattern next := by
  rw [← searchAllFrom_eq h (c.rest.length + 1 + 1) (by omega), searchAllFrom]
  cases hs : c.search pattern with
  | none => rfl
  | some a =>
    have hless := h.length_lt hs
    exact congrArg (a :: ·) (searchAllFrom_eq h _ (by omega))

theorem searchAll_congr (h : MovesOn pattern next) (hs : c.search pattern = d.search pattern) :
    c.searchAll pattern next = d.searchAll pattern next := by
  rw [searchAll_eq h, hs, ← searchAll_eq h]

theorem searchAll_here (h : MovesOn pattern next) {a : α} (hp : pattern c = some a) :
    c.searchAll pattern next = a :: (next a).searchAll pattern next := by
  rw [searchAll_eq h, search_here hp]

/-- A part of a text without words of a sort is passed over. -/
theorem searchAll_without (h : MovesOn pattern next) {sort : List Char → Bool}
    (hpattern : ∀ c, c.atWordOf sort = false → pattern c = none) (hnil : sort [] = false)
    {a : List Char} (ha : Without sort a) (rest : List Char) {offset : Nat} {last : Option Char}
    (hlast : last.any isWord = true → a.head?.any isWord = false) :
    (⟨offset, last, a ++ rest⟩ : Cursor).searchAll pattern next =
      (⟨offset + a.length, a.getLast?.or last, rest⟩ : Cursor).searchAll pattern next :=
  searchAll_congr h (search_without hpattern hnil ha rest hlast)

/-- A character outside of words is passed over. -/
theorem searchAll_mark (h : MovesOn pattern next) {sort : List Char → Bool}
    (hpattern : ∀ c, c.atWordOf sort = false → pattern c = none) (hnil : sort [] = false) {x : Char}
    (hx : isWord x = false) (offset : Nat) (last : Option Char) (rest : List Char) :
    (⟨offset, last, x :: rest⟩ : Cursor).searchAll pattern next =
      (⟨offset + 1, some x, rest⟩ : Cursor).searchAll pattern next :=
  searchAll_without h hpattern hnil (.mark hx .nil) rest fun _ => by simpa using hx

/-- What is found in the next characters, if it ends there, comes in front of what is found behind. -/
theorem searchAll_within (h : MovesOn pattern next) {n : Nat} : ∀ {c : Cursor}, n ≤ c.rest.length →
    (∀ m < n, ∀ a, pattern (c.advance m) = some a → (next a).offset ≤ c.offset + n) →
    ∃ found, c.searchAll pattern next = found ++ (c.advance n).searchAll pattern next ∧
      ∀ a ∈ found, ∃ m < n, pattern (c.advance m) = some a := by
  induction n using Nat.strongRecOn with
  | ind n ih =>
    intro c hn hin
    -- the rest of the characters, from a place among them on
    have hstep : ∀ k, 0 < k → k ≤ n → ∃ found,
        (c.advance k).searchAll pattern next = found ++ (c.advance n).searchAll pattern next ∧
          ∀ a ∈ found, ∃ m < n, pattern (c.advance m) = some a := by
      intro k hpos hk
      have hoffset : (c.advance k).offset = c.offset + k := by
        rw [offset_advance]
        omega
      obtain ⟨found, hfound, hplaces⟩ := ih (n - k) (by omega) (c := c.advance k)
        (by rw [rest_advance, List.length_drop]; omega) fun m hm a ha => by
          rw [advance_advance] at ha
          have hle := hin (k + m) (by omega) a ha
          rw [hoffset]
          omega
      rw [advance_advance, Nat.add_sub_cancel' hk] at hfound
      refine ⟨found, hfound, fun a ha => ?_⟩
      obtain ⟨m, hm, hp⟩ := hplaces a ha
      rw [advance_advance] at hp
      exact ⟨k + m, by omega, hp⟩
    rcases Nat.eq_zero_or_pos n with rfl | hpos
    · exact ⟨[], rfl, fun _ ha => absurd ha (List.not_mem_nil)⟩
    · cases hp : pattern c with
      | none =>
        have hs : c.search pattern = (c.advance 1).search pattern :=
          search_advance (by omega) fun m hm => by
            obtain rfl : m = 0 := by omega
            exact hp
        rw [searchAll_congr h hs]
        exact hstep 1 (Nat.succ_pos 0) hpos
      | some a =>
        obtain ⟨hnext, hlt⟩ := h c a hp
        have hle := hin 0 hpos a hp
        obtain ⟨found, hfound, hplaces⟩ := hstep ((next a).offset - c.offset) (by omega) (by omega)
        rw [← hnext.eq_advance] at hfound
        refine ⟨a :: found, by rw [searchAll_here h hp, hfound, List.cons_append], ?_⟩
        intro b hb
        rcases List.mem_cons.1 hb with rfl | hb
        · exact ⟨0, hpos, hp⟩
        · exact hplaces b hb

end Cursor

/-! ## Statements and routines -/

section

variable {c d : Cursor} {words : List String} {word : String} {s : Statement}

theorem Cursor.offset_of_word? (h : c.word? words = some (word, d)) :
    d.offset = c.offset + word.length := by
  have hstop := (reaches_word? h).stop_eq
  have hlength := congrArg List.length (rest_of_word? h).2
  rw [List.length_append, String.length_toList] at hlength
  omega

theorem movesOn_statement? (words : List String) : Cursor.MovesOn (statement? words) (·.next) := by
  intro c s h
  obtain ⟨keyword, after, hword, hbody, -⟩ := statement?_eq_some h
  obtain ⟨hnext, hoffset, -⟩ := Cursor.of_toSemicolon? hbody
  have hafter := Cursor.reaches_word? hword
  have hle := hafter.offset_le
  exact ⟨hafter.trans hnext, show c.offset < s.next.offset by omega⟩

theorem movesOn_routine? : Cursor.MovesOn routine? (·.next) := by
  intro c r h
  obtain ⟨keyword, after, hword, hnext, -⟩ := routine?_eq_some h
  have hlength : ∀ w ∈ ["function", "task"], 0 < w.length := by decide
  have hpos := hlength keyword (rest_of_word? hword).1
  have hoffset := Cursor.offset_of_word? hword
  have hle := hnext.offset_le
  exact ⟨(Cursor.reaches_word? hword).trans hnext, show c.offset < r.next.offset by omega⟩

/-- A statement ends at the latest at the first semicolon behind the place where it starts. -/
theorem next_le_of_semicolon (hwords : ∀ w ∈ words, ';' ∉ w.toList) (h : statement? words c = some s)
    {a b : List Char} (hrest : c.rest = a ++ ';' :: b) : s.next.offset ≤ c.offset + a.length + 1 := by
  obtain ⟨keyword, after, hword, hbody, -⟩ := statement?_eq_some h
  obtain ⟨hmem, hsplit⟩ := rest_of_word? hword
  have hoffset := Cursor.offset_of_word? hword
  -- the semicolon does not stand in the word
  obtain ⟨t, rfl, ht⟩ : ∃ t, a = keyword.toList ++ t ∧ after.rest = t ++ ';' :: b := by
    rw [hrest] at hsplit
    rcases List.append_eq_append_iff.1 hsplit.symm with ⟨t, hta, htr⟩ | ⟨t, htk, hta⟩
    · exact ⟨t, hta, htr⟩
    · cases t with
      | nil => exact ⟨[], by simpa using htk.symm, hta.symm⟩
      | cons x t =>
        obtain ⟨rfl, -⟩ := List.cons.inj hta
        exact absurd (by rw [htk]; simp) (hwords keyword hmem)
  obtain ⟨-, hnext, htext⟩ := Cursor.of_toSemicolon? hbody
  have hlength : s.body.text.length ≤ t.length := by
    rw [htext, ht]
    exact length_takeWhile_le rfl b t
  rw [List.length_append, String.length_toList]
  omega

end

end RtlAtlas.Source
