/-
Places in a text. A cursor stands in a text when the characters it knows of are those of the text;
moving forward keeps it so, and every reader only moves forward. So what a search finds, it finds at a
place that is reached from where the search began, and no reader leaves the text.
-/
import RtlAtlas.Source.Extraction

namespace RtlAtlas.Source

open RtlAtlas.Text

namespace Cursor

variable {c d e : Cursor} {text : List Char}

/-! ## Moving forward -/

@[simp] theorem advance_zero (c : Cursor) : c.advance 0 = c := rfl

theorem rest_advance : ∀ (n : Nat) (c : Cursor), (c.advance n).rest = c.rest.drop n
  | 0, _ => rfl
  | n + 1, ⟨_, _, []⟩ => by simp [advance]
  | n + 1, ⟨offset, last, x :: xs⟩ => rest_advance n ⟨offset + 1, some x, xs⟩

theorem offset_advance : ∀ (n : Nat) (c : Cursor),
    (c.advance n).offset = c.offset + min n c.rest.length
  | 0, c => by simp
  | n + 1, ⟨_, _, []⟩ => by simp [advance]
  | n + 1, ⟨offset, last, x :: xs⟩ => by
    have h := offset_advance n ⟨offset + 1, some x, xs⟩
    simp only [advance, List.length_cons] at h ⊢
    omega

theorem advance_advance : ∀ (m n : Nat) (c : Cursor), (c.advance m).advance n = c.advance (m + n)
  | 0, n, c => by rw [Nat.zero_add]; rfl
  | m + 1, n, ⟨_, _, []⟩ => by
    rw [Nat.add_right_comm]
    cases n with
    | zero => rfl
    | succ n => rfl
  | m + 1, n, ⟨offset, last, x :: xs⟩ => by
    rw [Nat.add_right_comm]
    exact advance_advance m n ⟨offset + 1, some x, xs⟩

/-- The place behind the first part of a text. -/
theorem advance_append : ∀ (a b : List Char) (offset : Nat) (last : Option Char),
    (⟨offset, last, a ++ b⟩ : Cursor).advance a.length =
      ⟨offset + a.length, a.getLast?.or last, b⟩
  | [], _, _, _ => rfl
  | x :: a, b, offset, last => by
    have h := advance_append a b (offset + 1) (some x)
    show (⟨offset + 1, some x, a ++ b⟩ : Cursor).advance a.length = _
    rw [h, List.length_cons, Nat.add_right_comm, Nat.add_assoc, List.getLast?_cons]
    cases a.getLast? <;> rfl

/-- Where no white space stands, none is skipped. -/
theorem skipBlank_of_head (h : c.rest.head?.any isBlank = false) : c.skipBlank = c := by
  unfold skipBlank
  cases hrest : c.rest with
  | nil => rfl
  | cons x xs =>
    rw [hrest] at h
    rw [List.takeWhile_cons_of_neg (by simpa using h)]
    rfl

/-- One place lies at or behind another. -/
def Reaches (c d : Cursor) : Prop := ∃ n, d = c.advance n

theorem Reaches.refl (c : Cursor) : c.Reaches c := ⟨0, rfl⟩

theorem Reaches.trans (hd : c.Reaches d) (he : d.Reaches e) : c.Reaches e := by
  obtain ⟨m, rfl⟩ := hd
  obtain ⟨n, rfl⟩ := he
  exact ⟨m + n, advance_advance m n c⟩

theorem reaches_advance (n : Nat) (c : Cursor) : c.Reaches (c.advance n) := ⟨n, rfl⟩

theorem reaches_skipBlank (c : Cursor) : c.Reaches c.skipBlank := ⟨_, rfl⟩

theorem Reaches.offset_le (h : c.Reaches d) : c.offset ≤ d.offset := by
  obtain ⟨n, rfl⟩ := h
  rw [offset_advance]
  omega

/-- The end of the text stays where it is. -/
theorem Reaches.stop_eq (h : c.Reaches d) :
    d.offset + d.rest.length = c.offset + c.rest.length := by
  obtain ⟨n, rfl⟩ := h
  rw [offset_advance, rest_advance, List.length_drop]
  omega

/-! ## Standing in a text -/

/-- A cursor stands in a text: what lies before it and what follows make up the text. -/
def In (text : List Char) (c : Cursor) : Prop :=
  ∃ before, text = before ++ c.rest ∧ c.offset = before.length ∧ c.last = before.getLast?

theorem in_start (text : List Char) : (start text).In text := ⟨[], rfl, rfl, rfl⟩

theorem In.advance : ∀ (n : Nat) {c : Cursor}, c.In text → (c.advance n).In text
  | 0, _, h => h
  | n + 1, ⟨_, _, []⟩, h => h
  | n + 1, ⟨offset, last, x :: xs⟩, ⟨before, ht, ho, _⟩ =>
    In.advance n ⟨before ++ [x], by simp [ht], by simpa using ho, by simp⟩

theorem In.reaches (h : c.In text) (hr : c.Reaches d) : d.In text := by
  obtain ⟨n, rfl⟩ := hr
  exact h.advance n

theorem In.length_eq (h : c.In text) : c.offset + c.rest.length = text.length := by
  obtain ⟨before, ht, ho, -⟩ := h
  rw [ht, List.length_append, ho]

theorem In.offset_le (h : c.In text) : c.offset ≤ text.length := by
  have := h.length_eq
  omega

/-- A cursor before an offset stands in the text that ends there. -/
theorem In.upTo (h : c.In text) {stop : Nat} (hle : c.offset ≤ stop) :
    (c.upTo stop).In (text.take stop) := by
  obtain ⟨before, ht, ho, hl⟩ := h
  refine ⟨before, ?_, ho, hl⟩
  rw [ho] at hle
  unfold Cursor.upTo
  rw [ht, List.take_append, List.take_of_length_le hle, ho]

/-! ## Searching -/

theorem searchIn_eq_some {α : Type} {pattern : Cursor → Option α} {found : α} :
    ∀ {cs : List Char} {offset : Nat} {last : Option Char},
      searchIn pattern offset last cs = some found →
      ∃ d, (⟨offset, last, cs⟩ : Cursor).Reaches d ∧ pattern d = some found
  | [], _, _, h => ⟨_, Reaches.refl _, h⟩
  | x :: xs, offset, last, h => by
    unfold searchIn at h
    split at h
    · rename_i hp
      exact ⟨_, Reaches.refl _, hp.trans h⟩
    · obtain ⟨d, hd, hp⟩ := searchIn_eq_some h
      exact ⟨d, Reaches.trans ⟨1, rfl⟩ hd, hp⟩

/-- What a search finds, its pattern finds at a place that is reached. -/
theorem search_eq_some {α : Type} {pattern : Cursor → Option α} {found : α}
    (h : c.search pattern = some found) : ∃ d, c.Reaches d ∧ pattern d = some found :=
  searchIn_eq_some h

theorem mem_searchAllFrom {α : Type} {pattern : Cursor → Option α} {next : α → Cursor}
    (hnext : ∀ d a, pattern d = some a → d.Reaches (next a)) {found : α} :
    ∀ {fuel : Nat} {c : Cursor}, found ∈ searchAllFrom pattern next fuel c →
      ∃ d, c.Reaches d ∧ pattern d = some found
  | 0, _, h => by cases h
  | fuel + 1, c, h => by
    unfold searchAllFrom at h
    split at h
    · cases h
    · rename_i a ha
      obtain ⟨d, hd, hp⟩ := search_eq_some ha
      rcases List.mem_cons.1 h with rfl | h
      · exact ⟨d, hd, hp⟩
      · obtain ⟨e, he, hpe⟩ := mem_searchAllFrom hnext h
        exact ⟨e, hd.trans ((hnext d a hp).trans he), hpe⟩

/-- A search ends where its pattern matches. -/
theorem search_here {α : Type} {pattern : Cursor → Option α} {found : α}
    (h : pattern c = some found) : c.search pattern = some found := by
  obtain ⟨offset, last, rest⟩ := c
  cases rest with
  | nil => exact h
  | cons x xs => simp only [search, searchIn, h]

/-- A search goes on where its pattern has not matched so far. -/
theorem search_advance {α : Type} {pattern : Cursor → Option α} : ∀ {n : Nat} {c : Cursor}, n ≤ c.rest.length →
    (∀ m, m < n → pattern (c.advance m) = none) → c.search pattern = (c.advance n).search pattern
  | 0, _, _, _ => rfl
  | n + 1, ⟨_, _, []⟩, hn, _ => by cases hn
  | n + 1, ⟨offset, last, x :: xs⟩, hn, h => by
    have hrest := search_advance (c := ⟨offset + 1, some x, xs⟩) (Nat.le_of_succ_le_succ hn)
      fun m hm => h (m + 1) (Nat.succ_lt_succ hm)
    have hhere : pattern ⟨offset, last, x :: xs⟩ = none := h 0 (Nat.succ_pos n)
    calc search pattern ⟨offset, last, x :: xs⟩
        = search pattern ⟨offset + 1, some x, xs⟩ := by
          simp only [search, searchIn, hhere]
      _ = _ := hrest

theorem search_eq_none {α : Type} {pattern : Cursor → Option α}
    (h : ∀ d, c.Reaches d → pattern d = none) :
    c.search pattern = none := by
  cases hs : c.search pattern with
  | none => rfl
  | some found =>
    obtain ⟨d, hd, hp⟩ := search_eq_some hs
    rw [h d hd] at hp
    cases hp

theorem searchAll_eq_nil {α : Type} {pattern : Cursor → Option α} {next : α → Cursor}
    (h : ∀ d, c.Reaches d → pattern d = none) : c.searchAll pattern next = [] := by
  rw [searchAll, searchAllFrom, search_eq_none h]

/-! ## Readers -/

theorem reaches_afterWord? {word : String} (h : c.afterWord? word = some d) : c.Reaches d := by
  unfold afterWord? at h
  split at h
  · cases h
  · split at h
    · cases h
    · cases h
      exact reaches_advance _ _

theorem reaches_word? {words : List String} {w : String} (h : c.word? words = some (w, d)) :
    c.Reaches d := by
  unfold word? at h
  split at h
  · obtain ⟨w', -, hw⟩ := List.exists_of_findSome?_eq_some h
    obtain ⟨d', hd, he⟩ := Option.map_eq_some_iff.1 hw
    cases he
    exact reaches_afterWord? hd
  · cases h

theorem reaches_ident? {name : List Char} (h : c.ident? = some (name, d)) : c.Reaches d := by
  obtain ⟨_, -, he⟩ := Option.map_eq_some_iff.1 h
  cases he
  exact reaches_advance _ _

theorem length_closeFrom {n : Nat} : ∀ {cs owed : List Char}, closeFrom owed cs = some n → n < cs.length
  | [], _, h => by simp [closeFrom] at h
  | x :: cs, owed, h => by
    have hstep : ∀ {owed' : List Char}, (closeFrom owed' cs).map (· + 1) = some n →
        n < (x :: cs).length := by
      intro owed' h
      obtain ⟨m, hm, rfl⟩ := Option.map_eq_some_iff.1 h
      exact Nat.succ_lt_succ (length_closeFrom hm)
    unfold closeFrom at h
    split at h
    · exact hstep h
    · split at h
      · split at h
        · cases h
        · split at h
          · cases h
          · split at h
            · cases h
              simp
            · exact hstep h
      · exact hstep h

/-- Brackets and what they enclose lie between the two places. -/
theorem of_enclosed? {inside : List Char} (h : c.enclosed? = some (inside, d)) :
    c.Reaches d ∧ d.offset = c.offset + inside.length + 2 := by
  obtain ⟨n, hn, he⟩ := Option.map_eq_some_iff.1 h
  cases he
  refine ⟨reaches_advance _ _, ?_⟩
  cases hc : c.rest with
  | nil => rw [hc] at hn; cases hn
  | cons x xs =>
    rw [hc] at hn
    obtain ⟨close, -, hclose⟩ := Option.bind_eq_some_iff.1 hn
    obtain ⟨m, hm, rfl⟩ := Option.map_eq_some_iff.1 hclose
    have hlt := length_closeFrom hm
    rw [offset_advance, hc]
    simp only [List.drop_succ_cons, List.drop_zero, List.length_take, List.length_cons]
    omega

theorem of_toSemicolon? {body : List Char} (h : c.toSemicolon? = some (body, d)) :
    c.Reaches d ∧ d.offset = c.offset + body.length + 1 ∧ body = c.rest.takeWhile (· != ';') := by
  unfold toSemicolon? at h
  simp only at h
  split at h
  · rename_i hlt
    cases h
    refine ⟨reaches_advance _ _, ?_, rfl⟩
    rw [offset_advance]
    omega
  · cases h

end Cursor

end RtlAtlas.Source
