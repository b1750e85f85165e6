/-
How texts that were put together come apart again: the run of characters at the head of a text, the
white space at its ends, its words, the last place where another text occurs in it, and its lines.
-/
import RtlAtlas.Text.Blank
import RtlAtlas.Text.Find
import RtlAtlas.Text.Line
import RtlAtlas.Text.Word

namespace RtlAtlas.Text

/-! ## Runs -/

variable {p : Char → Bool} {a b : List Char}

theorem takeWhile_run (ha : ∀ x ∈ a, p x = true) (hb : b.head?.any p = false) :
    (a ++ b).takeWhile p = a := by
  rw [List.takeWhile_append_of_pos ha]
  cases b with
  | nil => simp
  | cons x b => rw [List.takeWhile_cons_of_neg (by simpa using hb), List.append_nil]

theorem dropWhile_run (ha : ∀ x ∈ a, p x = true) (hb : b.head?.any p = false) :
    (a ++ b).dropWhile p = b := by
  rw [List.dropWhile_append_of_pos ha]
  cases b with
  | nil => rfl
  | cons x b => rw [List.dropWhile_cons_of_neg (by simpa using hb)]

/-- The run at the head of a text ends at the latest at a character that does not belong to it. -/
theorem length_takeWhile_le {x : Char} (hx : p x = false) (b : List Char) :
    ∀ a : List Char, ((a ++ x :: b).takeWhile p).length ≤ a.length
  | [] => by simp [hx]
  | y :: a => by
    rw [List.cons_append, List.takeWhile_cons]
    split
    · simpa using length_takeWhile_le hx b a
    · simp

/-- An identifier is read back, whatever follows that does not continue it. -/
theorem identifier?_run (hne : a ≠ []) (hstart : a.head?.all isIdentStart = true)
    (ha : ∀ x ∈ a, isIdentRest x = true) (hb : b.head?.any isIdentRest = false) :
    identifier? (a ++ b) = some (a, b) := by
  cases a with
  | nil => exact absurd rfl hne
  | cons x a =>
    have hrest : ∀ y ∈ a, isIdentRest y = true := fun y hy => ha y (List.mem_cons_of_mem _ hy)
    rw [List.cons_append, identifier?, if_pos (by simpa using hstart), takeWhile_run hrest hb,
      dropWhile_run hrest hb]

/-! ## White space -/

theorem trimLeft_append (ha : ∀ x ∈ a, isBlank x = true) (hb : b.head?.any isBlank = false) :
    trimLeft (a ++ b) = b := dropWhile_run ha hb

theorem trimRight_append (ha : a.getLast?.any isBlank = false) (hb : ∀ x ∈ b, isBlank x = true) :
    trimRight (a ++ b) = a := by
  unfold trimRight
  rw [List.reverse_append, dropWhile_run (by simpa using hb) (by simpa using ha), List.reverse_reverse]

/-- White space around a text that neither starts nor ends with it is trimmed. -/
theorem trim_append {text : List Char} (hhead : text.head?.any isBlank = false)
    (hlast : text.getLast?.any isBlank = false) (ha : ∀ x ∈ a, isBlank x = true)
    (hb : ∀ x ∈ b, isBlank x = true) : trim (a ++ (text ++ b)) = text := by
  cases text with
  | nil =>
    have hall : ∀ x ∈ a ++ b, isBlank x = true := fun x hx =>
      (List.mem_append.1 hx).elim (ha x) (hb x)
    have hnone := trimLeft_append (b := []) hall rfl
    rw [List.append_nil] at hnone
    rw [trim, List.nil_append, hnone]
    rfl
  | cons x text =>
    rw [trim, trimLeft_append ha (by simpa using hhead), trimRight_append hlast hb]

theorem trim_eq_self (hhead : a.head?.any isBlank = false) (hlast : a.getLast?.any isBlank = false) :
    trim a = a := by
  have h := trim_append (a := []) (b := []) hhead hlast (by simp) (by simp)
  rwa [List.append_nil] at h

/-! ## Words -/

theorem words_blank {x : Char} (hx : isBlank x = true) (cs : List Char) :
    words (x :: cs) = words cs := by
  rw [words.eq_def]
  exact if_pos hx

/-- A run without white space is one word. -/
theorem words_run : ∀ {w : List Char}, w ≠ [] → (∀ x ∈ w, isBlank x = false) → words w = [w]
  | [], hne, _ => absurd rfl hne
  | [x], _, h => by simp [words, h x]
  | x :: y :: w, _, h => by
    have hy := h y (by simp)
    have hrest := words_run (List.cons_ne_nil y w) fun z hz => h z (List.mem_cons_of_mem _ hz)
    rw [words, if_neg (by simp [h x])]
    simp [hy, hrest]

/-- White space ends a word. -/
theorem words_append : ∀ {w : List Char}, w ≠ [] → (∀ x ∈ w, isBlank x = false) → ∀ {y : Char},
    isBlank y = true → ∀ (cs : List Char), words (w ++ y :: cs) = w :: words cs
  | [], hne, _, _, _, _ => absurd rfl hne
  | [x], _, h, y, hy, cs => by
    rw [List.singleton_append, words, if_neg (by simp [h x])]
    simp [hy, words_blank hy]
  | x :: z :: w, _, h, y, hy, cs => by
    have hz := h z (by simp)
    have hrest := words_append (List.cons_ne_nil z w) (fun u hu => h u (List.mem_cons_of_mem _ hu)) hy cs
    rw [List.cons_append] at hrest
    rw [List.cons_append, List.cons_append, words, if_neg (by simp [h x])]
    simp [hz, hrest]

/-- Words with a space behind each are read back. -/
theorem words_flatMap : ∀ {ws : List (List Char)},
    (∀ w ∈ ws, w ≠ [] ∧ ∀ x ∈ w, isBlank x = false) → words (ws.flatMap (· ++ [' '])) = ws
  | [], _ => rfl
  | w :: ws, h => by
    obtain ⟨hne, hclear⟩ := h w (List.mem_cons_self ..)
    have hrest := words_flatMap fun v hv => h v (List.mem_cons_of_mem _ hv)
    rw [List.flatMap_cons, List.append_assoc, List.singleton_append, words_append hne hclear (by decide),
      hrest]

/-- Words with a space between neighbours are read back. -/
theorem words_intercalate : ∀ {ws : List (List Char)},
    (∀ w ∈ ws, w ≠ [] ∧ ∀ x ∈ w, isBlank x = false) → words ([' '].intercalate ws) = ws
  | [], _ => rfl
  | [w], h => by
    obtain ⟨hne, hclear⟩ := h w (List.mem_singleton_self w)
    rw [List.intercalate_singleton, words_run hne hclear]
  | w :: v :: ws, h => by
    obtain ⟨hne, hclear⟩ := h w (List.mem_cons_self ..)
    have hrest := words_intercalate fun u hu => h u (List.mem_cons_of_mem _ hu)
    rw [List.intercalate_cons_cons, List.append_assoc, List.singleton_append,
      words_append hne hclear (by decide), hrest]

theorem collapse_run (hne : a ≠ []) (ha : ∀ x ∈ a, isBlank x = false) : collapse a = a := by
  rw [collapse, words_run hne ha, List.intercalate_singleton]

/-! ## Occurrences -/

theorem findLast?_le {needle : List Char} {i : Nat} : ∀ {cs : List Char},
    findLast? needle cs = some i → i ≤ cs.length
  | [], h => by
    unfold findLast? at h
    split at h
    · cases h; exact Nat.le_refl 0
    · cases h
  | c :: cs, h => by
    unfold findLast? at h
    split at h
    · rename_i hj
      cases h
      exact Nat.succ_le_succ (findLast?_le hj)
    · split at h
      · cases h; exact Nat.zero_le _
      · cases h

/-- A text stands where it is found. -/
theorem prefix_of_findLast? {needle : List Char} {i : Nat} : ∀ {cs : List Char},
    findLast? needle cs = some i → needle <+: cs.drop i
  | [], h => by
    unfold findLast? at h
    split at h
    · rename_i hempty
      rw [List.isEmpty_iff.1 hempty]
      exact List.nil_prefix
    · cases h
  | c :: cs, h => by
    unfold findLast? at h
    split at h
    · rename_i hj
      cases h
      rw [List.drop_succ_cons]
      exact prefix_of_findLast? hj
    · split at h
      · rename_i hhere
        cases h
        exact List.isPrefixOf_iff_prefix.1 hhere
      · cases h

/-- A text that stands anywhere is found. -/
theorem exists_findLast? {needle : List Char} : ∀ {cs : List Char}, needle <:+: cs →
    ∃ i, findLast? needle cs = some i
  | [], h => ⟨0, if_pos (by rw [List.infix_nil.1 h]; rfl)⟩
  | c :: cs, h => by
    unfold findLast?
    cases hrest : findLast? needle cs with
    | some i => exact ⟨i + 1, rfl⟩
    | none =>
      refine ⟨0, if_pos (List.isPrefixOf_iff_prefix.2 ((List.infix_cons_iff.1 h).resolve_right ?_))⟩
      intro hin
      obtain ⟨i, hi⟩ := exists_findLast? hin
      rw [hrest] at hi
      cases hi

theorem findLast?_eq_none {needle : List Char} : ∀ {cs : List Char},
    (∀ j, j ≤ cs.length → ¬needle <+: cs.drop j) → findLast? needle cs = none
  | [], h => by
    have hne : ¬needle.isEmpty = true := fun he => h 0 (Nat.le_refl _) (by simp_all)
    rw [findLast?, if_neg hne]
  | c :: cs, h => by
    have hrest := findLast?_eq_none fun j hj => h (j + 1) (Nat.succ_le_succ hj)
    have hhere : ¬needle.isPrefixOf (c :: cs) = true := fun hp =>
      h 0 (Nat.zero_le _) (List.isPrefixOf_iff_prefix.1 hp)
    rw [findLast?, hrest]
    exact if_neg hhere

theorem findLast?_eq_some {needle : List Char} : ∀ {cs : List Char} {i : Nat}, i ≤ cs.length →
    needle <+: cs.drop i → (∀ j, i < j → j ≤ cs.length → ¬needle <+: cs.drop j) →
    findLast? needle cs = some i
  | [], i, hi, hp, _ => by
    obtain rfl : i = 0 := Nat.le_zero.1 hi
    obtain rfl : needle = [] := List.prefix_nil.1 hp
    rfl
  | c :: cs, 0, _, hp, hlast => by
    have hrest := findLast?_eq_none fun j hj => hlast (j + 1) (Nat.succ_pos j) (Nat.succ_le_succ hj)
    rw [findLast?, hrest]
    exact if_pos (List.isPrefixOf_iff_prefix.2 hp)
  | c :: cs, i + 1, hi, hp, hlast => by
    have hrest := findLast?_eq_some (Nat.le_of_succ_le_succ hi) hp fun j hj hle =>
      hlast (j + 1) (Nat.succ_lt_succ hj) (Nat.succ_le_succ hle)
    rw [findLast?, hrest]

/-- A text occurs last where it stands in front of characters that it does not hold. -/
theorem findLast?_append {needle : List Char} (hne : needle ≠ []) (hb : ∀ x ∈ b, x ∉ needle) :
    findLast? needle (a ++ (needle ++ b)) = some a.length := by
  refine findLast?_eq_some (by simp) (by simp) fun j hj _ hp => ?_
  obtain ⟨k, rfl⟩ := Nat.exists_eq_add_of_lt hj
  -- the last character of the later occurrence lies behind the needle
  have hx := List.getLast?_eq_some_getLast hne
  have hlength := List.length_pos_iff.2 hne
  have hmem := List.getLast_mem hne
  rw [List.getLast?_eq_getElem?] at hx
  have hlater : (needle ++ b)[k + 1 + (needle.length - 1)]? =
      some (needle.getLast hne) := by
    obtain ⟨t, ht⟩ := hp
    rw [Nat.add_assoc, List.drop_append, List.drop_eq_nil_of_le (by omega), List.nil_append,
      Nat.add_sub_cancel_left] at ht
    rw [← List.getElem?_drop, ← ht, List.getElem?_append_left (by omega), hx]
  rw [List.getElem?_append_right (by omega)] at hlater
  exact hb _ (List.mem_of_getElem? hlater) hmem

/-! ## Lines -/

theorem lineOf_append (a b : List Char) : lineOf (a ++ b) a.length = a.count '\n' + 1 := by
  rw [lineOf, List.take_left]

theorem lineOf_mono (text : List Char) {a b : Nat} (h : a ≤ b) : lineOf text a ≤ lineOf text b := by
  have hsub : (text.take a).Sublist (text.take b) :=
    (List.take_prefix_take_left h).sublist
  exact Nat.succ_le_succ (hsub.count_le _)

/-- A line break between two offsets puts them on different lines. -/
theorem lineOf_lt {text : List Char} {a b p : Nat} (ha : a ≤ p) (hb : p < b)
    (hp : text[p]? = some '\n') : lineOf text a < lineOf text b := by
  have hone : lineOf text (p + 1) = lineOf text p + 1 := by
    unfold lineOf
    rw [List.take_add_one, hp]
    simp
  have hlow := lineOf_mono text ha
  have hhigh := lineOf_mono text (show p + 1 ≤ b by omega)
  omega

theorem lineOf_le (text : List Char) (a : Nat) : lineOf text a ≤ 1 + text.count '\n' := by
  have := (List.take_sublist a text).count_le '\n'
  unfold lineOf
  omega

end RtlAtlas.Text
