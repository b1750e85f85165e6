/-
Texts that are equal but for the text of some of their literals. What is read up to a quote is then the
same in both, and what is read past literals ends at the same place in both, if it ends at a character
that none of the exchanged texts holds.
-/
import Mathlib.Data.List.TakeWhile
import RtlAtlas.Proofs.Text.Token

namespace RtlAtlas.Source

open RtlAtlas.Text

/-- Two texts that start at an offset and are equal but for what stands between the quotes of some
literals. `P` says which two texts may stand for one another at an offset. -/
inductive Exchange (P : Nat → List Char → List Char → Prop) : Nat → List Char → List Char → Prop
  | nil {k : Nat} : Exchange P k [] []
  | same {k : Nat} {x : Char} {cs cs' : List Char} : Exchange P (k + 1) cs cs' →
      Exchange P k (x :: cs) (x :: cs')
  | literal {k : Nat} {w w' cs cs' : List Char} : P (k + 1) w w' →
      Exchange P (k + w.length + 2) cs cs' →
      Exchange P k ('"' :: (w ++ '"' :: cs)) ('"' :: (w' ++ '"' :: cs'))

/-- Whether a text can stand between the quotes of a literal: a quote or a line feed stands in it
behind a backslash only. -/
def literalText : List Char → Bool
  | [] => true
  | '\\' :: _ :: cs => literalText cs
  | c :: cs => c != '"' && c != '\n' && c != '\\' && literalText cs

theorem literalText_cons {x : Char} (hx : x ≠ '\\') (cs : List Char) :
    literalText (x :: cs) = (x != '"' && x != '\n' && literalText cs) := by
  rw [literalText.eq_def]
  split
  · rename_i he
    exact absurd he (List.cons_ne_nil _ _)
  · rename_i he
    exact absurd (List.cons.inj he).1 hx
  · rename_i he
    obtain ⟨rfl, rfl⟩ := List.cons.inj he
    rw [show (x != '\\') = true from bne_iff_ne.2 hx, Bool.and_true]

/-- Two texts that are equal but for the text of some literals. -/
def UpToLiterals (s s' : List Char) : Prop :=
  Exchange (fun _ w w' => literalText w = true ∧ literalText w' = true) 0 s s'

namespace Exchange

variable {P Q : Nat → List Char → List Char → Prop} {R : List Char → List Char → Prop}
variable {p : Char → Bool} {k n : Nat} {x : Char} {t t' a a' b b' cs : List Char}

/-! ## Putting together and taking apart -/

theorem refl : ∀ {k : Nat} (t : List Char), Exchange P k t t
  | _, [] => .nil
  | _, _ :: t => .same (refl t)

theorem mono (hle : ∀ k w w', P k w w' → Q k w w') (h : Exchange P k t t') : Exchange Q k t t' := by
  induction h with
  | nil => exact .nil
  | same _ ih => exact .same ih
  | literal hw _ ih => exact .literal (hle _ _ _ hw) ih

/-- The same texts at an offset that is lower by `j`. -/
theorem lower (j : Nat) (h : Exchange P (j + k) t t') : Exchange (fun o => P (j + o)) k t t' := by
  generalize hi : j + k = i at h
  induction h generalizing k with
  | nil => exact .nil
  | same _ ih => exact .same (ih (by omega))
  | literal hw _ ih =>
    obtain rfl := hi
    exact .literal hw (ih (by simp only [Nat.add_assoc]))

/-- The same texts at an offset that is higher by `j`. -/
theorem raise (j : Nat) (h : Exchange (fun o => P (j + o)) k t t') : Exchange P (j + k) t t' := by
  induction h with
  | nil => exact .nil
  | same _ ih => exact .same ih
  | literal hw _ ih => exact .literal hw (by rwa [← Nat.add_assoc, ← Nat.add_assoc] at ih)

/-- Where offsets do not matter, any will do. -/
theorem shift (h : Exchange (fun _ => R) k t t') (j : Nat) : Exchange (fun _ => R) j t t' := by
  induction h generalizing j with
  | nil => exact .nil
  | same _ ih => exact .same (ih _)
  | literal hw _ ih => exact .literal hw (ih _)

/-- Where offsets do not matter, the texts may change places. -/
theorem flip (h : Exchange (fun _ => R) k t t') (j : Nat) :
    Exchange (fun _ w w' => R w' w) j t' t := by
  induction h generalizing j with
  | nil => exact .nil
  | same _ ih => exact .same (ih _)
  | literal hw _ ih => exact .literal hw (ih _)

/-- What begins one place further to the front, with the same character. -/
theorem drop (hx : t[n]? = some x) (hx' : t'[n]? = some x)
    (h : Exchange P (k + 1) (t.drop (n + 1)) (t'.drop (n + 1))) :
    Exchange P k (t.drop n) (t'.drop n) := by
  obtain ⟨hlt, rfl⟩ := List.getElem?_eq_some_iff.1 hx
  obtain ⟨hlt', hsame⟩ := List.getElem?_eq_some_iff.1 hx'
  rw [List.drop_eq_getElem_cons hlt, List.drop_eq_getElem_cons hlt', hsame]
  exact .same h

theorem append (ha : Exchange P k a a') (hb : Exchange P (k + a.length) b b') :
    Exchange P k (a ++ b) (a' ++ b') := by
  induction ha with
  | nil => exact hb
  | same _ ih =>
    rw [List.length_cons] at hb
    exact .same (ih (by rwa [Nat.add_right_comm]))
  | @literal k w w' cs cs' hw _ ih =>
    have hrest := ih <| by
      rwa [show k + w.length + 2 + cs.length = k + ('"' :: (w ++ '"' :: cs)).length by
        simp only [List.length_cons, List.length_append]; omega]
    rw [List.cons_append, List.cons_append, List.append_assoc, List.append_assoc]
    exact .literal hw hrest

theorem cons_inv (h : Exchange P k (x :: cs) t') :
    (∃ cs', t' = x :: cs' ∧ Exchange P (k + 1) cs cs') ∨
      ∃ w w' r r', x = '"' ∧ cs = w ++ '"' :: r ∧ t' = '"' :: (w' ++ '"' :: r') ∧ P (k + 1) w w' ∧
        Exchange P (k + w.length + 2) r r' := by
  cases h with
  | same h => exact .inl ⟨_, rfl, h⟩
  | literal hw h => exact .inr ⟨_, _, _, _, rfl, rfl, rfl, hw, h⟩

/-- A character that is no quote stands at the head of both texts. -/
theorem of_cons (h : Exchange P k (x :: cs) t') (hx : x ≠ '"') :
    ∃ cs', t' = x :: cs' ∧ Exchange P (k + 1) cs cs' := by
  rcases cons_inv h with h | ⟨_, _, _, _, rfl, -⟩
  · exact h
  · exact absurd rfl hx

theorem head?_eq (h : Exchange P k t t') : t.head? = t'.head? := by
  cases h <;> rfl

theorem eq_nil_iff (h : Exchange P k t t') : t = [] ↔ t' = [] := by
  cases h <;> simp

theorem getLast?_eq (h : Exchange P k t t') : t.getLast? = t'.getLast? := by
  induction h with
  | nil => rfl
  | same _ ih => rw [List.getLast?_cons, List.getLast?_cons, ih]
  | literal _ _ ih => simp [List.getLast?_cons, ih]

theorem length_eq (hlength : ∀ k w w', P k w w' → w.length = w'.length) (h : Exchange P k t t') :
    t.length = t'.length := by
  induction h with
  | nil => rfl
  | same _ ih => rw [List.length_cons, List.length_cons, ih]
  | literal hw _ ih => simp [hlength _ _ _ hw, ih]

/-- A part without quotes stands at the head of both texts. -/
theorem of_append : ∀ {a : List Char} {k : Nat} {t' : List Char}, Exchange P k (a ++ b) t' → '"' ∉ a →
    ∃ b', t' = a ++ b' ∧ Exchange P (k + a.length) b b'
  | [], _, t', h, _ => ⟨t', rfl, h⟩
  | x :: a, k, t', h, ha => by
    rw [List.mem_cons, not_or] at ha
    obtain ⟨cs', rfl, hcs⟩ := h.of_cons (Ne.symm ha.1)
    obtain ⟨b', rfl, hb⟩ := of_append hcs ha.2
    refine ⟨b', rfl, ?_⟩
    rwa [List.length_cons, Nat.add_comm a.length, ← Nat.add_assoc]

/-- A text without quotes is the same in both. -/
theorem eq_of_notMem (h : Exchange P k a t') (ha : '"' ∉ a) : t' = a := by
  rw [← List.append_nil a] at h
  obtain ⟨b', rfl, hb⟩ := h.of_append ha
  rw [(hb.eq_nil_iff).1 rfl, List.append_nil]

/-- A part without quotes stands at the end of both texts. -/
theorem of_append_right (h : Exchange P k t t') (ht : t = a ++ b) (hb : '"' ∉ b) :
    ∃ a', t' = a' ++ b ∧ Exchange P k a a' := by
  induction h generalizing a with
  | nil =>
    obtain ⟨rfl, rfl⟩ := List.append_eq_nil_iff.1 ht.symm
    exact ⟨[], rfl, .nil⟩
  | @same k x cs cs' h ih =>
    cases a with
    | nil =>
      subst ht
      have hcs := h.eq_of_notMem fun hq => hb (List.mem_cons_of_mem _ hq)
      exact ⟨[], by rw [hcs, List.nil_append], .nil⟩
    | cons y a =>
      obtain ⟨rfl, rfl⟩ := List.cons.inj ht
      obtain ⟨a', rfl, ha⟩ := ih rfl
      exact ⟨x :: a', rfl, .same ha⟩
  | @literal k w w' cs cs' hw h ih =>
    have hsplit : ('"' :: (w ++ ['"'])) ++ cs = a ++ b := by simpa using ht
    -- the literal ends with a quote, so it lies in front of the part as a whole
    obtain ⟨a₁, rfl, rfl⟩ : ∃ a₁, a = ('"' :: (w ++ ['"'])) ++ a₁ ∧ cs = a₁ ++ b := by
      rcases List.append_eq_append_iff.1 hsplit with ⟨a₁, ha, hcs⟩ | ⟨c, hc, rfl⟩
      · exact ⟨a₁, ha, hcs⟩
      · rcases List.eq_nil_or_concat c with rfl | ⟨c, y, rfl⟩
        · exact ⟨[], by simpa using hc.symm, rfl⟩
        · rw [List.concat_eq_append, ← List.append_assoc, ← List.cons_append] at hc
          obtain ⟨-, hy⟩ := List.append_inj' hc rfl
          exact absurd (by simp [← (List.singleton_inj.1 hy)]) hb
    obtain ⟨a', rfl, ha⟩ := ih rfl
    refine ⟨'"' :: (w' ++ '"' :: a'), by simp, ?_⟩
    simpa using Exchange.literal hw ha

/-- Where offsets do not matter, the texts may be read backwards. -/
theorem reverse (h : Exchange (fun _ => R) k t t') (j : Nat) :
    Exchange (fun _ w w' => R w.reverse w'.reverse) j t.reverse t'.reverse := by
  induction h with
  | nil => exact .nil
  | same _ ih =>
    rw [List.reverse_cons, List.reverse_cons]
    exact ih.append (refl _)
  | @literal _ w w' _ _ hw _ ih =>
    have hback : Exchange (fun _ w w' => R w.reverse w'.reverse) j
        ('"' :: (w.reverse ++ ['"'])) ('"' :: (w'.reverse ++ ['"'])) :=
      .literal (by simpa using hw) .nil
    simpa using ih.append (hback.shift _)

/-! ## Reading up to a quote -/

theorem takeWhile_eq (hp : p '"' = false) (h : Exchange P k t t') : t.takeWhile p = t'.takeWhile p := by
  induction h with
  | nil => rfl
  | same _ ih => rw [List.takeWhile_cons, List.takeWhile_cons, ih]
  | literal => simp [hp]

theorem dropWhile (hp : p '"' = false) (h : Exchange P k t t') :
    Exchange P (k + (t.takeWhile p).length) (t.dropWhile p) (t'.dropWhile p) := by
  have hsplit := h
  rw [← List.takeWhile_append_dropWhile (p := p) (l := t)] at hsplit
  obtain ⟨b', ht', hb⟩ := hsplit.of_append fun hq => by
    have := List.mem_takeWhile_imp hq
    rw [hp] at this
    cases this
  have hrest : t'.dropWhile p = b' := by
    have := List.takeWhile_append_dropWhile (p := p) (l := t')
    rw [← h.takeWhile_eq hp] at this
    exact List.append_cancel_left (this.trans ht')
  rwa [hrest]

theorem all_eq (hp : p '"' = false) (h : Exchange P k t t') : t.all p = t'.all p := by
  induction h with
  | nil => rfl
  | same _ ih => rw [List.all_cons, List.all_cons, ih]
  | literal => simp [hp]

theorem trimLeft (h : Exchange P k t t') :
    Exchange P (k + (t.takeWhile isBlank).length) (trimLeft t) (trimLeft t') :=
  h.dropWhile (by decide)

theorem trimRight (h : Exchange P k t t') : Exchange P k (trimRight t) (trimRight t') := by
  have hsplit : t = Text.trimRight t ++ (t.reverse.takeWhile isBlank).reverse := by
    rw [Text.trimRight, ← List.reverse_append, List.takeWhile_append_dropWhile, List.reverse_reverse]
  have hblank : ∀ y ∈ (t.reverse.takeWhile isBlank).reverse, isBlank y = true := fun y hy =>
    List.mem_takeWhile_imp (List.mem_reverse.1 hy)
  obtain ⟨a', rfl, ha⟩ := h.of_append_right hsplit fun hq => absurd (hblank _ hq) (by decide)
  have hlast : (Text.trimRight t).getLast?.any isBlank = false := by
    rw [Text.trimRight, List.getLast?_reverse]
    cases hd : t.reverse.dropWhile isBlank with
    | nil => rfl
    | cons y ys =>
      have := List.head_dropWhile_not isBlank (l := t.reverse) (by rw [hd]; exact List.cons_ne_nil _ _)
      simpa [hd] using this
  rwa [trimRight_append (ha.getLast?_eq ▸ hlast) hblank]

theorem trim (h : Exchange P k t t') :
    Exchange P (k + (t.takeWhile isBlank).length) (trim t) (trim t') := h.trimLeft.trimRight

/-! ## Reading past literals -/

/-- A run that does not reach the end stops at a character. -/
theorem head?_behind_run : ∀ {t : List Char}, (t.takeWhile p).length < t.length →
    ∃ x, (t.drop (t.takeWhile p).length).head? = some x ∧ p x = false
  | [], h => absurd h (Nat.lt_irrefl _)
  | y :: t, h => by
    cases hy : p y with
    | false => exact ⟨y, by simp [hy], hy⟩
    | true =>
      simp only [List.takeWhile_cons, hy, if_true, List.length_cons, List.drop_succ_cons] at h ⊢
      exact head?_behind_run (Nat.lt_of_succ_lt_succ h)

/-- What a reader takes that goes past the exchanged texts. -/
theorem takeWhile (hp : ∀ k w w', P k w w' → (∀ y ∈ w, p y = true) ∧ ∀ y ∈ w', p y = true)
    (hquote : p '"' = true) (h : Exchange P k t t') :
    Exchange P k (t.takeWhile p) (t'.takeWhile p) ∧
      Exchange P (k + (t.takeWhile p).length) (t.dropWhile p) (t'.dropWhile p) := by
  induction h with
  | nil => exact ⟨.nil, .nil⟩
  | @same k x cs cs' h ih =>
    cases hx : p x with
    | false =>
      simp only [List.takeWhile_cons, List.dropWhile_cons, hx]
      exact ⟨.nil, .same h⟩
    | true =>
      simp only [List.takeWhile_cons, List.dropWhile_cons, hx, if_true, List.length_cons]
      refine ⟨.same ih.1, ?_⟩
      rw [Nat.add_comm _ 1, ← Nat.add_assoc]
      exact ih.2
  | @literal k w w' cs cs' hw h ih =>
    obtain ⟨hall, hall'⟩ := hp _ _ _ hw
    simp only [List.takeWhile_cons, List.dropWhile_cons, hquote, if_true,
      List.takeWhile_append_of_pos hall, List.takeWhile_append_of_pos hall',
      List.dropWhile_append_of_pos hall, List.dropWhile_append_of_pos hall', List.length_cons,
      List.length_append]
    refine ⟨.literal hw ih.1, ?_⟩
    rw [show k + (w.length + ((cs.takeWhile p).length + 1) + 1) =
      k + w.length + 2 + (cs.takeWhile p).length by omega]
    exact ih.2

end Exchange

/-! ## Places that lie in no exchanged text -/

/-- The first `n` characters of two texts, and what follows them, are equal but for literals: the place
lies in no exchanged text. -/
structure Parts (P : Nat → List Char → List Char → Prop) (k : Nat) (t t' : List Char) (n : Nat) :
    Prop where
  le : n ≤ t.length
  front : Exchange P k (t.take n) (t'.take n)
  back : Exchange P (k + n) (t.drop n) (t'.drop n)

namespace Parts

variable {P : Nat → List Char → List Char → Prop} {p : Char → Bool} {k m n : Nat} {x : Char}
variable {t t' a a' b b' : List Char}

theorem zero (h : Exchange P k t t') : Parts P k t t' 0 := ⟨Nat.zero_le _, .nil, h⟩

theorem whole (hlength : t.length = t'.length) (h : Exchange P k t t') : Parts P k t t' t.length := by
  refine ⟨Nat.le_refl _, ?_, ?_⟩
  · rwa [List.take_length, hlength, List.take_length]
  · rw [List.drop_length, hlength, List.drop_length]
    exact .nil

theorem trans (hn : Parts P k t t' n) (hm : Parts P (k + n) (t.drop n) (t'.drop n) m) :
    Parts P k t t' (n + m) := by
  have hle := hm.le
  rw [List.length_drop] at hle
  have hn' := hn.le
  refine ⟨by omega, ?_, ?_⟩
  · rw [List.take_add, List.take_add]
    refine hn.front.append ?_
    rw [List.length_take, Nat.min_eq_left hn']
    exact hm.front
  · have hback := hm.back
    rwa [List.drop_drop, List.drop_drop, Nat.add_assoc] at hback

/-- The place behind two exchanged texts of one length. -/
theorem join (hlength : a.length = a'.length) (ha : Exchange P k a a')
    (hb : Exchange P (k + a.length) b b') : Parts P k (a ++ b) (a' ++ b') a.length := by
  refine ⟨by simp, ?_, ?_⟩
  · rw [List.take_left, hlength, List.take_left]
    exact ha
  · rw [List.drop_left, hlength, List.drop_left, ← hlength]
    exact hb

/-- A place behind a part without quotes. -/
theorem of_append (h : Exchange P k t t') (ht : t = a ++ b) (ha : '"' ∉ a) :
    Parts P k t t' a.length := by
  subst ht
  obtain ⟨b', rfl, hb⟩ := h.of_append ha
  exact join rfl (.refl a) hb

/-- The place behind a run that ends at a quote at the latest. -/
theorem run (hp : p '"' = false) (h : Exchange P k t t') : Parts P k t t' (t.takeWhile p).length := by
  refine of_append h (List.takeWhile_append_dropWhile (p := p)).symm fun hq => ?_
  have := List.mem_takeWhile_imp hq
  rw [hp] at this
  cases this

/-- The place behind a character that is no quote. -/
theorem one (h : Exchange P k t t') (hx : t.head? = some x) (hq : x ≠ '"') : Parts P k t t' 1 := by
  cases t with
  | nil => cases hx
  | cons y t =>
    cases hx
    exact of_append (a := [x]) h rfl fun hm => hq (List.mem_singleton.1 hm).symm

/-- The place behind a run that goes past the exchanged texts. -/
theorem past (hlength : ∀ j w w', P j w w' → w.length = w'.length)
    (hp : ∀ k w w', P k w w' → (∀ y ∈ w, p y = true) ∧ ∀ y ∈ w', p y = true) (hquote : p '"' = true)
    (h : Exchange P k t t') : Parts P k t t' (t.takeWhile p).length := by
  have htake : ∀ u : List Char, u.take (u.takeWhile p).length = u.takeWhile p := fun u =>
    (List.prefix_iff_eq_take.1 (List.takeWhile_prefix p)).symm
  have hdrop : ∀ u : List Char, u.drop (u.takeWhile p).length = u.dropWhile p := fun u => by
    have hsplit := List.take_append_drop (u.takeWhile p).length u
    rw [htake] at hsplit
    exact List.append_cancel_left (hsplit.trans List.takeWhile_append_dropWhile.symm)
  obtain ⟨hfront, hback⟩ := h.takeWhile hp hquote
  have hl := hfront.length_eq hlength
  refine ⟨(List.takeWhile_prefix p).length_le, ?_, ?_⟩
  · rwa [htake, hl, htake]
  · rwa [hdrop, hl, hdrop, ← hl]

/-- What lies between a character that is no quote and a place. -/
theorem inside (h : Parts P k t t' n) (hx : t.head? = some x) (hq : x ≠ '"') :
    Exchange P (k + 1) ((t.drop 1).take (n - 1)) ((t'.drop 1).take (n - 1)) := by
  obtain ⟨cs, rfl⟩ := List.head?_eq_some_iff.1 hx
  have hfront := h.front
  cases n with
  | zero => exact .nil
  | succ n =>
    rw [List.take_succ_cons] at hfront
    obtain ⟨cs', hcs', hinside⟩ := hfront.of_cons hq
    cases t' with
    | nil => cases hcs'
    | cons y t' =>
      obtain ⟨-, rfl⟩ := List.cons.inj hcs'
      exact hinside

/-- A place where a character stands that is no quote, if it lies in no exchanged text that holds the
character. -/
theorem of_getElem? (hlength : ∀ j w w', P j w w' → w.length = w'.length) (h : Exchange P k t t')
    (hx : t[n]? = some x) (hq : x ≠ '"')
    (hout : ∀ j w w', P j w w' → j ≤ k + n → k + n < j + w.length → x ∉ w) : Parts P k t t' n := by
  induction h generalizing n with
  | nil => cases hx
  | @same k y cs cs' h ih =>
    cases n with
    | zero => exact zero (.same h)
    | succ n =>
      have hstep : k + 1 + n = k + (n + 1) := by omega
      have hrest := ih (n := n) (by simpa using hx) fun j w w' hw hlow hhigh =>
        hout j w w' hw (hstep ▸ hlow) (hstep ▸ hhigh)
      exact ⟨Nat.succ_le_succ hrest.le, .same hrest.front, hstep ▸ hrest.back⟩
  | @literal k w w' cs cs' hw h ih =>
    have hl := hlength _ _ _ hw
    rcases Nat.eq_zero_or_pos n with rfl | hpos
    · exact zero (.literal hw h)
    obtain ⟨i, rfl⟩ := Nat.exists_eq_add_of_le' hpos
    rw [List.getElem?_cons_succ] at hx
    -- the place lies in the literal, at its closing quote, or behind it
    rcases Nat.lt_trichotomy i w.length with hi | rfl | hi
    · rw [List.getElem?_append_left hi] at hx
      exact absurd (List.mem_of_getElem? hx) (hout _ _ _ hw (by omega) (by omega))
    · rw [List.getElem?_append_right (Nat.le_refl _), Nat.sub_self] at hx
      exact absurd (Option.some.inj hx).symm hq
    · obtain ⟨m, rfl⟩ := Nat.exists_eq_add_of_lt hi
      have hindex : w.length + m + 1 - w.length = m + 1 := by omega
      have hstep : k + w.length + 2 + m = k + (w.length + m + 1 + 1) := by omega
      rw [List.getElem?_append_right (by omega), hindex, List.getElem?_cons_succ] at hx
      have hrest := ih hx fun j v v' hv hlow hhigh => hout j v v' hv (hstep ▸ hlow) (hstep ▸ hhigh)
      have hindex' : w.length + m + 1 - w'.length = m + 1 := by omega
      have hlong : w.length ≤ w.length + m + 1 := by omega
      have hlong' : w'.length ≤ w.length + m + 1 := by omega
      have hle := hrest.le
      refine ⟨by simp; omega, ?_, ?_⟩
      · simp only [List.take_succ_cons, List.take_append, hindex, hindex']
        rw [List.take_of_length_le hlong, List.take_of_length_le hlong']
        exact .literal hw hrest.front
      · simp only [List.drop_succ_cons, List.drop_append, hindex, hindex']
        rw [List.drop_eq_nil_of_le hlong, List.drop_eq_nil_of_le hlong']
        exact hstep ▸ hrest.back

end Parts

end RtlAtlas.Source
