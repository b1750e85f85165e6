/-
Matching brackets. The bracket that closes another one is the one up to which the brackets of the text form
a well-nested word, and it is found whenever there is one. Where none is found, no bracket is opened at the
index, or a closing bracket of another kind comes before what it would have to close, or the text ends.
-/
import Mathlib.Data.List.Induction
import RtlAtlas.Proofs.Source.Nesting

namespace RtlAtlas.Source

/-! ## Words of brackets -/

/-- The brackets of a text, in order. -/
def brackets (text : List Char) : List Char := text.filter fun x => isOpener x || isCloser x

/-- A word of brackets in which every bracket is closed by one of its kind, the inner ones first. -/
inductive WellNested : List Char → Prop
  | nil : WellNested []
  | group {left right : Char} {inside rest : List Char} : closer? left = some right →
      WellNested inside → WellNested rest → WellNested (left :: (inside ++ right :: rest))

variable {text a b cs w owed : List Char} {left right x : Char}

theorem brackets_append (a b : List Char) : brackets (a ++ b) = brackets a ++ brackets b :=
  List.filter_append ..

theorem brackets_cons_of_nesting (hx : nesting x = 0) (cs : List Char) :
    brackets (x :: cs) = brackets cs := by
  obtain ⟨hnone, hcloser⟩ := nesting_eq_zero.1 hx
  exact List.filter_cons_of_neg (by simp [isOpener, hnone, hcloser])

theorem brackets_left (hpair : closer? left = some right) (cs : List Char) :
    brackets (left :: cs) = left :: brackets cs :=
  List.filter_cons_of_pos (by simp [(of_closer? hpair).1])

theorem brackets_right (hpair : closer? left = some right) (cs : List Char) :
    brackets (right :: cs) = right :: brackets cs :=
  List.filter_cons_of_pos (by simp [(of_closer? hpair).2.2.2.1])

theorem nested_of_brackets_nil (h : brackets text = []) : Nested (fun _ => True) text := by
  refine .of_forall fun x hx => ⟨nesting_eq_zero.2 ?_, trivial⟩
  have hnone := List.filter_eq_nil_iff.1 h x hx
  simpa [isOpener] using hnone

/-- The text between two brackets of a word comes with the word between them. -/
theorem exists_of_brackets_cons (h : brackets text = x :: w) :
    ∃ a b, text = a ++ x :: b ∧ Nested (fun _ => True) a ∧ brackets b = w := by
  obtain ⟨a, b, rfl, ha, -, hb⟩ := List.filter_eq_cons_iff.1 h
  exact ⟨a, b, rfl, nested_of_brackets_nil (List.filter_eq_nil_iff.2 ha), hb⟩

/-- A text is well nested when its brackets are, whatever stands between them. -/
theorem nested_iff_wellNested : Nested (fun _ => True) text ↔ WellNested (brackets text) := by
  constructor
  · intro h
    generalize hout : (fun _ : Char => True) = out at h
    induction h with
    | nil => exact .nil
    | char hx _ _ ih =>
      rw [brackets_cons_of_nesting hx]
      exact ih hout
    | group hpair _ _ ihin ih =>
      rw [brackets_left hpair, brackets_append, brackets_right hpair]
      exact .group hpair (ihin rfl) (ih hout)
  · intro h
    generalize hw : brackets text = w at h
    induction h generalizing text with
    | nil => exact nested_of_brackets_nil hw
    | @group left right inside rest hpair _ _ ihin ih =>
      obtain ⟨front, behind, rfl, hfront, hbehind⟩ := exists_of_brackets_cons hw
      obtain ⟨a, b, rfl, ha, hb⟩ := List.filter_eq_append_iff.1 hbehind
      obtain ⟨gap, after, rfl, hgap, hafter⟩ := exists_of_brackets_cons hb
      have hgroup := @Nested.group (fun _ => True) _ _ _ _ hpair ((ihin ha).append hgap) (ih hafter)
      rw [List.append_assoc] at hgroup
      exact hfront.append hgroup

/-! ## Texts with open brackets -/

/-- A text in which certain brackets are still to be closed, the innermost one first: between those that
open them everything is well nested. -/
inductive Unclosed : List Char → List Char → Prop
  | nested {a : List Char} : WellNested (brackets a) → Unclosed a []
  | opened {a b owed : List Char} {left right : Char} : Unclosed a owed → closer? left = some right →
      WellNested (brackets b) → Unclosed (a ++ left :: b) (right :: owed)

theorem Unclosed.append (h : Unclosed a owed) (hb : WellNested (brackets b)) :
    Unclosed (a ++ b) owed := by
  have hjoin : ∀ {a : List Char}, WellNested (brackets a) → WellNested (brackets (a ++ b)) :=
    fun ha => nested_iff_wellNested.1 ((nested_iff_wellNested.2 ha).append (nested_iff_wellNested.2 hb))
  cases h with
  | nested ha => exact .nested (hjoin ha)
  | opened ha hpair hc =>
    rw [List.append_assoc, List.cons_append]
    exact .opened ha hpair (hjoin hc)

/-- The bracket that is owed first closes what was opened last. -/
theorem Unclosed.close (h : Unclosed a (x :: owed)) : Unclosed (a ++ [x]) owed := by
  cases h with
  | @opened a b _ left _ ha hpair hb =>
    rw [List.append_assoc, List.cons_append]
    refine ha.append (nested_iff_wellNested.1 ?_)
    exact .group hpair (nested_iff_wellNested.2 hb) .nil

/-- A text can be read to its end, or up to a closing bracket that does not close what was opened last. -/
theorem unclosed_or_mismatch (text : List Char) : (∃ owed, Unclosed text owed) ∨
    ∃ a x after owed, text = a ++ x :: after ∧ Unclosed a owed ∧ isCloser x = true ∧
      owed.head? ≠ some x := by
  induction text using List.reverseRecOn with
  | nil => exact .inl ⟨[], .nested .nil⟩
  | append_singleton text x ih =>
    rcases ih with ⟨owed, h⟩ | ⟨a, y, after, owed, rfl, h⟩
    · cases hx : closer? x with
      | some right => exact .inl ⟨right :: owed, h.opened hx .nil⟩
      | none =>
        cases hcloser : isCloser x with
        | false =>
          refine .inl ⟨owed, h.append ?_⟩
          rw [brackets_cons_of_nesting (nesting_eq_zero.2 ⟨hx, hcloser⟩)]
          exact .nil
        | true =>
          by_cases hhead : owed.head? = some x
          · obtain ⟨rest, rfl⟩ := List.head?_eq_some_iff.1 hhead
            exact .inl ⟨rest, h.close⟩
          · exact .inr ⟨text, x, [], owed, rfl, h, hcloser, hhead⟩
    · exact .inr ⟨a, y, after ++ [x], owed, by simp, h⟩

/-- Behind a text with open brackets, what closes them is owed first. -/
theorem closeFrom_unclosed {first : List Char} (h : Unclosed a first) (howed : owed ≠ [])
    (cs : List Char) :
    closeFrom owed (a ++ cs) = (closeFrom (first ++ owed) cs).map (· + a.length) := by
  induction h generalizing cs with
  | nested ha => exact closeFrom_nested (nested_iff_wellNested.2 ha) howed cs
  | opened _ hpair hb ih =>
    rw [List.append_assoc, List.cons_append, ih, closeFrom_left hpair,
      closeFrom_nested (nested_iff_wellNested.2 hb) (List.cons_ne_nil _ _)]
    simp only [Option.map_map, List.length_append, List.length_cons, List.cons_append]
    congr 1
    funext n
    simp only [Function.comp]
    omega

theorem closer?_of_isCloser (h : isCloser x = true) : closer? x = none := by
  simp only [isCloser, Bool.or_eq_true, beq_iff_eq] at h
  rcases h with (rfl | rfl) | rfl <;> rfl

theorem closeFrom_mismatch (hcloser : isCloser x = true) (hhead : owed.head? ≠ some x)
    (cs : List Char) : closeFrom owed (x :: cs) = none := by
  rw [closeFrom.eq_def]
  simp only [closer?_of_isCloser hcloser, hcloser, if_true]
  cases owed with
  | nil => rfl
  | cons d owed =>
    have hne : x ≠ d := fun h => hhead (by rw [h]; rfl)
    simp [hne]

/-! ## Closing brackets -/

/-- The bracket at an index of a text is closed by the one at another index: the brackets from the one to
the other are a well-nested word between them. -/
def Closes (text : List Char) (o c : Nat) : Prop :=
  ∃ before left inside right after, text = before ++ left :: (inside ++ right :: after) ∧
    before.length = o ∧ o + inside.length + 1 = c ∧ closer? left = some right ∧
    WellNested (brackets inside)

/-- No bracket is opened at an index of a text. -/
def OpensNone (text : List Char) (o : Nat) : Prop := ∀ x, text[o]? = some x → closer? x = none

/-- Behind the bracket at an index comes a closing bracket that is not the one owed first there. -/
def Mismatched (text : List Char) (o : Nat) : Prop :=
  ∃ before left right a owed x after, text = before ++ left :: (a ++ x :: after) ∧ before.length = o ∧
    closer? left = some right ∧ Unclosed a owed ∧ isCloser x = true ∧ (owed ++ [right]).head? ≠ some x

/-- The text ends with the bracket at an index, and perhaps others behind it, still open. -/
def Unended (text : List Char) (o : Nat) : Prop :=
  ∃ before left right a owed, text = before ++ left :: a ∧ before.length = o ∧
    closer? left = some right ∧ Unclosed a owed

theorem findMatching_append (before cs : List Char) :
    findMatching (before ++ cs) before.length = (closing? cs).map (before.length + ·) := by
  rw [findMatching, List.drop_left]

theorem closing?_unclosed (hpair : closer? left = some right) (h : Unclosed a owed) (cs : List Char) :
    closing? (left :: (a ++ cs)) =
      (closeFrom (owed ++ [right]) cs).map fun n => n + a.length + 1 := by
  rw [closing?, hpair, Option.bind_some, closeFrom_unclosed h (List.cons_ne_nil _ _), Option.map_map]
  rfl

theorem Closes.findMatching_eq {o c : Nat} (h : Closes text o c) : findMatching text o = some c := by
  obtain ⟨before, left, inside, right, after, rfl, rfl, rfl, hpair, hinside⟩ := h
  rw [findMatching_append, closing?_group hpair (nested_iff_wellNested.2 hinside)]
  simp [Nat.add_assoc]

theorem OpensNone.findMatching_eq {o : Nat} (h : OpensNone text o) : findMatching text o = none := by
  unfold findMatching
  cases hdrop : text.drop o with
  | nil => rfl
  | cons x cs =>
    have hx : text[o]? = some x := by rw [← List.head?_drop, hdrop, List.head?_cons]
    rw [closing?, h x hx]
    rfl

theorem Mismatched.findMatching_eq {o : Nat} (h : Mismatched text o) : findMatching text o = none := by
  obtain ⟨before, left, right, a, owed, x, after, rfl, rfl, hpair, ha, hcloser, hhead⟩ := h
  rw [findMatching_append, closing?_unclosed hpair ha, closeFrom_mismatch hcloser hhead]
  rfl

theorem Unended.findMatching_eq {o : Nat} (h : Unended text o) : findMatching text o = none := by
  obtain ⟨before, left, right, a, owed, rfl, rfl, hpair, ha⟩ := h
  have hend := closing?_unclosed hpair ha []
  rw [List.append_nil] at hend
  rw [findMatching_append, hend, closeFrom]
  rfl

/-- A bracket is closed, or there is one of three reasons why it is not. -/
theorem closes_or_not (text : List Char) (o : Nat) :
    (∃ c, Closes text o c) ∨ OpensNone text o ∨ Mismatched text o ∨ Unended text o := by
  by_cases hnone : OpensNone text o
  · exact .inr (.inl hnone)
  · simp only [OpensNone, not_forall] at hnone
    obtain ⟨left, hleft, hopens⟩ := hnone
    obtain ⟨right, hpair⟩ := Option.ne_none_iff_exists'.1 hopens
    obtain ⟨hlt, rfl⟩ := List.getElem?_eq_some_iff.1 hleft
    have hsplit : text = text.take o ++ text[o] :: text.drop (o + 1) := by
      rw [← List.drop_eq_getElem_cons hlt, List.take_append_drop]
    have hlength : (text.take o).length = o := List.length_take_of_le (Nat.le_of_lt hlt)
    rcases unclosed_or_mismatch (text.drop (o + 1)) with
      ⟨owed, ha⟩ | ⟨a, x, after, owed, hbehind, ha, hcloser, hhead⟩
    · exact .inr (.inr (.inr ⟨_, _, right, _, owed, hsplit, hlength, hpair, ha⟩))
    · rw [hbehind] at hsplit
      by_cases hclose : (owed ++ [right]).head? = some x
      · -- nothing else is owed, so the bracket that was found closes the first one
        cases ha with
        | nested hinside =>
          obtain rfl : right = x := by simpa using hclose
          exact .inl ⟨_, _, _, _, _, _, hsplit, hlength, rfl, hpair, hinside⟩
        | opened _ _ _ => exact absurd (by simpa using hclose) hhead
      · exact .inr (.inr (.inl ⟨_, _, right, a, owed, x, after, hsplit, hlength, hpair, ha, hcloser,
          hclose⟩))

/-- The bracket that is found for the one at an index is the first that closes it, and none is found exactly
when none closes it: no bracket is opened there, or a closing bracket of the wrong kind comes first, or the
text ends first. -/
theorem findMatching_closes (text : List Char) (o : Nat) :
    (∀ c, findMatching text o = some c ↔ Closes text o c ∧ ∀ c' < c, ¬Closes text o c') ∧
    (findMatching text o = none ↔ ∀ c, ¬Closes text o c) ∧
    (findMatching text o = none ↔ OpensNone text o ∨ Mismatched text o ∨ Unended text o) := by
  have hreasons : OpensNone text o ∨ Mismatched text o ∨ Unended text o → findMatching text o = none := by
    rintro (h | h | h)
    · exact h.findMatching_eq
    · exact h.findMatching_eq
    · exact h.findMatching_eq
  refine ⟨fun c => ⟨fun hfound => ?_, fun h => h.1.findMatching_eq⟩, ⟨fun hnone c hc => ?_, fun h => ?_⟩,
    ⟨fun hnone => ?_, hreasons⟩⟩
  · have honly : ∀ {c'}, Closes text o c' → c' = c := fun h =>
      Option.some.inj (h.findMatching_eq.symm.trans hfound)
    rcases closes_or_not text o with ⟨c', hc'⟩ | h
    · obtain rfl := honly hc'
      exact ⟨hc', fun c' hlt h => absurd (honly h) (Nat.ne_of_lt hlt)⟩
    · rw [hreasons h] at hfound
      cases hfound
  · rw [hc.findMatching_eq] at hnone
    cases hnone
  · rcases closes_or_not text o with ⟨c, hc⟩ | hreason
    · exact absurd hc (h c)
    · exact hreasons hreason
  · rcases closes_or_not text o with ⟨c, hc⟩ | hreason
    · rw [hc.findMatching_eq] at hnone
      cases hnone
    · exact hreason

end RtlAtlas.Source
