/-
A text without its comments. It agrees with the text place by place, but for the characters of comments:
those are spaces, line feeds excepted. So lines are kept, and whatever holds no space stands in the
text where it stands in the text without comments.
-/
import Mathlib.Data.List.Forall2
import RtlAtlas.Source.Comment
import RtlAtlas.Text.Line

namespace RtlAtlas.Source

open RtlAtlas.Text

/-- A character as it is read: itself, or a space in place of anything but a line feed. -/
def Blanks (read c : Char) : Prop := read = c ∨ read = ' ' ∧ c ≠ '\n'

theorem blanks_blanked (c : Char) : Blanks (blanked c) c := by
  unfold blanked
  split
  · rename_i h
    exact .inl (eq_of_beq h).symm
  · rename_i h
    exact .inr ⟨rfl, by simpa using h⟩

/-- Comments are blanked in place. -/
theorem forall₂_stripFrom (mode : Mode) (text : List Char) :
    List.Forall₂ Blanks (stripFrom mode text) text := by
  have hspace : ∀ {c : Char}, c ≠ '\n' → Blanks ' ' c := fun h => .inr ⟨rfl, h⟩
  fun_induction stripFrom mode text with
  | case1 => exact .nil
  | case2 cs ih => exact .cons (hspace (by decide)) (.cons (hspace (by decide)) ih)
  | case3 cs ih => exact .cons (hspace (by decide)) (.cons (hspace (by decide)) ih)
  | case4 c cs _ _ ih => exact .cons (.inl rfl) ih
  | case5 c cs ih => exact .cons (.inl rfl) (.cons (.inl rfl) ih)
  | case6 c cs _ ih => exact .cons (.inl rfl) ih
  | case7 c cs ih => exact .cons (blanks_blanked c) ih
  | case8 cs ih => exact .cons (hspace (by decide)) (.cons (hspace (by decide)) ih)
  | case9 c cs _ ih => exact .cons (blanks_blanked c) ih

theorem prefix_of_blanks {read cs : List Char} (h : List.Forall₂ Blanks read cs) : ∀ {name : List Char},
    ' ' ∉ name → name <+: read → name <+: cs := by
  induction h with
  | nil => exact fun _ hp => hp
  | @cons r c read cs hrc _ ih =>
    intro name hspace hp
    cases name with
    | nil => exact List.nil_prefix
    | cons x name =>
      obtain ⟨rfl, hrest⟩ := List.cons_prefix_cons.1 hp
      rw [List.mem_cons, not_or] at hspace
      obtain rfl : x = c := hrc.resolve_right fun hr => hspace.1 hr.1.symm
      exact (List.prefix_cons_inj x).2 (ih hspace.2 hrest)

theorem count_of_blanks {read cs : List Char} (h : List.Forall₂ Blanks read cs) :
    read.count '\n' = cs.count '\n' := by
  induction h with
  | nil => rfl
  | @cons r c read cs hrc _ ih =>
    rw [List.count_cons, List.count_cons, ih]
    rcases hrc with rfl | ⟨rfl, hc⟩
    · rfl
    · simp [hc]

/-- Blanking comments keeps the lines. -/
theorem count_stripFrom (mode : Mode) (text : List Char) :
    (stripFrom mode text).count '\n' = text.count '\n' :=
  count_of_blanks (forall₂_stripFrom mode text)

/-- Blanking comments keeps the lines of all places. -/
theorem lineOf_stripComments (text : List Char) (k : Nat) :
    lineOf (stripComments text) k = lineOf text k :=
  congrArg (· + 1) (count_of_blanks (List.forall₂_take k (forall₂_stripFrom .code text)))

/-- What stands in the text without comments and holds no space stands in the text. -/
theorem prefix_of_stripComments {text name : List Char} {k : Nat} (hspace : ' ' ∉ name)
    (h : name <+: (stripComments text).drop k) : name <+: text.drop k :=
  prefix_of_blanks (List.forall₂_drop k (forall₂_stripFrom .code text)) hspace h

end RtlAtlas.Source
