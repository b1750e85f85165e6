/-
Identifiers of symbols tell symbols apart. An identifier joins the shown file, the name and the line
by colons; a name of a symbol has none, and different files are shown differently from one root, so
file, name and line can be read back from it.
-/
import Std.Data.String.ToInt
import RtlAtlas.Design
import RtlAtlas.Proofs.Path.Text

namespace RtlAtlas

/-! ## Showing a file from a root -/

namespace Path

theorem dropParts?_eq_some {lead parts rest : List String} :
    dropParts? lead parts = some rest ↔ parts = lead ++ rest := by
  induction lead generalizing parts with
  | nil => simp [dropParts?, eq_comm]
  | cons a lead ih =>
    cases parts with
    | nil => simp [dropParts?]
    | cons b parts =>
      by_cases h : a = b
      · subst h; simp [dropParts?, ih]
      · have h' : ¬b = a := fun e => h e.symm
        simp [dropParts?, h, h']

/-- The path whose text shows a file. -/
def shownPath (p base : Path) : Path := (p.relativeTo? base).getD p

theorem shownPath_cases (p base : Path) :
    (∃ rest, shownPath p base = ⟨.relative, rest⟩ ∧ p = ⟨base.anchor, base.parts ++ rest⟩) ∨
      shownPath p base = p := by
  unfold shownPath relativeTo?
  split
  · rename_i hanchor
    cases h : dropParts? base.parts p.parts with
    | none => exact Or.inr rfl
    | some rest => exact Or.inl ⟨rest, rfl, by rw [← hanchor, ← dropParts?_eq_some.1 h]⟩
  · exact Or.inr rfl

theorem Proper.shownPath {p : Path} (h : p.Proper) (base : Path) : (shownPath p base).Proper := by
  rcases shownPath_cases p base with ⟨rest, hr, rfl⟩ | hr
  · rw [hr]
    exact fun part hpart => h part (List.mem_append_right _ hpart)
  · rw [hr]; exact h

/-- Different absolute files are shown differently from the same root. -/
theorem shownFrom_injective {p q base : Path} (hp : p.Proper) (hq : q.Proper)
    (hpa : p.isAbsolute = true) (hqa : q.isAbsolute = true)
    (h : p.shownFrom base = q.shownFrom base) : p = q := by
  have hs : shownPath p base = shownPath q base :=
    text_injective (hp.shownPath base) (hq.shownPath base) h
  rcases shownPath_cases p base with ⟨rest, hr, rfl⟩ | hr <;>
    rcases shownPath_cases q base with ⟨rest', hr', rfl⟩ | hr' <;>
    rw [hr, hr'] at hs
  · obtain rfl : rest = rest' := (Path.mk.injEq .. ▸ hs).2
    rfl
  · -- an absolute path is not shown as a relative one
    subst hs
    cases hqa
  · subst hs
    cases hpa
  · exact hs

end Path

/-! ## Reading an identifier back -/

theorem Text.append_colon_inj {xs xs' ys ys' : List Char} (hy : ':' ∉ ys) (hy' : ':' ∉ ys')
    (h : xs ++ ':' :: ys = xs' ++ ':' :: ys') : xs = xs' ∧ ys = ys' := by
  rcases List.append_eq_append_iff.1 h with ⟨zs, rfl, hz⟩ | ⟨zs, rfl, hz⟩
  · cases zs with
    | nil => simpa using hz
    | cons z zs =>
      rw [List.cons_append, List.cons.injEq] at hz
      exact absurd (hz.2 ▸ List.mem_append_right _ List.mem_cons_self) hy
  · cases zs with
    | nil => simpa [eq_comm] using hz
    | cons z zs =>
      rw [List.cons_append, List.cons.injEq] at hz
      exact absurd (hz.2 ▸ List.mem_append_right _ List.mem_cons_self) hy'

theorem Text.colon_notMem_repr (n : Nat) : ':' ∉ n.repr.toList := by
  intro h
  rw [Nat.repr, String.toList_ofList] at h
  exact absurd (Nat.isDigit_of_mem_toDigits (by decide) (by decide) h) (by decide)

theorem Text.colon_notMem_int (n : Int) : ':' ∉ (toString n).toList := by
  cases n with
  | ofNat n => exact Text.colon_notMem_repr n
  | negSucc n =>
    show ':' ∉ ("-" ++ (n + 1).repr).toList
    rw [String.toList_append, List.mem_append, not_or]
    exact ⟨by decide, Text.colon_notMem_repr (n + 1)⟩

namespace Symbol

theorem toList_idOf (repo file : Path) (name : String) (line : Int) :
    (idOf repo file name line).toList =
      ((file.shownFrom repo).toList ++ ':' :: name.toList) ++ ':' :: (toString line).toList := by
  unfold idOf
  simp only [toString, String.toList_append, List.append_assoc]
  rfl

/-- An identifier belongs to one file, one name and one line, if names have no colon. -/
theorem idOf_inj {repo file file' : Path} {name name' : String} {line line' : Int}
    (hf : file.Proper) (hf' : file'.Proper) (ha : file.isAbsolute = true) (ha' : file'.isAbsolute = true)
    (hn : ':' ∉ name.toList) (hn' : ':' ∉ name'.toList) :
    idOf repo file name line = idOf repo file' name' line' ↔
      file = file' ∧ name = name' ∧ line = line' := by
  refine ⟨fun h => ?_, by rintro ⟨rfl, rfl, rfl⟩; rfl⟩
  rw [← String.toList_inj, toList_idOf, toList_idOf] at h
  -- the last colon stands before the line, the one before it before the name
  obtain ⟨hleft, hline⟩ := Text.append_colon_inj (Text.colon_notMem_int _) (Text.colon_notMem_int _) h
  obtain ⟨hfile, hname⟩ := Text.append_colon_inj hn hn' hleft
  exact ⟨Path.shownFrom_injective hf hf' ha ha' (String.toList_inj.1 hfile),
    String.toList_inj.1 hname, Int.repr_inj.1 (String.toList_inj.1 hline)⟩

end Symbol

end RtlAtlas
