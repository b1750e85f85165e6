/-
Declarators without dimensions or values. The name such a declarator introduces is the identifier it
ends with, its type is what stands in front, and the name is found where it stands.
-/
import RtlAtlas.Proofs.Source.Nesting
import RtlAtlas.Proofs.Source.Reserved
import RtlAtlas.Source.Declarator

namespace RtlAtlas.Source

open RtlAtlas.Text

variable {out : Char → Prop} {lead name post : List Char}

/-! ## Words -/

theorem nesting_of_isPlain {x : Char} (h : isPlain x = true) : nesting x = 0 := by
  refine nesting_of_notMem fun hx => ?_
  have hall : ['(', '[', '{', ')', ']', '}'].all (!isPlain ·) = true := by decide
  have := List.all_eq_true.1 hall x hx
  rw [h] at this
  cases this

/-- A character that neither separates declarations nor ends one. -/
def Kept (x : Char) : Prop := x ≠ ',' ∧ x ≠ '='

instance : DecidablePred Kept := fun _ => inferInstanceAs (Decidable (_ ∧ _))

theorem kept_of_isPlain {x : Char} (h : isPlain x = true) : Kept x := by
  constructor <;> (rintro rfl; cases h)

theorem nested_plain {w : List Char} (h : ∀ x ∈ w, isPlain x = true) : Nested Kept w :=
  .of_forall fun x hx => ⟨nesting_of_isPlain (h x hx), kept_of_isPlain (h x hx)⟩

/-! ## Names and types -/

/-- Nothing is taken away from a text that does not end with a bracket or with white space. -/
theorem dropDimensionsFrom_of_head : ∀ (fuel : Nat) {backwards : List Char},
    (backwards.head?.any fun x => isBlank x || x == ']') = false →
    dropDimensionsFrom fuel backwards = backwards
  | 0, _, _ => rfl
  | fuel + 1, [], _ => rfl
  | fuel + 1, x :: cs, h => by
    obtain ⟨hblank, hbracket⟩ : isBlank x = false ∧ x ≠ ']' := by simpa using h
    have hnone : dropDimension? (x :: cs) = none := by
      unfold dropDimension?
      rw [List.dropWhile_cons_of_neg (by simp [hblank])]
      split
      · rename_i heq
        exact absurd (List.cons.inj heq).1 hbracket
      · rfl
    rw [dropDimensionsFrom, hnone]

theorem lastIdentifier?_append (hne : name ≠ []) (hname : ∀ x ∈ name, isIdentRest x = true)
    (hstart : name.head?.all isIdentStart = true) (hlead : lead.getLast?.any isIdentRest = false) :
    lastIdentifier? (lead ++ name) = some name := by
  have htake : (lead ++ name).reverse.takeWhile isIdentRest = name.reverse := by
    rw [List.reverse_append]
    exact takeWhile_run (by simpa using hname) (by simpa using hlead)
  cases name with
  | nil => exact absurd rfl hne
  | cons x name =>
    unfold lastIdentifier?
    rw [htake, List.reverse_reverse, List.dropWhile_cons_of_neg (by simpa using hstart)]

/-- White space in front of a name is all that trimming takes away. -/
theorem trim_append_plain (hne : name ≠ []) (hplain : ∀ x ∈ name, isPlain x = true) (lead : List Char) :
    trim (lead ++ name) = trimLeft lead ++ name := by
  have hname : name.dropWhile isBlank = name := by
    obtain ⟨x, cs, rfl⟩ := List.exists_cons_of_ne_nil hne
    exact List.dropWhile_cons_of_neg (by simp [isBlank_of_isPlain (hplain x (List.mem_cons_self ..))])
  have hleft : trimLeft (lead ++ name) = trimLeft lead ++ name := by
    unfold trimLeft
    rw [List.dropWhile_append]
    split
    · rename_i hempty
      rw [hname, List.isEmpty_iff.1 hempty, List.nil_append]
    · rfl
  have hlast : (trimLeft lead ++ name).getLast?.any isBlank = false := by
    rw [List.getLast?_append, List.getLast?_eq_some_getLast hne]
    exact isBlank_of_isPlain (hplain _ (List.getLast_mem hne))
  have hright := trimRight_append hlast (List.forall_mem_nil _)
  rw [List.append_nil] at hright
  rw [trim, hleft, hright]

theorem getLast?_trimLeft {p : Char → Bool} (h : lead.getLast?.any p = false) :
    (trimLeft lead).getLast?.any p = false := by
  rw [← List.takeWhile_append_dropWhile (p := isBlank) (l := lead), List.getLast?_append] at h
  unfold trimLeft
  cases hlast : (lead.dropWhile isBlank).getLast? with
  | none => rfl
  | some x => rwa [hlast] at h

/-- The name of a declarator is the identifier at its end. -/
theorem declaredName_append (hne : name ≠ []) (hplain : ∀ x ∈ name, isPlain x = true)
    (hstart : name.head?.all isIdentStart = true) (hfree : isKeyword name = false)
    (hnested : Nested out (lead ++ name)) (hout : ¬out '=')
    (hlead : lead.getLast?.any isIdentRest = false) : declaredName (lead ++ name) = some name := by
  have hend : (trimLeft lead ++ name).getLast? = some (name.getLast hne) := by
    rw [List.getLast?_append, List.getLast?_eq_some_getLast hne]
    rfl
  have hplainLast := hplain _ (List.getLast_mem hne)
  have hdimensions : dropDimensions (trimLeft lead ++ name) = trimLeft lead ++ name := by
    unfold dropDimensions
    rw [dropDimensionsFrom_of_head, List.reverse_reverse]
    rw [List.head?_reverse, hend]
    have hbracket : name.getLast hne ≠ ']' := fun he => by rw [he] at hplainLast; cases hplainLast
    simpa using ⟨isBlank_of_isPlain hplainLast, hbracket⟩
  unfold declaredName
  rw [cutTopLevel_nested hnested hout, trim_append_plain hne hplain, hdimensions,
    lastIdentifier?_append hne (fun x hx => isIdentRest_of_isPlain (hplain x hx)) hstart
      (getLast?_trimLeft hlead)]
  simp [hfree]

/-- The type of a declarator is what stands in front of its name. -/
theorem typeBefore_append (hne : name ≠ []) (hnested : Nested out (lead ++ name)) (hout : ¬out '=') :
    typeBefore (lead ++ name) name = collapse lead := by
  have hfind : findLast? name (lead ++ name) = some lead.length := by
    have := findLast?_append (a := lead) (b := []) hne (by simp)
    rwa [List.append_nil] at this
  unfold typeBefore
  simp only [cutTopLevel_nested hnested hout, hfind, List.take_left]

/-- The name is found where it stands, unless what follows it holds one of its characters. -/
theorem nameOffset_append (hne : name ≠ []) (hnested : Nested out (lead ++ (name ++ post)))
    (hout : ¬out '=') (hpost : ∀ x ∈ post, x ∉ name) :
    nameOffset (lead ++ (name ++ post)) name = lead.length := by
  unfold nameOffset
  rw [cutTopLevel_nested hnested hout, findLast?_append hne hpost, Option.getD_some]

end RtlAtlas.Source
