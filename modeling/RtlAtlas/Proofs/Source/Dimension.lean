/-
Declarators with dimensions. In front of its value a declarator ends with its name and the dimensions of
that; the place of the name and the type are then looked for anew, by the last occurrence of the name. So
they fit the declarator exactly when the name does not occur in its own dimensions as well.
-/
import RtlAtlas.Proofs.Source.Declared
import RtlAtlas.Proofs.Source.Literal.Declaration
import RtlAtlas.Source.Declarator

namespace RtlAtlas.Source

open RtlAtlas.Text

/-- White space and groups of square brackets, as they follow the name of a declarator. -/
inductive Dimensions : List Char → Prop
  | nil : Dimensions []
  | blank {x : Char} {cs : List Char} : isBlank x = true → Dimensions cs → Dimensions (x :: cs)
  | group {inside cs : List Char} : '[' ∉ inside → ']' ∉ inside → Dimensions cs →
      Dimensions ('[' :: (inside ++ ']' :: cs))

variable {declaration name before dims a b cs : List Char}

namespace Dimensions

theorem append (ha : Dimensions a) (hb : Dimensions b) : Dimensions (a ++ b) := by
  induction ha with
  | nil => exact hb
  | blank hx _ ih => exact .blank hx ih
  | group hopen hclose _ ih =>
    rw [List.cons_append, List.append_assoc, List.cons_append]
    exact .group hopen hclose ih

theorem of_blank : ∀ {cs : List Char}, (∀ x ∈ cs, isBlank x = true) → Dimensions cs
  | [], _ => .nil
  | x :: _, h =>
    .blank (h x List.mem_cons_self) (of_blank fun y hy => h y (List.mem_cons_of_mem _ hy))

/-- Dimensions do not go on a name. -/
theorem not_isIdentRest {x : Char} (h : Dimensions (x :: cs)) : isIdentRest x = false := by
  cases h with
  | blank hx _ => exact isIdentRest_of_isBlank hx
  | group => decide

/-- A closing bracket has an opening one in front of it. -/
theorem not_unopened : ∀ {w : List Char}, '[' ∉ w → ¬Dimensions (w ++ ']' :: cs)
  | [], _, h => by
    cases h with
    | blank hx _ => exact absurd hx (by decide)
  | x :: w, hw, h => by
    obtain ⟨hx, hw⟩ := List.ne_and_not_mem_of_not_mem_cons hw
    rw [List.cons_append] at h
    generalize hrest : w ++ ']' :: cs = rest at h
    cases h with
    | blank _ h => exact not_unopened hw (hrest ▸ h)
    | group => exact hx rfl

/-- No name stands among dimensions such that dimensions are all that follows it. -/
theorem no_name_within (hne : name ≠ []) (hname : IsName name) (hb : Dimensions b) {whole : List Char}
    (h : Dimensions whole) : ∀ {a : List Char}, whole ≠ a ++ (name ++ b) := by
  have hnot : ∀ {x : Char} {cs : List Char}, isIdentRest x = false → x :: cs ≠ name ++ b := by
    intro x cs hx heq
    cases name with
    | nil => exact hne rfl
    | cons y name =>
      obtain ⟨rfl, -⟩ := List.cons.inj heq
      exact absurd (hname x List.mem_cons_self) (by simp [hx])
  induction h with
  | nil =>
    intro a heq
    exact hne (List.append_eq_nil_iff.1 (List.append_eq_nil_iff.1 heq.symm).2).1
  | blank hx _ ih =>
    intro a heq
    cases a with
    | nil => exact hnot (isIdentRest_of_isBlank hx) heq
    | cons y a => exact ih (List.cons.inj heq).2
  | @group inside cs hopen hclose _ ih =>
    intro a heq
    cases a with
    | nil => exact hnot (by decide) heq
    | cons y a =>
      -- the name starts inside of the group, or behind its closing bracket
      rcases List.append_eq_append_iff.1 (List.cons.inj heq).2 with ⟨v, rfl, hv⟩ | ⟨v, rfl, hv⟩
      · cases v with
        | nil => exact hnot (by decide) hv
        | cons z v => exact ih (List.cons.inj hv).2
      · rcases List.append_eq_append_iff.1 hv with ⟨w, rfl, hw⟩ | ⟨w, rfl, hw⟩
        · rw [hw] at hb
          exact not_unopened (fun hin => hopen (by simp [hin])) hb
        · cases w with
          | nil => exact not_unopened (w := []) List.not_mem_nil ((List.nil_append b ▸ hw) ▸ hb)
          | cons z w =>
            obtain ⟨rfl, -⟩ := List.cons.inj hw
            exact absurd (hname ']' (by simp)) (by decide)

end Dimensions

/-! ## What stands behind the name -/

theorem reverse_dropWhile_append (p : Char → Bool) (cs : List Char) :
    (cs.dropWhile p).reverse ++ (cs.takeWhile p).reverse = cs.reverse := by
  rw [← List.reverse_append, List.takeWhile_append_dropWhile]

theorem Dimensions.of_takeWhile (cs : List Char) : Dimensions (cs.takeWhile isBlank).reverse :=
  .of_blank fun _ hx => List.mem_takeWhile_imp (List.mem_reverse.1 hx)

/-- A dimension group that is taken away is one, with the white space around it. -/
theorem dropDimension?_split {backwards rest : List Char} (h : dropDimension? backwards = some rest) :
    ∃ dims, Dimensions dims ∧ backwards.reverse = rest.reverse ++ dims := by
  unfold dropDimension? at h
  split at h
  · rename_i cs hclose
    split at h
    · rename_i inside hopen
      cases h
      have hclear : ∀ x ∈ (cs.takeWhile fun c => c != '[' && c != ']').reverse, x ≠ '[' ∧ x ≠ ']' :=
        fun x hx => by simpa using List.mem_takeWhile_imp (List.mem_reverse.1 hx)
      refine ⟨(inside.takeWhile isBlank).reverse ++ '[' ::
        ((cs.takeWhile fun c => c != '[' && c != ']').reverse ++
          ']' :: (backwards.takeWhile isBlank).reverse), (Dimensions.of_takeWhile inside).append
        (.group (fun hx => (hclear _ hx).1 rfl) (fun hx => (hclear _ hx).2 rfl)
          (.of_takeWhile backwards)), ?_⟩
      rw [← reverse_dropWhile_append isBlank backwards, hclose, List.reverse_cons,
        ← reverse_dropWhile_append (fun c => c != '[' && c != ']') cs, hopen, List.reverse_cons,
        ← reverse_dropWhile_append isBlank inside]
      simp only [List.append_assoc, List.cons_append, List.nil_append]
    · cases h
  · cases h

theorem dropDimensionsFrom_split : ∀ (fuel : Nat) (backwards : List Char), ∃ dims, Dimensions dims ∧
    backwards.reverse = (dropDimensionsFrom fuel backwards).reverse ++ dims
  | 0, _ => ⟨[], .nil, (List.append_nil _).symm⟩
  | fuel + 1, backwards => by
    unfold dropDimensionsFrom
    split
    · rename_i rest hrest
      obtain ⟨dims, hdims, hsplit⟩ := dropDimension?_split hrest
      obtain ⟨front, hfront, hmore⟩ := dropDimensionsFrom_split fuel rest
      exact ⟨front ++ dims, hfront.append hdims, by rw [hsplit, hmore, List.append_assoc]⟩
    · exact ⟨[], .nil, (List.append_nil _).symm⟩

/-- In front of its value a declarator ends with its name and the dimensions of that. -/
theorem declaredName_split (h : declaredName declaration = some name) :
    name.head?.any isIdentStart = true ∧ IsName name ∧ ∃ before dims,
      cutTopLevel declaration '=' = before ++ (name ++ dims) ∧ Dimensions dims := by
  obtain ⟨hstarts, hname, before, hbefore⟩ := lastIdentifier?_eq_some (Option.filter_eq_some_iff.1 h).1
  generalize cutTopLevel declaration '=' = head at hbefore
  obtain ⟨dims, hdims, hsplit⟩ := dropDimensionsFrom_split (trim head).length (trim head).reverse
  rw [List.reverse_reverse, ← dropDimensions, ← hbefore] at hsplit
  refine ⟨hstarts, hname, head.takeWhile isBlank ++ before,
    dims ++ ((trimLeft head).reverse.takeWhile isBlank).reverse, ?_, hdims.append (.of_takeWhile _)⟩
  have htrim : trimLeft head = trim head ++ ((trimLeft head).reverse.takeWhile isBlank).reverse := by
    rw [trim, trimRight, reverse_dropWhile_append, List.reverse_reverse]
  conv_lhs =>
    rw [← List.takeWhile_append_dropWhile (p := isBlank) (l := head), ← trimLeft, htrim, hsplit]
  simp only [List.append_assoc]

/-! ## Where the name is looked for -/

/-- Behind the name, how far on the name occurs again. -/
def recurrence (name dims : List Char) : Nat := ((findLast? name dims).map (name.length + ·)).getD 0

/-- The name is found at its own place, or further on if it occurs in the dimensions. -/
theorem findLast?_dimensions (hne : name ≠ []) (hname : IsName name) (hdims : Dimensions dims)
    (before : List Char) :
    findLast? name (before ++ (name ++ dims)) = some (before.length + recurrence name dims) := by
  unfold recurrence
  cases hagain : findLast? name dims with
  | some m =>
    have hnothing : ∀ x ∈ ([] : List Char), isBlank x = true := fun _ hx => nomatch hx
    have h := findLast?_within hne hname hnothing hagain (before ++ name)
    rwa [List.append_nil, List.append_assoc, List.length_append, Nat.add_assoc] at h
  | none =>
    rw [Option.map_none, Option.getD_none, Nat.add_zero]
    refine findLast?_eq_some (by simp) (by simp) fun j hj _ hp => ?_
    obtain ⟨k, rfl⟩ := Nat.exists_eq_add_of_lt hj
    rw [Nat.add_assoc, List.drop_append, List.drop_eq_nil_of_le (by omega), List.nil_append,
      Nat.add_sub_cancel_left, List.drop_append] at hp
    -- the dimensions do not hold the name, and the name does not go on into them
    by_cases hin : name.length ≤ k + 1
    · rw [List.drop_eq_nil_of_le hin, List.nil_append] at hp
      obtain ⟨m, hm⟩ := exists_findLast? (hp.isInfix.trans (List.drop_suffix _ _).isInfix)
      rw [hagain] at hm
      cases hm
    · rw [Nat.sub_eq_zero_of_le (by omega), List.drop_zero] at hp
      obtain ⟨v, hv⟩ : name.drop (k + 1) <+: name :=
        List.prefix_of_prefix_length_le (List.prefix_append _ _) hp (by simp)
      cases v with
      | nil =>
        have hlength := congrArg List.length hv
        rw [List.append_nil, List.length_drop] at hlength
        omega
      | cons x v =>
        conv at hp => lhs; rw [← hv]
        obtain ⟨rest, hrest⟩ := (List.prefix_append_right_inj _).1 hp
        rw [List.cons_append] at hrest
        have hclear : isIdentRest x = true := hname x (hv ▸ List.mem_append_right _ List.mem_cons_self)
        rw [(hrest ▸ hdims : Dimensions (x :: (v ++ rest))).not_isIdentRest] at hclear
        cases hclear

/-- A declarator in front of its value is what stands in front of its name, the name and the dimensions of
that. Where the name does not occur in the dimensions, its place is found, the type is what stands in
front, and dimensions are all that follows; where it does, a place in the dimensions is taken for the
place of the name, the type takes in what stands in front of it, and more than dimensions follows. -/
theorem declarator_fits_iff (h : declaredName declaration = some name) :
    let head := cutTopLevel declaration '='
    let offset := nameOffset declaration name
    (∃ before dims, head = before ++ (name ++ dims) ∧ Dimensions dims) ∧
    typeBefore declaration name = collapse (head.take offset) ∧
    ∀ before dims, head = before ++ (name ++ dims) → Dimensions dims →
      offset = before.length + recurrence name dims ∧
      (¬name <:+: dims → offset = before.length ∧ typeBefore declaration name = collapse before) ∧
      ((∃ after, head.drop offset = name ++ after ∧ Dimensions after) ↔ ¬name <:+: dims) := by
  obtain ⟨hstarts, hname, before, dims, hsplit, hdims⟩ := declaredName_split h
  have hne := ne_nil_of_isIdentStart hstarts
  unfold nameOffset typeBefore
  dsimp only
  generalize cutTopLevel declaration '=' = head at hsplit
  refine ⟨⟨before, dims, hsplit, hdims⟩, ?_, ?_⟩
  · rw [hsplit, findLast?_dimensions hne hname hdims]
    rfl
  clear hsplit hdims
  rintro before dims rfl hdims
  simp only [findLast?_dimensions hne hname hdims, Option.getD_some]
  -- the name does not recur, so the last time it is found is its own
  have hown : ¬name <:+: dims → recurrence name dims = 0 := fun hnot => by
    rw [recurrence, findLast?_eq_none fun j _ hp =>
      hnot (hp.isInfix.trans (List.drop_suffix j dims).isInfix)]
    rfl
  refine ⟨trivial, fun hnot => ?_, ?_, fun hnot => ⟨dims, ?_, hdims⟩⟩
  · rw [hown hnot, Nat.add_zero, List.take_left]
    exact ⟨rfl, rfl⟩
  · -- where it recurs it is found inside a dimension, and no dimensions follow there
    rintro ⟨after, hafter, hdimsAfter⟩ hin
    obtain ⟨m, hm⟩ := exists_findLast? hin
    rw [recurrence, hm, Option.map_some, Option.getD_some, ← Nat.add_assoc, ← List.length_append,
      ← List.append_assoc, List.drop_append, List.drop_eq_nil_of_le (Nat.le_add_right _ _),
      List.nil_append, Nat.add_sub_cancel_left] at hafter
    refine Dimensions.no_name_within hne hname hdimsAfter hdims (a := dims.take m) ?_
    rw [← hafter, List.take_append_drop]
  · rw [hown hnot, Nat.add_zero, List.drop_left]

/-- The name is found behind a type that holds it, and in front of dimensions that do not. -/
theorem declarator_fits_behindType :
    nameOffset "data_t [3:0] data [4] = 0".toList "data".toList = 13 ∧
    typeBefore "data_t [3:0] data [4] = 0".toList "data".toList = collapse "data_t [3:0] ".toList ∧
    ∃ after, (cutTopLevel "data_t [3:0] data [4] = 0".toList '=').drop 13 = "data".toList ++ after ∧
      Dimensions after := by
  have hname : declaredName "data_t [3:0] data [4] = 0".toList = some "data".toList := by decide +kernel
  have hgroup : Dimensions ('[' :: (['4'] ++ ']' :: [' '])) :=
    .group (by decide) (by decide) (.blank (by decide) .nil)
  have hdims : Dimensions " [4] ".toList := .blank (by decide) hgroup
  obtain ⟨-, -, hfits⟩ := declarator_fits_iff hname
  obtain ⟨-, hown, hiff⟩ := hfits "data_t [3:0] ".toList " [4] ".toList (by decide +kernel) hdims
  obtain ⟨hplace, htype⟩ := hown (by decide)
  have hoffset : nameOffset "data_t [3:0] data [4] = 0".toList "data".toList = 13 := hplace
  rw [hoffset] at hiff
  exact ⟨hoffset, htype, hiff.2 (by decide)⟩

/-- The name of an array is looked for in its dimension, and the type takes in the bracket in front. -/
theorem declarator_misfit :
    declaredName "wire a [a:0]".toList = some "a".toList ∧
    nameOffset "wire a [a:0]".toList "a".toList = 8 ∧
    typeBefore "wire a [a:0]".toList "a".toList = "wire a [".toList ∧
    ¬∃ after, (cutTopLevel "wire a [a:0]".toList '=').drop 8 = "a".toList ++ after ∧
      Dimensions after := by
  refine ⟨by decide +kernel, by decide +kernel, by decide +kernel, ?_⟩
  rintro ⟨after, hafter, hdims⟩
  obtain rfl : after = ":0]".toList := (List.append_cancel_left (hafter.symm.trans (by decide +kernel) :
    "a".toList ++ after = "a".toList ++ ":0]".toList))
  have hopen : '[' ∉ ":0".toList := by decide
  exact Dimensions.not_unopened hopen hdims

end RtlAtlas.Source
