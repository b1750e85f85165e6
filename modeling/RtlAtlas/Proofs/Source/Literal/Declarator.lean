/-
Declarators that hold literals. The name of a declarator is what stands at its end, so no literal takes
part in it. The place of the name is where it occurs last, be it in a literal: it is the same in both
texts if none of the places found lies in an exchanged one.
-/
import RtlAtlas.Proofs.Source.Declared
import RtlAtlas.Proofs.Source.Literal.Bracket
import RtlAtlas.Proofs.Source.Literal.Collapse

namespace RtlAtlas.Source

open RtlAtlas.Text

variable {places : Nat → Prop} {k i : Nat} {t t' : List Char}

/-! ## Names -/

/-- Texts of one length without square brackets. -/
structure NoSquare (w w' : List Char) : Prop where
  length_eq : w.length = w'.length
  left : ∀ x ∈ w, (x != '[' && x != ']') = true
  right : ∀ x ∈ w', (x != '[' && x != ']') = true

theorem Quiet.noSquare {w : List Char} (h : Quiet w) : ∀ x ∈ w, (x != '[' && x != ']') = true := by
  intro x hx
  have hopen := h.forall_ne (x := '[') (by decide) x hx
  have hclose := h.forall_ne (x := ']') (by decide) x hx
  rw [hopen, hclose]
  rfl

theorem NoSquare.reverse {w w' : List Char} (h : NoSquare w w') : NoSquare w.reverse w'.reverse :=
  ⟨by simpa using h.length_eq, by simpa using h.left, by simpa using h.right⟩

/-- The text in front of a dimension group, backwards. -/
theorem Exchange.dropDimension? (h : Exchange (fun _ => NoSquare) 0 t t') :
    Option.Rel (Exchange (fun _ => NoSquare) 0) (dropDimension? t) (dropDimension? t') := by
  have hblank := h.dropWhile (p := isBlank) (by decide)
  unfold Source.dropDimension?
  generalize t.dropWhile isBlank = u, t'.dropWhile isBlank = u' at hblank
  cases hblank with
  | nil => exact .none
  | literal => exact .none
  | @same _ x cs cs' hcs =>
    -- only a closing square bracket starts a dimension, and no literal holds one
    by_cases hx : x = ']'
    · subst hx
      have hinside := (hcs.takeWhile (p := fun c => c != '[' && c != ']')
        (fun _ _ _ hw => ⟨hw.left, hw.right⟩) (by decide)).2
      simp only
      generalize cs.dropWhile _ = v, cs'.dropWhile _ = v' at hinside
      cases hinside with
      | nil => exact .none
      | literal => exact .none
      | @same _ y ds ds' hds =>
        -- what it encloses ends at a bracket of either kind; the opening one closes the dimension
        by_cases hy : y = '['
        · subst hy
          exact .some ((hds.dropWhile (p := isBlank) (by decide)).shift 0)
        · split
          · exact absurd (List.cons.inj ‹_›).1 hy
          · split
            · exact absurd (List.cons.inj ‹_›).1 hy
            · exact .none
    · split
      · exact absurd (List.cons.inj ‹_›).1 hx
      · split
        · exact absurd (List.cons.inj ‹_›).1 hx
        · exact .none

theorem Exchange.dropDimensionsFrom : ∀ (fuel : Nat) {t t' : List Char},
    Exchange (fun _ => NoSquare) 0 t t' →
    Exchange (fun _ => NoSquare) 0 (dropDimensionsFrom fuel t) (dropDimensionsFrom fuel t')
  | 0, _, _, h => h
  | fuel + 1, t, t', h => by
    have hgroup := h.dropDimension?
    unfold Source.dropDimensionsFrom
    generalize Source.dropDimension? t = r, Source.dropDimension? t' = r' at hgroup
    cases hgroup with
    | none => exact h
    | some hrest => exact dropDimensionsFrom fuel hrest

/-- Exchanging literals keeps the name of a declarator. -/
theorem Exchange.declaredName_eq (h : Exchange (Swap places) k t t') :
    declaredName t = declaredName t' := by
  -- the name is read backwards, past dimension groups that hold whole literals
  have hhead := h.cut.trim
  have hback : Exchange (fun _ => NoSquare) 0 (Text.trim (cutTopLevel t '=')).reverse
      (Text.trim (cutTopLevel t' '=')).reverse := by
    have hsquare : Exchange (fun _ => NoSquare) _ _ _ :=
      hhead.mono fun _ _ _ hw => ⟨hw.length_eq, hw.left.noSquare, hw.right.noSquare⟩
    refine (hsquare.reverse 0).mono fun _ w w' hw => ?_
    simpa using hw.reverse
  have hlength := hhead.length_eq Swap.lengths
  have hlast := (Exchange.dropDimensionsFrom (Text.trim (cutTopLevel t '=')).length hback).takeWhile_eq
    (p := isIdentRest) (by decide)
  unfold declaredName lastIdentifier? dropDimensions
  rw [List.reverse_reverse, List.reverse_reverse, hlast, ← hlength]

theorem isIdentRest_of_isBlank {x : Char} (h : isBlank x = true) : isIdentRest x = false := by
  have htable : ∀ n ∈ blankRanges.flatMap fun r => List.range' r.1 (r.2 + 1 - r.1),
      isIdentRest (Char.ofNat n) = false := by decide +kernel
  obtain ⟨r, hr, hlow, hhigh⟩ := inRanges_iff.1 h
  have hmem : x.toNat ∈ blankRanges.flatMap fun r => List.range' r.1 (r.2 + 1 - r.1) := by
    refine List.mem_flatMap.2 ⟨r, hr, List.mem_range'_1.2 ?_⟩
    omega
  have := htable _ hmem
  rwa [Char.ofNat_toNat] at this

/-! ## The place of a name -/

theorem le_of_findLast? {needle : List Char} (hne : needle ≠ []) : ∀ {cs : List Char} {i j : Nat},
    findLast? needle cs = some i → needle <+: cs.drop j → j ≤ i
  | [], _, j, _, hp => by
    rw [List.drop_nil] at hp
    exact absurd (List.prefix_nil.1 hp) hne
  | c :: cs, i, 0, _, _ => Nat.zero_le i
  | c :: cs, i, j + 1, h, hp => by
    rw [List.drop_succ_cons] at hp
    obtain ⟨m, hm⟩ := exists_findLast? (hp.isInfix.trans (List.drop_suffix j cs).isInfix)
    rw [findLast?, hm] at h
    cases h
    exact Nat.succ_le_succ (le_of_findLast? hne hm hp)

section

variable {name : List Char} (hstarts : name.head?.any isIdentStart = true) (hname : IsName name)
include hstarts hname

theorem Exchange.prefix_drop (h : Exchange (Swap places) k t t') (hp : name <+: t.drop i)
    (hplace : places (k + i)) : name <+: t'.drop i ∧ Parts (Swap places) k t t' i := by
  obtain ⟨x, name, rfl⟩ := List.exists_cons_of_ne_nil (ne_nil_of_isIdentStart hstarts)
  have hquote : '"' ∉ x :: name := fun hm => absurd (hname _ hm) (by decide)
  have hx : t[i]? = some x := by
    obtain ⟨after, hafter⟩ := hp
    rw [← List.head?_drop, ← hafter]
    rfl
  have hparts := Parts.of_getElem? Swap.lengths h hx
    (fun he => hquote (he ▸ List.mem_cons_self)) fun j w w' hw hlow hhigh => by
      rcases hw.outside _ hplace with hout | hout <;> omega
  obtain ⟨after, hafter⟩ := hp
  have hback := hparts.back
  rw [← hafter] at hback
  obtain ⟨after', hafter', -⟩ := hback.of_append hquote
  exact ⟨⟨after', hafter'.symm⟩, hparts⟩

/-- A name occurs last at the same place, if neither place found lies in an exchanged text. -/
theorem Exchange.findLast?_eq (h : Exchange (Swap places) k t t')
    (hplace : places (k + (findLast? name t).getD 0))
    (hplace' : places (k + (findLast? name t').getD 0)) : findLast? name t = findLast? name t' := by
  have hne := ne_nil_of_isIdentStart hstarts
  -- what is found in one text stands at the same place in the other
  have hover : ∀ {u u' : List Char} {j : Nat}, Exchange (Swap places) k u u' →
      places (k + (findLast? name u).getD 0) → findLast? name u = some j → name <+: u'.drop j := by
    intro u u' j hu hpl hj
    rw [hj, Option.getD_some] at hpl
    exact (hu.prefix_drop hstarts hname (prefix_of_findLast? hj) hpl).1
  have hfinds : ∀ {u : List Char} {j : Nat}, name <+: u.drop j → ∃ m, findLast? name u = some m :=
    fun hp => exists_findLast? (hp.isInfix.trans (List.drop_suffix _ _).isInfix)
  cases hi : findLast? name t with
  | none =>
    cases hj : findLast? name t' with
    | none => rfl
    | some j =>
      obtain ⟨m, hm⟩ := hfinds (hover h.symm hplace' hj)
      rw [hi] at hm
      cases hm
  | some i =>
    have hp := hover h hplace hi
    obtain ⟨j, hj⟩ := hfinds hp
    rw [hj]
    exact congrArg some (Nat.le_antisymm (le_of_findLast? hne hj hp)
      (le_of_findLast? hne hi (hover h.symm hplace' hj)))

theorem Exchange.nameOffset_eq (h : Exchange (Swap places) k t t')
    (hplace : places (k + nameOffset t name)) (hplace' : places (k + nameOffset t' name)) :
    nameOffset t name = nameOffset t' name :=
  congrArg (Option.getD · 0) (Exchange.findLast?_eq hstarts hname h.cut hplace hplace')

/-- The words in front of a name are the same up to literals. -/
theorem Exchange.typeBefore (h : Exchange (Swap places) k t t')
    (hplace : places (k + nameOffset t name)) (hplace' : places (k + nameOffset t' name)) :
    UpToLiterals (typeBefore t name) (typeBefore t' name) := by
  have hfind := Exchange.findLast?_eq hstarts hname h.cut hplace hplace'
  unfold nameOffset at hplace
  unfold Source.typeBefore
  simp only [← hfind]
  cases hi : findLast? name (cutTopLevel t '=') with
  | none => exact .nil
  | some i =>
    rw [hi] at hplace
    have hparts := (h.cut.prefix_drop hstarts hname (prefix_of_findLast? hi) hplace).2
    exact hparts.front.upToLiterals.collapse

end

end RtlAtlas.Source
