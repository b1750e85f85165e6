/-
Values that correspond: options, lists and ordered maps whose parts are related. What is done alike to
two values that correspond gives values that correspond.
-/
import Mathlib.Data.List.Forall2
import RtlAtlas.OrderedMap

namespace RtlAtlas

/-! ## Options -/

section

variable {α β : Type} {R T : α → α → Prop} {S : β → β → Prop} {x x' y y' : Option α} {a a' : α}

theorem rel_mono (h : Option.Rel R x x') (hle : ∀ a a', R a a' → T a a') : Option.Rel T x x' := by
  cases h with
  | none => exact .none
  | some h => exact .some (hle _ _ h)

theorem rel_map {f f' : α → β} (h : Option.Rel R x x') (hf : ∀ a a', R a a' → S (f a) (f' a')) :
    Option.Rel S (x.map f) (x'.map f') := by
  cases h with
  | none => exact .none
  | some h => exact .some (hf _ _ h)

theorem rel_bind {f f' : α → Option β} (h : Option.Rel R x x')
    (hf : ∀ a a', R a a' → Option.Rel S (f a) (f' a')) : Option.Rel S (x.bind f) (x'.bind f') := by
  cases h with
  | none => exact .none
  | some h => exact hf _ _ h

theorem rel_or (hx : Option.Rel R x x') (hy : Option.Rel R y y') :
    Option.Rel R (x.or y) (x'.or y') := by
  cases hx with
  | none => exact hy
  | some h => exact .some h

theorem rel_getD (h : Option.Rel R x x') (ha : R a a') : R (x.getD a) (x'.getD a') := by
  cases h with
  | none => exact ha
  | some h => exact h

theorem rel_findSome? {f f' : β → Option α} : ∀ {xs : List β},
    (∀ b ∈ xs, Option.Rel R (f b) (f' b)) → Option.Rel R (xs.findSome? f) (xs.findSome? f')
  | [], _ => .none
  | b :: bs, h => by
    have hb := h b (List.mem_cons_self ..)
    have hbs := rel_findSome? fun c hc => h c (List.mem_cons_of_mem _ hc)
    rw [List.findSome?_cons, List.findSome?_cons]
    generalize f b = y, f' b = y' at hb
    cases hb with
    | none => exact hbs
    | some hb => exact .some hb

end

/-! ## Lists -/

section

variable {α β : Type} {R : α → α → Prop} {S : β → β → Prop} {as as' : List α}

/-- The elements that correspond are elements. -/
theorem forall₂_mem (h : List.Forall₂ R as as') :
    List.Forall₂ (fun a a' => R a a' ∧ a ∈ as ∧ a' ∈ as') as as' := by
  induction h with
  | nil => exact .nil
  | cons ha _ ih =>
    exact .cons ⟨ha, List.mem_cons_self, List.mem_cons_self⟩ <| ih.imp fun _ _ h =>
      ⟨h.1, List.mem_cons_of_mem _ h.2.1, List.mem_cons_of_mem _ h.2.2⟩

theorem map_eq_of_forall₂ {f : α → β} (hf : ∀ a a', R a a' → f a = f a')
    (h : List.Forall₂ R as as') : as.map f = as'.map f := by
  induction h with
  | nil => rfl
  | cons ha _ ih => rw [List.map_cons, List.map_cons, hf _ _ ha, ih]

theorem filterMap_eq_of_forall₂ {f : α → Option β} (hf : ∀ a a', R a a' → f a = f a')
    (h : List.Forall₂ R as as') : as.filterMap f = as'.filterMap f := by
  induction h with
  | nil => rfl
  | cons ha _ ih => rw [List.filterMap_cons, List.filterMap_cons, hf _ _ ha, ih]

theorem flatMap_eq_of_forall₂ {f : α → List β} (hf : ∀ a a', R a a' → f a = f a')
    (h : List.Forall₂ R as as') : as.flatMap f = as'.flatMap f := by
  induction h with
  | nil => rfl
  | cons ha _ ih => rw [List.flatMap_cons, List.flatMap_cons, hf _ _ ha, ih]

theorem forall₂_zipIdx (h : List.Forall₂ R as as') :
    ∀ n : Nat, List.Forall₂ (fun p p' => R p.1 p'.1 ∧ p.2 = p'.2) (as.zipIdx n) (as'.zipIdx n) := by
  induction h with
  | nil => exact fun _ => .nil
  | cons ha _ ih => exact fun n => .cons ⟨ha, rfl⟩ (ih (n + 1))

end

/-! ## Ordered maps -/

namespace OrderedMap

variable {β : Type} {R : β → β → Prop}

/-- Two entries with the same key and values that correspond. -/
def SameKey (R : β → β → Prop) (e e' : String × β) : Prop := e.1 = e'.1 ∧ R e.2 e'.2

theorem forall₂_put {key : String} {value value' : β} (hvalue : R value value')
    {es es' : List (String × β)} (h : List.Forall₂ (SameKey R) es es') :
    List.Forall₂ (SameKey R) (put key value es) (put key value' es') := by
  induction h with
  | nil => exact .cons ⟨rfl, hvalue⟩ .nil
  | @cons e e' es es' he hes ih =>
    rw [put, put, he.1]
    split
    · exact .cons ⟨rfl, hvalue⟩ hes
    · exact .cons he ih

/-- Maps of lists that correspond have the same keys, and values that correspond. -/
theorem forall₂_ofList {es es' : List (String × β)} (h : List.Forall₂ (SameKey R) es es') :
    List.Forall₂ (SameKey R) (ofList es).entries (ofList es').entries := by
  have hfold : ∀ {m m' : OrderedMap String β}, List.Forall₂ (SameKey R) m.entries m'.entries →
      List.Forall₂ (SameKey R) (es.foldl (fun m e => m.insert e.1 e.2) m).entries
        (es'.foldl (fun m e => m.insert e.1 e.2) m').entries := by
    induction h with
    | nil => exact id
    | @cons e e' es es' he _ ih =>
      intro m m' hm
      rw [List.foldl_cons, List.foldl_cons, ← he.1]
      exact ih (forall₂_put he.2 hm)
  exact hfold .nil

theorem rel_get? {m m' : OrderedMap String β} (h : List.Forall₂ (SameKey R) m.entries m'.entries)
    (key : String) : Option.Rel R (m.get? key) (m'.get? key) := by
  obtain ⟨es⟩ := m
  obtain ⟨es'⟩ := m'
  unfold get?
  simp only at h ⊢
  induction h with
  | nil => exact .none
  | @cons e e' _ _ he _ ih =>
    rw [List.find?_cons, List.find?_cons, ← he.1]
    cases e.1 == key with
    | true => exact .some he.2
    | false => exact ih

end OrderedMap

end RtlAtlas
