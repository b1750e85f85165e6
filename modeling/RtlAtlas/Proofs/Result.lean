/-
Results of steps that may fail. A result that is a value came from a value at every step; errors that
the library tells of itself come from no step that has none of its own.
-/
import RtlAtlas.Error

namespace RtlAtlas

theorem Except.bind_eq_ok {ε α β : Type} {x : Except ε α} {f : α → Except ε β} {b : β}
    (h : (x >>= f) = .ok b) : ∃ a, x = .ok a ∧ f a = .ok b := by
  cases x with
  | error e => cases h
  | ok a => exact ⟨a, rfl, h⟩

theorem Except.map_eq_ok {ε α β : Type} {x : Except ε α} {f : α → β} {b : β} (h : x.map f = .ok b) :
    ∃ a, x = .ok a ∧ f a = b := by
  cases x with
  | error e => cases h
  | ok a =>
    cases h
    exact ⟨a, rfl, rfl⟩

theorem Except.eq_ok_of_toOption {ε α : Type} {x : Except ε α} {a : α} (h : x.toOption = some a) :
    x = .ok a := by
  cases x with
  | error e => cases h
  | ok b => exact congrArg Except.ok (Option.some.inj h)

/-- What goes wrong, if anything, is no error that the library tells of itself. -/
def Untold {α : Type} (x : Except Error α) : Prop := ∀ e, x = .error e → e.isTold = false

section Untold

variable {α β : Type}

theorem untold_ok (a : α) : Untold (.ok a : Except Error α) := fun _ h => by cases h

theorem untold_error {e : Error} (h : e.isTold = false) : Untold (.error e : Except Error α) :=
  fun _ he => by cases he; exact h

theorem Untold.bind {x : Except Error α} {f : α → Except Error β} (hx : Untold x)
    (hf : ∀ a, Untold (f a)) : Untold (x >>= f) := by
  cases x with
  | error e => exact untold_error (hx e rfl)
  | ok a => exact hf a

theorem Untold.map {x : Except Error α} (f : α → β) (hx : Untold x) : Untold (x.map f) :=
  hx.bind fun a => untold_ok (f a)

theorem untold_foldlM {γ : Type} {f : β → γ → Except Error β} (hf : ∀ b c, Untold (f b c)) :
    ∀ (cs : List γ) (b : β), Untold (cs.foldlM f b)
  | [], b => untold_ok b
  | c :: cs, b => (hf b c).bind fun _ => untold_foldlM hf cs _

end Untold

end RtlAtlas
