/-
Procedures that write to a state step by step. A procedure that fails leaves behind what it has written
until then; so to say that a failure changes nothing is to say that it comes before all writes.
-/
import RtlAtlas.Error

namespace RtlAtlas

/-- A procedure on a state. What it has written stays written when it fails. -/
abbrev Procedure (σ α : Type) := ExceptT Error (StateM σ) α

namespace Procedure

variable {σ α β : Type} {s s' : σ}

/-- What a procedure answers, and the state that it leaves behind. -/
def on (p : Procedure σ α) (s : σ) : Except Error α × σ := p.run.run s

/-- Gives an answer, or fails, as something has that writes nothing. -/
def reply (x : Except Error α) : Procedure σ α :=
  match x with
  | .ok a => pure a
  | .error e => throw e

/-- What becomes of a procedure, without failing when it does. -/
def attempt (p : Procedure σ α) : Procedure σ (Except Error α) := fun s => (.ok (p.on s).1, (p.on s).2)

theorem on_bind (p : Procedure σ α) (f : α → Procedure σ β) (s : σ) :
    (p >>= f).on s = match p.on s with
      | (.ok a, s') => (f a).on s'
      | (.error e, s') => (.error e, s') := by
  show (ExceptT.bindCont f (p.on s).1).run (p.on s).2 = _
  rcases p.on s with ⟨_ | _, _⟩
  · rfl
  · rfl

theorem on_bind_of_ok {p : Procedure σ α} {a : α} (h : p.on s = (.ok a, s')) (f : α → Procedure σ β) :
    (p >>= f).on s = (f a).on s' := by
  rw [on_bind, h]

theorem on_pure (a : α) (s : σ) : (pure a : Procedure σ α).on s = (.ok a, s) := rfl

theorem on_get_bind (f : σ → Procedure σ α) (s : σ) : (get >>= f).on s = (f s).on s := rfl

theorem on_modify_bind (w : σ → σ) (f : Unit → Procedure σ α) (s : σ) :
    (modify w >>= f).on s = (f ()).on (w s) := rfl

theorem on_reply (x : Except Error α) (s : σ) : (reply x : Procedure σ α).on s = (x, s) := by
  cases x <;> rfl

theorem on_attempt (p : Procedure σ α) (s : σ) : (attempt p).on s = (.ok (p.on s).1, (p.on s).2) := rfl

/-- A procedure on each of some values, when what it does to the state is known. -/
theorem on_forM {p : α → Procedure σ Unit} {f : σ → α → σ} {P : σ → Prop}
    (hp : ∀ s a, P s → (p a).on s = (.ok (), f s a) ∧ P (f s a)) :
    ∀ (as : List α) {s : σ}, P s → (as.forM p).on s = (.ok (), as.foldl f s)
  | [], _, _ => rfl
  | a :: as, s, hs => by
    obtain ⟨hrun, hnext⟩ := hp s a hs
    show (p a >>= fun _ => as.forM p).on s = _
    rw [on_bind_of_ok hrun, on_forM hp as hnext, List.foldl_cons]

end Procedure

end RtlAtlas
