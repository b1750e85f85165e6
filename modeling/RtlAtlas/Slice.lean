/-
Cutting a list before an index that may count from either end, the way limits on results are given.
-/
namespace RtlAtlas

/-- The part of a list before an index; a negative index counts from the end. -/
def takeTo {α : Type} (limit : Int) (xs : List α) : List α :=
  if 0 ≤ limit then xs.take limit.toNat else xs.take (xs.length - limit.natAbs)

theorem prefix_takeTo {α : Type} (limit : Int) (xs : List α) : takeTo limit xs <+: xs := by
  unfold takeTo
  split <;> exact List.take_prefix _ _

end RtlAtlas
