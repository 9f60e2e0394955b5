import Mathlib.Data.List.Range
import Mathlib.Order.Lattice

/-!
# Elements against the maximum of the earlier ones

Receivers of numbered messages judge each number by the highest one before it. The
count of the numbers that stand in a given relation to that maximum grows with the
last number of a list only.
-/

namespace GpuSidecar.RunningMax

variable {α : Type*}

/-- The maximum of a longer list. -/
theorem max?_concat [Max α] (l : List α) (a : α) :
    (l ++ [a]).max? = some (l.max?.elim a fun m => max m a) := by
  cases l with
  | nil => rfl
  | cons b l => simp [List.max?_cons', List.foldl_append]

/-- How many elements stand in a relation to the maximum of all earlier ones. The first
element has no earlier ones. -/
def countAgainstMax [Max α] (p : α → α → Bool) (l : List α) : ℕ :=
  (List.range l.length).countP fun i => (l.take i).max?.any fun m => l[i]?.any (p m)

@[simp] theorem countAgainstMax_nil [Max α] (p : α → α → Bool) : countAgainstMax p [] = 0 := rfl

/-- The last element is counted by the maximum of the others. -/
theorem countAgainstMax_concat [Max α] (p : α → α → Bool) (l : List α) (a : α) :
    countAgainstMax p (l ++ [a]) =
      countAgainstMax p l + if l.max?.any fun m => p m a then 1 else 0 := by
  have hbefore : (List.range l.length).countP (fun i =>
      ((l ++ [a]).take i).max?.any fun m => (l ++ [a])[i]?.any (p m)) = countAgainstMax p l := by
    refine List.countP_congr fun i hi => ?_
    have hlt : i < l.length := List.mem_range.mp hi
    rw [List.take_append_of_le_length hlt.le, List.getElem?_append_left hlt]
  rw [countAgainstMax, List.length_append, List.length_singleton, List.range_succ,
    List.countP_append, hbefore, List.countP_singleton]
  simp

end GpuSidecar.RunningMax
