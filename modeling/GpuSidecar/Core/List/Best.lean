import Mathlib.Data.List.Basic

/-!
# The best element of a list

An element that is better than every other one. It is unique, and so the same for every
order of the list; a scan from left to right keeps it or replaces it by the next
element.
-/

namespace GpuSidecar.Choice

variable {α : Type*} {better : α → α → Prop} {l l' : List α} {a b : α}

/-- A member that is better than every other one. -/
def Best (better : α → α → Prop) (l : List α) (a : α) : Prop :=
  a ∈ l ∧ ∀ b ∈ l, b ≠ a → better a b

/-- There is at most one best element. -/
theorem Best.unique (hasymm : ∀ a b, better a b → ¬ better b a) (ha : Best better l a)
    (hb : Best better l b) : a = b := by
  by_contra hne
  exact hasymm a b (ha.2 b hb.1 (Ne.symm hne)) (hb.2 a ha.1 hne)

/-- The order of the list does not matter. -/
theorem Best.perm (h : l.Perm l') (ha : Best better l a) : Best better l' a :=
  ⟨h.mem_iff.mp ha.1, fun b hb => ha.2 b (h.mem_iff.mpr hb)⟩

/-- A next element that is better than all before it is the best one. -/
theorem best_concat (h : ∀ b ∈ l, better a b) : Best better (l ++ [a]) a := by
  refine ⟨by simp, ?_⟩
  intro b hb hne
  rcases List.mem_append.mp hb with hb | hb
  · exact h b hb
  · exact absurd (List.mem_singleton.mp hb) hne

/-- A next element that is better than the best one replaces it. -/
theorem Best.concat_of_better (htrans : ∀ a b c, better a b → better b c → better a c)
    (ha : Best better l a) (h : better b a) : Best better (l ++ [b]) b := by
  apply best_concat
  intro c hc
  by_cases hne : c = a
  · rwa [hne]
  · exact htrans b a c h (ha.2 c hc hne)

/-- A next element that the best one is better than leaves it in place. -/
theorem Best.concat (ha : Best better l a) (h : b ≠ a → better a b) :
    Best better (l ++ [b]) a := by
  refine ⟨List.mem_append_left _ ha.1, ?_⟩
  intro c hc hne
  rcases List.mem_append.mp hc with hc | hc
  · exact ha.2 c hc hne
  · obtain rfl := List.mem_singleton.mp hc
    exact h hne

end GpuSidecar.Choice
