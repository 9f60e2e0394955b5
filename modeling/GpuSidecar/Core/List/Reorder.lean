import Mathlib.Data.List.Forall2
import Mathlib.Data.List.Perm.Basic

/-!
# Reordering lists

A list is seen through a partial function, which drops some of its entries and maps the
others. Every order of what is seen is the view of an order of the list, in which the
dropped entries keep theirs.
-/

namespace GpuSidecar.Reorder

variable {α β : Type*} {f : α → Option β}

theorem filterMap_eq_of_forall₂ {xs : List α} {ys : List β}
    (h : List.Forall₂ (fun x y => f x = some y) xs ys) : xs.filterMap f = ys := by
  induction h with
  | nil => rfl
  | cons hx _ ih => rw [List.filterMap_cons_some hx, ih]

theorem forall₂_filterMap (xs : List α) :
    List.Forall₂ (fun x y => f x = some y) (xs.filter fun x => (f x).isSome)
      (xs.filterMap f) := by
  induction xs with
  | nil => exact List.Forall₂.nil
  | cons x xs ih =>
    cases hx : f x with
    | none => simpa [List.filter_cons, hx] using ih
    | some y => simpa [List.filter_cons, hx] using ih

theorem append_append_perm (as bs cs ds : List α) :
    (as ++ bs ++ (cs ++ ds)).Perm (as ++ cs ++ (bs ++ ds)) := by
  simpa using (List.perm_append_comm_assoc bs cs ds).append_left as

/-- Every order of a view comes from an order of the list, in which the entries that are not
seen keep theirs. -/
theorem exists_perm_filterMap {xs : List α} {ys : List β} (h : ys.Perm (xs.filterMap f)) :
    ∃ xs' : List α, xs'.Perm xs ∧ xs'.filterMap f = ys ∧
      ∀ p : α → Bool, (∀ x, p x = true → f x = none) → xs'.filter p = xs.filter p := by
  have hview : Relation.Comp (List.Forall₂ fun x y => f x = some y) List.Perm
      (xs.filter fun x => (f x).isSome) ys := ⟨_, forall₂_filterMap xs, h.symm⟩
  rw [List.forall₂_comp_perm_eq_perm_comp_forall₂] at hview
  obtain ⟨seen, hseen, hys⟩ := hview
  have hunseen : (xs.filter fun x => !(f x).isSome).filterMap f = [] := by
    rw [List.filterMap_eq_nil_iff]
    intro x hx
    simpa using (List.mem_filter.mp hx).2
  refine ⟨(xs.filter fun x => !(f x).isSome) ++ seen, ?_, ?_, ?_⟩
  · refine (hseen.symm.append_left _).trans (List.perm_append_comm.trans ?_)
    exact List.filter_append_perm (fun x => (f x).isSome) xs
  · rw [List.filterMap_append, hunseen, filterMap_eq_of_forall₂ hys, List.nil_append]
  · intro p hp
    have hnone : seen.filter p = [] := by
      rw [List.filter_eq_nil_iff]
      intro x hx hpx
      have hsome := (List.mem_filter.mp (hseen.mem_iff.mpr hx)).2
      rw [hp x hpx] at hsome
      cases hsome
    rw [List.filter_append, hnone, List.append_nil, List.filter_filter]
    refine List.filter_congr fun x _ => ?_
    cases hpx : p x with
    | false => rfl
    | true => rw [hp x hpx]; rfl

end GpuSidecar.Reorder
