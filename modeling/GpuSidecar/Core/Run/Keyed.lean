import Mathlib.Data.List.Nodup
import Mathlib.Logic.Function.Basic

/-!
# Families of machines

A family holds a machine under each of its keys, and every action names the machine
that takes it. The machines do not disturb one another: in every run, each one goes
through the run of its own actions.
-/

namespace GpuSidecar.Run

variable {κ σ α β : Type*} [DecidableEq κ]

/-- An action of the machine under a key; without a machine there it does nothing. -/
def keyed (step : σ → α → σ) (m : κ → Option σ) (a : κ × α) : κ → Option σ :=
  Function.update m a.1 ((m a.1).map (step · a.2))

/-- The actions of the machine under a key, in order. -/
def actionsOf (k : κ) (as : List (κ × α)) : List α :=
  as.filterMap fun a => if a.1 = k then some a.2 else none

theorem actionsOf_cons (k : κ) (a : κ × α) (as : List (κ × α)) :
    actionsOf k (a :: as) = if a.1 = k then a.2 :: actionsOf k as else actionsOf k as := by
  by_cases h : a.1 = k <;> simp [actionsOf, h]

/-- Every machine of a family runs as if it were alone. -/
theorem foldl_keyed (step : σ → α → σ) (m : κ → Option σ) (as : List (κ × α)) (k : κ) :
    as.foldl (keyed step) m k = (m k).map fun s => (actionsOf k as).foldl step s := by
  induction as generalizing m with
  | nil => simp [actionsOf]
  | cons a as ih =>
    rw [List.foldl_cons, ih, actionsOf_cons, keyed]
    by_cases h : a.1 = k
    · subst h
      simp [Function.comp_def]
    · rw [Function.update_of_ne (Ne.symm h), if_neg h]

/-- Of the lists under distinct keys, joined in order, a test that tells the keys apart
selects one. -/
theorem filter_flatMap_of_nodup {keys : List κ} (hnodup : keys.Nodup) {f : κ → List β}
    {p : β → Bool} {k : κ} (hk : ∀ b ∈ f k, p b = true)
    (hother : ∀ k' ∈ keys, k' ≠ k → ∀ b ∈ f k', p b = false) :
    (keys.flatMap f).filter p = if k ∈ keys then f k else [] := by
  induction keys with
  | nil => rfl
  | cons k' keys ih =>
    obtain ⟨hfresh, hnodup⟩ := List.nodup_cons.mp hnodup
    have hrest := ih hnodup fun k'' hk'' => hother k'' (List.mem_cons_of_mem k' hk'')
    rw [List.flatMap_cons, List.filter_append, hrest]
    by_cases h : k' = k
    · subst h
      rw [if_neg hfresh, List.append_nil, if_pos List.mem_cons_self, List.filter_eq_self.mpr hk]
    · have hnone : (f k').filter p = [] :=
        List.filter_eq_nil_iff.mpr fun b hb => by
          simp [hother k' List.mem_cons_self h b hb]
      rw [hnone, List.nil_append]
      simp [Ne.symm h]

end GpuSidecar.Run
