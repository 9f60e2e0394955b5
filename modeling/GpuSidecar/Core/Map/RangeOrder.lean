import Mathlib.Data.List.AList

/-!
# Iteration over a finite map

A loop over a map visits every entry once, in an order that the language leaves
open and may change from one loop to the next. An iteration order is therefore an
argument of every function that runs such a loop. What a loop puts into another map
under distinct keys can be read back from it, whatever the order.
-/

namespace GpuSidecar.Map

/-- An order in which a loop over a map may visit its entries. -/
structure RangeOrder (α : Type*) where
  visit : List α → List α
  /-- Every entry is visited exactly once. -/
  perm : ∀ entries, (visit entries).Perm entries

/-- The order in which the entries happen to be stored. -/
def RangeOrder.stored (α : Type*) : RangeOrder α := ⟨id, fun _ => List.Perm.refl _⟩

section

variable {α γ : Type*} [DecidableEq α]

/-- The map that results from a list of writes; a later write to a key replaces an earlier one. -/
def writeAll (writes : List (α × γ)) : AList fun _ : α => γ :=
  writes.foldl (fun m w => m.insert w.1 w.2) ∅

/-- Writes to distinct keys can all be read back. -/
theorem lookup_writeAll {writes : List (α × γ)} (hnodup : (writes.map Prod.fst).Nodup) {k : α}
    {v : γ} : (writeAll writes).lookup k = some v ↔ (k, v) ∈ writes := by
  have hfold : ∀ (writes : List (α × γ)) (m : AList fun _ : α => γ),
      (writes.map Prod.fst).Nodup → (∀ w ∈ writes, m.lookup w.1 = none) →
        ((writes.foldl (fun m w => m.insert w.1 w.2) m).lookup k = some v ↔
          (k, v) ∈ writes ∨ m.lookup k = some v) := by
    intro writes
    induction writes with
    | nil => simp
    | cons w writes ih =>
      intro m hnodup hfresh
      obtain ⟨hw, hnodup⟩ := List.nodup_cons.mp hnodup
      have hne : ∀ w' ∈ writes, w'.1 ≠ w.1 := fun w' hw' he =>
        hw (he ▸ List.mem_map_of_mem hw')
      have hfresh' : ∀ w' ∈ writes, (m.insert w.1 w.2).lookup w'.1 = none := by
        intro w' hw'
        rw [AList.lookup_insert_ne (hne w' hw')]
        exact hfresh w' (List.mem_cons_of_mem w hw')
      rw [List.foldl_cons, ih _ hnodup hfresh', List.mem_cons]
      by_cases hk : k = w.1
      · subst hk
        have hmissing := hfresh w List.mem_cons_self
        rw [AList.lookup_insert, hmissing, Option.some_inj]
        have hnot : (w.1, v) ∉ writes := fun h => hne _ h rfl
        simp [hnot, Prod.ext_iff, eq_comm]
      · rw [AList.lookup_insert_ne hk]
        have hnot : (k, v) ≠ w := fun h => hk (congrArg Prod.fst h)
        simp [hnot]
  rw [writeAll, hfold writes ∅ hnodup fun _ _ => rfl]
  simp

/-- Writes to distinct keys leave one entry each. -/
theorem keys_writeAll {writes : List (α × γ)} (hnodup : (writes.map Prod.fst).Nodup) :
    (writeAll writes).keys.Perm (writes.map Prod.fst) := by
  refine (List.perm_ext_iff_of_nodup (writeAll writes).keys_nodup hnodup).mpr fun k => ?_
  rw [← AList.mem_keys, ← AList.lookup_isSome, Option.isSome_iff_exists, List.mem_map]
  constructor
  · rintro ⟨v, hv⟩
    exact ⟨(k, v), (lookup_writeAll hnodup).mp hv, rfl⟩
  · rintro ⟨⟨k, v⟩, hmem, rfl⟩
    exact ⟨v, (lookup_writeAll hnodup).mpr hmem⟩

end

end GpuSidecar.Map
