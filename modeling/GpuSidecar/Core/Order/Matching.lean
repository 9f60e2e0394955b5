import Mathlib.Combinatorics.Hall.Basic
import Mathlib.Data.List.Sublists

/-!
# Points for intervals

Intervals of a linear order, open on the left and closed on the right, whose ends are
ordered as their starts, and points. Every interval can be given a point of its own exactly
if no stretch of intervals outnumbers the points within its span. By the marriage theorem
one counts sets of intervals: a set with a point between its intervals splits into two that
reach disjoint points, and a set without one reaches every point of its span.
-/

namespace GpuSidecar.Matching

open Finset

section Intervals

variable {ι κ α : Type} [Fintype κ] [LinearOrder α] {s t : ι → α} {p : κ → α}

/-- The points within some interval of a set. -/
def reached (s t : ι → α) (p : κ → α) (A : Finset ι) : Finset κ :=
  {k | ∃ i ∈ A, s i < p k ∧ p k ≤ t i}

@[simp] theorem mem_reached {A : Finset ι} {k : κ} :
    k ∈ reached s t p A ↔ ∃ i ∈ A, s i < p k ∧ p k ≤ t i := by
  simp [reached]

theorem reached_mono {A B : Finset ι} (h : A ⊆ B) : reached s t p A ⊆ reached s t p B := by
  intro k hk
  obtain ⟨i, hi, hik⟩ := mem_reached.mp hk
  exact mem_reached.mpr ⟨i, h hi, hik⟩

/-- A point that a set misses separates the points it reaches. -/
theorem disjoint_reached {A : Finset ι} {k : κ} (hk : k ∉ reached s t p A) :
    Disjoint (reached s t p {i ∈ A | t i < p k}) (reached s t p {i ∈ A | ¬ t i < p k}) := by
  rw [Finset.disjoint_left]
  intro l hbelow habove
  obtain ⟨i, hi, -, hli⟩ := mem_reached.mp hbelow
  obtain ⟨j, hj, hjl, -⟩ := mem_reached.mp habove
  obtain ⟨-, hik⟩ := mem_filter.mp hi
  obtain ⟨hjA, hkj⟩ := mem_filter.mp hj
  have hstart : p k ≤ s j := not_lt.mp fun hlt =>
    hk (mem_reached.mpr ⟨j, hjA, hlt, not_lt.mp hkj⟩)
  exact absurd (hli.trans_lt hik) (not_lt.mpr (hstart.trans hjl.le))

variable [Fintype ι]

/-- No stretch of intervals outnumbers the points within its span. -/
def Spanned (s t : ι → α) (p : κ → α) : Prop :=
  ∀ i j, s i ≤ s j → #{k | s i ≤ s k ∧ s k ≤ s j} ≤ #{k | s i < p k ∧ p k ≤ t j}

/-- No set of intervals outnumbers the points that it reaches. -/
theorem Spanned.card_le_reached (h : Spanned s t p) (A : Finset ι) :
    #A ≤ #(reached s t p A) := by
  classical
  induction A using Finset.strongInduction with
  | H A ih =>
    obtain rfl | hne := A.eq_empty_or_nonempty
    · exact Nat.zero_le _
    obtain ⟨first, hfirst, hmin⟩ := A.exists_min_image s hne
    obtain ⟨last, hlast, hmax⟩ := A.exists_max_image s hne
    by_cases hgap : ∃ k, s first < p k ∧ p k ≤ t last ∧ k ∉ reached s t p A
    · obtain ⟨k, hlo, hhi, hk⟩ := hgap
      -- the first interval ends before the missed point, the last one does not
      have hbelow : t first < p k := not_le.mp fun hle =>
        hk (mem_reached.mpr ⟨first, hfirst, hlo, hle⟩)
      have hB := ih {i ∈ A | t i < p k} (filter_ssubset.mpr ⟨last, hlast, not_lt.mpr hhi⟩)
      have hC := ih {i ∈ A | ¬ t i < p k}
        (filter_ssubset.mpr ⟨first, hfirst, not_not.mpr hbelow⟩)
      calc #A = #{i ∈ A | t i < p k} + #{i ∈ A | ¬ t i < p k} :=
            (card_filter_add_card_filter_not _).symm
        _ ≤ #(reached s t p {i ∈ A | t i < p k}) + #(reached s t p {i ∈ A | ¬ t i < p k}) :=
            Nat.add_le_add hB hC
        _ = #(reached s t p {i ∈ A | t i < p k} ∪ reached s t p {i ∈ A | ¬ t i < p k}) :=
            (card_union_of_disjoint (disjoint_reached hk)).symm
        _ ≤ #(reached s t p A) := card_le_card
            (union_subset (reached_mono (filter_subset _ _)) (reached_mono (filter_subset _ _)))
    · push Not at hgap
      calc #A ≤ #{k | s first ≤ s k ∧ s k ≤ s last} := card_le_card fun i hi =>
            mem_filter.mpr ⟨mem_univ i, hmin i hi, hmax i hi⟩
        _ ≤ #{k | s first < p k ∧ p k ≤ t last} := h first last (hmin last hlast)
        _ ≤ #(reached s t p A) := card_le_card fun k hk =>
            hgap k (mem_filter.mp hk).2.1 (mem_filter.mp hk).2.2

/-- Intervals whose ends are ordered as their starts have points of their own if and only if
no stretch of them outnumbers the points within its span. -/
theorem exists_injective_iff_spanned (hends : ∀ i j, s i ≤ s j → t i ≤ t j) :
    (∃ f : ι → κ, Function.Injective f ∧ ∀ i, s i < p (f i) ∧ p (f i) ≤ t i) ↔
      Spanned s t p := by
  constructor
  · rintro ⟨f, hinj, hf⟩ i j -
    refine card_le_card_of_injOn f ?_ hinj.injOn
    intro k hk
    obtain ⟨-, hik, hkj⟩ := mem_filter.mp hk
    exact mem_filter.mpr ⟨mem_univ _, hik.trans_lt (hf k).1, (hf k).2.trans (hends k j hkj)⟩
  · intro h
    exact (Fintype.all_card_le_filter_rel_iff_exists_injective
      fun i k => s i < p k ∧ p k ≤ t i).mp h.card_le_reached

end Intervals

/-- The entries of a list with a property, counted by index. -/
theorem card_get {α : Type} (l : List α) (P : α → Prop) [DecidablePred P] :
    #{i : Fin l.length | P (l.get i)} = l.countP P := by
  have hget : ((List.finRange l.length).map l.get).countP P = l.countP P := by
    rw [List.map_get_finRange]
  rw [← hget, List.countP_map, List.countP_eq_length_filter]
  rfl

/-- Each entry of a list can be given an entry of another one, within its reach and its own,
if and only if no stretch of entries outnumbers those from its first one to the reach of its
last one. -/
theorem exists_injective_get_iff {α : Type} [LinearOrder α] {reach : α → α}
    (hreach : Monotone reach) (xs ys : List α) :
    (∃ f : Fin xs.length → Fin ys.length, Function.Injective f ∧
        ∀ i, xs.get i < ys.get (f i) ∧ ys.get (f i) ≤ reach (xs.get i)) ↔
      ∀ x ∈ xs, ∀ x' ∈ xs, x ≤ x' →
        xs.countP (fun z => x ≤ z ∧ z ≤ x') ≤ ys.countP (fun y => x < y ∧ y ≤ reach x') := by
  rw [exists_injective_iff_spanned (t := fun i => reach (xs.get i)) fun _ _ hle => hreach hle]
  simp only [Spanned, List.forall_mem_iff_get]
  refine forall₂_congr fun i j => imp_congr_right fun _ => ?_
  rw [card_get xs fun z => xs.get i ≤ z ∧ z ≤ xs.get j,
    card_get ys fun y => xs.get i < y ∧ y ≤ reach (xs.get j)]

end GpuSidecar.Matching
