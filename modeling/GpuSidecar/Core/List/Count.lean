import Mathlib.Algebra.BigOperators.Ring.Finset
import Mathlib.Data.Int.CardIntervalMod
import Mathlib.Data.Nat.Periodic

/-!
# Counting in lists

Counts that are compared, added up or taken of numbers: two counts of which one includes the
other agree only if they count the same, pairs are counted component by component, and as
many whole cycles of consecutive numbers as there are contain each residue once a cycle.
-/

namespace GpuSidecar.Counting

variable {α β : Type*}

/-- Two counts of which one includes the other agree if and only if they count the same. -/
theorem countP_eq_countP_iff {p q : α → Bool} {l : List α}
    (h : ∀ a ∈ l, q a = true → p a = true) :
    l.countP p = l.countP q ↔ ∀ a ∈ l, p a = true → q a = true := by
  have hinside : l.filter q = (l.filter p).filter q := by
    rw [List.filter_filter]
    refine List.filter_congr fun a ha => ?_
    cases hq : q a with
    | true => rw [h a ha hq, Bool.and_self]
    | false => rw [Bool.false_and]
  rw [List.countP_eq_length_filter, List.countP_eq_length_filter, hinside, eq_comm,
    List.length_filter_eq_length_iff]
  simp only [List.mem_filter, and_imp]

/-- Pairs are counted one first component at a time. -/
theorem countP_product (l : List α) (l' : List β) (p : α × β → Bool) :
    (l ×ˢ l').countP p = (l.map fun a => l'.countP fun b => p (a, b)).sum := by
  change (l.flatMap fun a => l'.map (Prod.mk a)).countP p = _
  rw [List.countP_flatMap]
  congr 1
  apply List.map_congr_left
  intro a _
  rw [Function.comp_apply, List.countP_map]
  rfl

/-- Where the values that some elements have are distinct, a value determines its element. -/
theorem eq_of_nodup_filterMap {f : α → Option β} {l : List α} (h : (l.filterMap f).Nodup)
    {a a' : α} (ha : a ∈ l) (ha' : a' ∈ l) {b : β} (hb : f a = some b) (hb' : f a' = some b) :
    a = a' := by
  by_contra hne
  have hpairs := List.pairwise_filterMap.mp h
  have hsymm : Std.Symm fun a a' => ∀ b, f a = some b → ∀ b', f a' = some b' → b ≠ b' :=
    ⟨fun a a' h b hb b' hb' heq => h b' hb' b hb heq.symm⟩
  exact hpairs.forall ha ha' hne b hb b hb' rfl

/-- The first numbers of `k` cycles contain each residue `k` times. -/
theorem count_residue {n p : ℕ} (hp : p < n) (k : ℕ) :
    (k * n).count (fun v => v % n = p) = k := by
  have hn : 0 < n := Nat.zero_lt_of_lt hp
  have hresidue : (fun v => v % n = p) = fun v => v ≡ p [MOD n] := by
    funext v
    rw [Nat.ModEq, Nat.mod_eq_of_lt hp]
  simp only [hresidue]
  rw [Nat.count_modEq_card _ hn, Nat.mul_div_cancel k hn, Nat.mul_mod_left,
    if_neg (Nat.not_lt_zero _), Nat.add_zero]

/-- Any `k` whole cycles of consecutive numbers contain each residue `k` times. -/
theorem countP_residue {n p : ℕ} (hp : p < n) {a k m : ℕ}
    (h : ∀ v, a ≤ v → v < a + k * n → v < m) :
    (List.range m).countP (fun v => decide ((a ≤ v ∧ v < a + k * n) ∧ v % n = p)) = k := by
  have hperiodic : Function.Periodic (fun v => v % n = p) (k * n) := by
    intro v
    simp only [Nat.add_mul_mod_self_right]
  have hwindow : (Finset.range m).filter (fun v => (a ≤ v ∧ v < a + k * n) ∧ v % n = p) =
      (Finset.Ico a (a + k * n)).filter fun v => v % n = p := by
    ext v
    simp only [Finset.mem_filter, Finset.mem_range, Finset.mem_Ico]
    exact ⟨fun hv => hv.2, fun hv => ⟨h v hv.1.1 hv.1.2, hv⟩⟩
  rw [List.countP_eq_length_filter, ← List.toFinset_card_of_nodup (List.nodup_range.filter _),
    List.toFinset_filter, List.toFinset_range]
  simp only [decide_eq_true_iff]
  rw [hwindow, Nat.filter_Ico_card_eq_of_periodic a _ _ hperiodic, count_residue hp]

end GpuSidecar.Counting
