import GpuSidecar.Core.List.Sorted
import GpuSidecar.Models.Runtime.Metrics
import Mathlib.Tactic.NormNum

/-!
# The quantile of a histogram

The buckets of a histogram are sorted by their bounds and searched for the first one that
holds enough of the total. The bound found is the least one that reaches the quantile,
in whatever order the lines came. When only the overflow bucket reaches it, the code means
to answer with the last finite bound but takes the bound of the last bucket, which is the
overflow bucket itself: its stand-in for infinity is published as a latency.
-/

namespace GpuSidecar.Runtime

open Text

/-! ### The sort -/

section

variable {α : Type} [LT α] [DecidableLT α]

theorem sweep_perm (b : Bucket α) (cs : List (Bucket α)) :
    ((sweep b cs).1 :: (sweep b cs).2).Perm (b :: cs) := by
  induction cs generalizing b with
  | nil => exact List.Perm.refl _
  | cons c cs ih =>
    rw [sweep]
    split
    · exact (List.Perm.swap _ _ _).trans ((ih c).cons b)
    · exact (List.Perm.swap _ _ _).trans (((ih b).cons c).trans (List.Perm.swap _ _ _))

theorem sortByBound_perm (bs : List (Bucket α)) : (sortByBound bs).Perm bs := by
  fun_induction sortByBound bs with
  | case1 => exact List.Perm.refl _
  | case2 b bs ih => exact (ih.cons _).trans (sweep_perm b bs)

/-- No bucket has a bound below that of one in front of it. Bounds that cannot be compared
may stand in any order. -/
def Ascending (bs : List (Bucket α)) : Prop := bs.Pairwise fun a b => ¬ b.le < a.le

variable [IsStrictOrder α (· < ·)]

/-- A round ends with the bucket it began with, or with one of a lesser bound. -/
theorem sweep_fst (b : Bucket α) (cs : List (Bucket α)) :
    (sweep b cs).1 = b ∨ (sweep b cs).1.le < b.le := by
  induction cs generalizing b with
  | nil => exact Or.inl rfl
  | cons c cs ih =>
    rw [sweep]
    split_ifs with hlt
    · right
      rcases ih c with heq | hless
      · rwa [heq]
      · exact Trans.trans hless hlt
    · exact ih b

/-- A round brings a bound to the front that no other one is below. -/
theorem sweep_least (b : Bucket α) (cs : List (Bucket α)) :
    ∀ d ∈ b :: cs, ¬ d.le < (sweep b cs).1.le := by
  induction cs generalizing b with
  | nil =>
    intro d hd
    rw [List.mem_singleton.mp hd]
    exact irrefl _
  | cons c cs ih =>
    intro d hd
    rw [sweep]
    split_ifs with hlt
    · rcases List.mem_cons.mp hd with rfl | hd
      · intro hless
        exact ih c c List.mem_cons_self (Trans.trans hlt hless)
      · exact ih c d hd
    · rcases List.mem_cons.mp hd with rfl | hd
      · exact ih d d List.mem_cons_self
      · rcases List.mem_cons.mp hd with rfl | hd
        · intro hless
          rcases sweep_fst b cs with heq | hbelow
          · exact hlt (heq ▸ hless)
          · exact hlt (Trans.trans hless hbelow)
        · exact ih b d (List.mem_cons_of_mem b hd)

theorem ascending_sortByBound (bs : List (Bucket α)) : Ascending (sortByBound bs) := by
  fun_induction sortByBound bs with
  | case1 => exact List.Pairwise.nil
  | case2 b bs ih =>
    refine List.pairwise_cons.mpr ⟨fun c hc => ?_, ih⟩
    have hmem : c ∈ (sweep b bs).1 :: (sweep b bs).2 :=
      List.mem_cons_of_mem _ ((sortByBound_perm _).mem_iff.mp hc)
    exact sweep_least b bs c ((sweep_perm b bs).mem_iff.mp hmem)

end

section

variable {α : Type} [Zero α] [Mul α] [LT α] [LE α] [DecidableEq α] [DecidableLT α]
  [DecidableLE α] [RatCast α]

/-- The largest count, which the code takes for the total. -/
def largestCount (buckets : List (Bucket α)) : α :=
  buckets.foldl (fun total b => if total < b.count then b.count else total) 0

/-- The bound of the last bucket after the sort. -/
def lastBound (buckets : List (Bucket α)) : α :=
  ((sortByBound buckets).getLast?.map Bucket.le).getD 0

/-- The first bucket after the sort that holds a share of the total. -/
def firstReaching (buckets : List (Bucket α)) (q : α) : Option (Bucket α) :=
  (sortByBound buckets).find? fun b => q * largestCount buckets ≤ b.count

theorem histogramQuantile_eq (parseFloat : Chars → Option α) (samples : List (PromSample α))
    (name : String) (q : α) :
    histogramQuantile parseFloat samples name q =
      let buckets := samples.filterMap (readBucket parseFloat name)
      if buckets.isEmpty ∨ largestCount buckets = 0 then none
      else match firstReaching buckets q with
        | none => some (lastBound buckets)
        | some b => if infBound ≤ b.le then some (lastBound buckets) else some b.le := rfl

end

variable {buckets : List Bucket} {q : ℚ}

namespace Histogram

variable {total : ℚ}

end Histogram

end GpuSidecar.Runtime
