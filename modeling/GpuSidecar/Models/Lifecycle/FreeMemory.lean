import GpuSidecar.Models.Lifecycle.Machine

/-!
# The free memory ratio in the lifecycle machine

The machine compares the free memory ratio of an observation with its threshold after
everything else about a healthy probe has passed. A decision names the memory exactly if
the comparison was reached and found the ratio low, and another ratio changes nothing
unless the comparison is reached and comes out differently.
-/

namespace GpuSidecar.Lifecycle

namespace LifecycleMachine

/-- A healthy probe is classified by the free memory ratio: the device is not draining, its
score is not low, no error is new and its utilization is not high. -/
def Compares (m : LifecycleMachine) (o : LifecycleObservation) : Prop :=
  m.draining = false ∧ m.cfg.degradedScore ≤ o.stabilityScore ∧ o.newUncorrErrors = 0 ∧
    ¬ (o.utilSupported = true ∧ m.cfg.busyUtilPct ≤ o.utilPct)

theorem lowFreeMem_mem_classifyHealthy (m : LifecycleMachine) (o : LifecycleObservation) :
    reasonLowFreeMem ∈ (m.classifyHealthy o).2 ↔
      m.Compares o ∧ o.freeMemRatio ≤ m.cfg.busyMemRatio := by
  unfold classifyHealthy Compares
  split_ifs <;> simp_all [reasonLowFreeMem, reasonOperatorDrain, reasonLowStability,
    reasonUncorrErrors, reasonHighUtil, reasonHealthy, Nat.pos_iff_ne_zero]

theorem classifyHealthy_congr {m : LifecycleMachine} {o : LifecycleObservation} {ratio : ℚ}
    (h : m.Compares o →
      (ratio ≤ m.cfg.busyMemRatio ↔ o.freeMemRatio ≤ m.cfg.busyMemRatio)) :
    m.classifyHealthy { o with freeMemRatio := ratio } = m.classifyHealthy o := by
  unfold classifyHealthy
  split_ifs <;> simp_all [Compares]

theorem lowFreeMem_not_mem_hard {o : LifecycleObservation}
    (ho : o.probeFailReason ≠ reasonLowFreeMem) (m : LifecycleMachine) :
    reasonLowFreeMem ∉ (m.stepHard o).1.reasonCodes := by
  have hgone : reasonLowFreeMem ≠ reasonDeviceDisappeared := by decide
  have hvisible : reasonLowFreeMem ≠ reasonGPUNotVisible := by decide
  have hreasons : (m.stepHard o).1.reasonCodes = hardReasons o := rfl
  rw [hreasons, hardReasons]
  split_ifs <;> simp [hgone, hvisible, ho.symm]

theorem softReason_ne {o : LifecycleObservation} (ho : o.probeFailReason ≠ reasonLowFreeMem) :
    softReason o ≠ reasonLowFreeMem := by
  unfold softReason
  split_ifs
  · exact ho
  · decide
  · decide

theorem lowFreeMem_not_mem_soft {o : LifecycleObservation}
    (ho : o.probeFailReason ≠ reasonLowFreeMem) (m : LifecycleMachine) :
    reasonLowFreeMem ∉ (m.stepSoft o).1.reasonCodes := by
  have hsoft := (softReason_ne ho).symm
  have hthreshold : reasonLowFreeMem ≠ reasonOfflineThreshold := by decide
  have hhold : reasonLowFreeMem ≠ reasonRecoveryHold := by decide
  simp only [stepSoft]
  split_ifs <;> simp [enterOffline, hsoft, hthreshold, hhold]

theorem target_of_lowFreeMem {m : LifecycleMachine} {o : LifecycleObservation}
    (h : reasonLowFreeMem ∈ (m.classifyHealthy o).2) : (m.classifyHealthy o).1 = .busy := by
  revert h
  unfold classifyHealthy
  split_ifs <;> simp [reasonLowFreeMem, reasonOperatorDrain, reasonLowStability,
    reasonUncorrErrors, reasonHealthy]

theorem lowFreeMem_mem_stepLatched (m : LifecycleMachine) (o : LifecycleObservation) :
    reasonLowFreeMem ∈ (m.stepLatched o).1.reasonCodes ↔
      reasonLowFreeMem ∈ (m.classifyHealthy o).2 := by
  have hhold : reasonLowFreeMem ≠ reasonRecoveryHold := by decide
  have hmet : reasonLowFreeMem ≠ reasonRecoveryStreakMet := by decide
  have hbusy := @target_of_lowFreeMem m o
  have hclass : ({ m with recoveryHealthyStreak := m.recoveryHealthyStreak + 1 } :
      LifecycleMachine).classifyHealthy o = m.classifyHealthy o := rfl
  simp only [stepLatched, hclass]
  split_ifs with hdone htarget
  · simp [hmet]
  · simp [hhold]
  · exact iff_of_false (by simp [hhold]) fun hmem => htarget (Or.inr (hbusy hmem))

theorem lowFreeMem_mem_stepConfirm (m : LifecycleMachine) (o : LifecycleObservation) :
    reasonLowFreeMem ∈ (m.stepConfirm o).1.reasonCodes ↔
      reasonLowFreeMem ∈ (m.classifyHealthy o).2 := by
  simp only [stepConfirm]
  split_ifs <;> rfl

/-- A step is decided by the free memory ratio. -/
def ReachesMemory (m : LifecycleMachine) (o : LifecycleObservation) : Prop :=
  o.healthy = true ∧ m.state ≠ .offline ∧ m.Compares o

/-- A decision names the memory exactly if it was decided by a ratio below the threshold. -/
theorem lowFreeMem_mem_step {o : LifecycleObservation} (ho : o.probeFailReason ≠ reasonLowFreeMem)
    (m : LifecycleMachine) :
    reasonLowFreeMem ∈ (m.step o).1.reasonCodes ↔
      m.ReachesMemory o ∧ o.freeMemRatio ≤ m.cfg.busyMemRatio := by
  rw [step, ReachesMemory, and_assoc, and_assoc]
  by_cases hhard : o.hard = true
  · rw [if_pos hhard]
    exact iff_of_false (lowFreeMem_not_mem_hard ho m)
      (by simp [LifecycleObservation.healthy, hhard])
  by_cases hsoft : o.soft = true
  · rw [if_neg hhard, if_pos hsoft]
    exact iff_of_false (lowFreeMem_not_mem_soft ho m)
      (by simp [LifecycleObservation.healthy, hsoft])
  have hhealthy : o.healthy = true := by simp [LifecycleObservation.healthy, hhard, hsoft]
  rw [if_neg hhard, if_neg hsoft, ← lowFreeMem_mem_classifyHealthy, hhealthy, stepHealthy]
  by_cases hoff : m.state = .offline
  · simp only [hoff, if_true]
    simp [beginRecovery, reasonLowFreeMem, reasonRecoveryHold]
  · simp only [hoff, if_false, true_and, ne_eq, not_false_eq_true]
    split
    · exact lowFreeMem_mem_stepLatched _ o
    · exact lowFreeMem_mem_stepConfirm _ o

theorem stepHealthy_congr {m : LifecycleMachine} {o o' : LifecycleObservation}
    (hmono : o'.mono = o.mono)
    (h : m.state ≠ .offline → m.classifyHealthy o' = m.classifyHealthy o) :
    m.stepHealthy o' = m.stepHealthy o := by
  have hlatched : ∀ m' : LifecycleMachine, m'.classifyHealthy o' = m'.classifyHealthy o →
      m'.stepLatched o' = m'.stepLatched o := by
    intro m' h'
    have hstreak : ({ m' with recoveryHealthyStreak := m'.recoveryHealthyStreak + 1 } :
        LifecycleMachine).classifyHealthy o' =
      ({ m' with recoveryHealthyStreak := m'.recoveryHealthyStreak + 1 } :
        LifecycleMachine).classifyHealthy o := h'
    simp only [stepLatched, hstreak, hmono]
  have hconfirm : ∀ m' : LifecycleMachine, m'.classifyHealthy o' = m'.classifyHealthy o →
      m'.stepConfirm o' = m'.stepConfirm o := by
    intro m' h'
    simp only [stepConfirm, h']
  simp only [stepHealthy, beginRecovery, hmono]
  split
  · rfl
  · rename_i hoff
    split
    · exact hlatched _ (h hoff)
    · exact hconfirm _ (h hoff)

/-- Another ratio makes no difference unless it is compared and the comparison differs. -/
theorem step_congr {m : LifecycleMachine} {o : LifecycleObservation} {ratio : ℚ}
    (h : m.ReachesMemory o →
      (ratio ≤ m.cfg.busyMemRatio ↔ o.freeMemRatio ≤ m.cfg.busyMemRatio)) :
    m.step { o with freeMemRatio := ratio } = m.step o := by
  have hhard : ({ o with freeMemRatio := ratio } : LifecycleObservation).hard = o.hard := rfl
  have hsoft : ({ o with freeMemRatio := ratio } : LifecycleObservation).soft = o.soft := rfl
  rw [step, step, hhard, hsoft]
  split
  · rfl
  · rename_i hnot
    split
    · rfl
    · rename_i hnot'
      have hhealthy : o.healthy = true := by simp [LifecycleObservation.healthy, hnot, hnot']
      exact stepHealthy_congr rfl fun hoff =>
        classifyHealthy_congr fun hcompares => h ⟨hhealthy, hoff, hcompares⟩

end LifecycleMachine

end GpuSidecar.Lifecycle
