import GpuSidecar.Models.Lifecycle.Machine

/-!
# Outage control and its refinement by the machine

What decides whether a device counts as gone is much smaller than the machine:
the number of consecutive transient failures and the phase of the outage. This
file states that control on its own and proves that every step of the machine is
a step of the control, whatever hysteresis, reasons and drain flags do beside it.
The refinement rests on one invariant: the recovery latch is engaged exactly in
the offline and recovering states.
-/

namespace GpuSidecar.Lifecycle

open Time

/-- The phase of an outage. A recovery carries its start and the healthy probes so far. -/
inductive Phase where
  | serving
  | offline
  | recovering (startedAt : ℤ) (healthy : ℕ)
  deriving DecidableEq, Repr

/-- The part of a machine that decides about outages. -/
structure Control where
  /-- Consecutive transient failures up to now. -/
  softFailures : ℕ
  phase : Phase
  deriving DecidableEq, Repr

/-- A recovery ends once it was held long enough and saw enough healthy probes. -/
def LifecycleConfig.released (cfg : LifecycleConfig) (startedAt mono : ℤ) (healthy : ℕ) : Prop :=
  cfg.recoveringHoldSec ≤ seconds (mono - startedAt) ∧ cfg.recoveryStreak ≤ healthy

instance (cfg : LifecycleConfig) (startedAt mono : ℤ) (healthy : ℕ) :
    Decidable (cfg.released startedAt mono healthy) :=
  inferInstanceAs (Decidable (_ ∧ _))

/-- A transient failure interrupts a recovery's streak but does not end the recovery. -/
def Phase.interrupted : Phase → Phase
  | .serving => .serving
  | .offline => .offline
  | .recovering startedAt _ => .recovering startedAt 0

/-- A healthy probe starts, continues or ends a recovery. -/
def Phase.probed (cfg : LifecycleConfig) (mono : ℤ) : Phase → Phase
  | .serving => .serving
  | .offline => .recovering mono 1
  | .recovering startedAt healthy =>
    if cfg.released startedAt mono (healthy + 1) then .serving
    else .recovering startedAt (healthy + 1)

/-- Only an outage that was already running survives a transient failure as one. -/
theorem Phase.interrupted_eq_offline_iff (ph : Phase) :
    ph.interrupted = .offline ↔ ph = .offline := by
  cases ph <;> simp [Phase.interrupted]

/-- A healthy probe ends every outage. -/
theorem Phase.probed_ne_offline (cfg : LifecycleConfig) (mono : ℤ) (ph : Phase) :
    ph.probed cfg mono ≠ .offline := by
  cases ph with
  | serving => simp [Phase.probed]
  | offline => simp [Phase.probed]
  | recovering startedAt healthy =>
    rw [Phase.probed]
    split <;> simp

/-- One observation of the outage control. -/
def Control.step (cfg : LifecycleConfig) (c : Control) (o : LifecycleObservation) : Control :=
  if o.hard then ⟨0, .offline⟩
  else if o.soft then
    ⟨c.softFailures + 1,
      if cfg.offlineFailures ≤ (c.softFailures + 1 : ℕ) then .offline else c.phase.interrupted⟩
  else ⟨0, c.phase.probed cfg o.mono⟩

/-- An observation is exactly one of hard evidence, a transient failure and healthy. -/
theorem LifecycleObservation.kinds (o : LifecycleObservation) :
    (o.hard = true ∧ o.soft = false ∧ o.healthy = false) ∨
      (o.hard = false ∧ o.soft = true ∧ o.healthy = false) ∨
      (o.hard = false ∧ o.soft = false ∧ o.healthy = true) := by
  cases hhard : o.hard with
  | true => exact Or.inl ⟨rfl, by simp [soft, hhard], by simp [healthy, hhard]⟩
  | false =>
    right
    cases hsoft : o.soft with
    | true => exact Or.inl ⟨rfl, rfl, by simp [healthy, hsoft]⟩
    | false => exact Or.inr ⟨rfl, rfl, by simp [healthy, hhard, hsoft]⟩

/-- The control is offline after hard evidence, after the last tolerated failure, and after
every other failure if it was offline before. -/
theorem Control.step_offline_iff (cfg : LifecycleConfig) (c : Control)
    (o : LifecycleObservation) :
    (c.step cfg o).phase = .offline ↔ o.hard = true ∨
      o.soft = true ∧
        (cfg.offlineFailures ≤ (c.softFailures + 1 : ℕ) ∨ c.phase = .offline) := by
  rw [Control.step]
  rcases o.kinds with ⟨hhard, -⟩ | ⟨hhard, hsoft, -⟩ | ⟨hhard, hsoft, -⟩
  · simp [hhard]
  · simp only [hhard, hsoft, Bool.false_eq_true, if_false, if_true, false_or, true_and]
    split
    · next hthreshold => exact iff_of_true rfl (Or.inl hthreshold)
    · next hthreshold =>
      exact (Phase.interrupted_eq_offline_iff _).trans (or_iff_right hthreshold).symm
  · simp only [hhard, hsoft, Bool.false_eq_true, if_false, false_and, or_false, iff_false]
    exact Phase.probed_ne_offline _ _ _

namespace LifecycleMachine

/-- The phase that a machine's externally visible state and counters stand for. -/
def phase (m : LifecycleMachine) : Phase :=
  match m.state with
  | .offline => .offline
  | .recovering => .recovering m.recoveryStartedAt m.recoveryHealthyStreak
  | _ => .serving

/-- The outage control of a machine. -/
def control (m : LifecycleMachine) : Control := ⟨m.softFailures, m.phase⟩

/-- The latch is engaged exactly during an outage and the recovery from it. -/
def WellLatched (m : LifecycleMachine) : Prop :=
  m.recoveryLatched = true ↔ m.state = .offline ∨ m.state = .recovering

@[simp] theorem setDraining_control (m : LifecycleMachine) (d : Bool) :
    (m.setDraining d).control = m.control := rfl

@[simp] theorem setDraining_cfg (m : LifecycleMachine) (d : Bool) :
    (m.setDraining d).cfg = m.cfg := rfl

theorem WellLatched.setDraining {m : LifecycleMachine} (h : m.WellLatched) (d : Bool) :
    (m.setDraining d).WellLatched := h

/-- The checked setter writes the same flag as the plain one. -/
theorem setDrainingChecked_machine (m : LifecycleMachine) (d : Bool) :
    (m.setDrainingChecked d).1 = m.setDraining d := by
  unfold setDrainingChecked setDraining
  split
  · rename_i h
    rw [← h]
  · rfl

/-- A healthy classification never asks for an outage state. -/
theorem classifyHealthy_target (m : LifecycleMachine) (o : LifecycleObservation) :
    (m.classifyHealthy o).1 ≠ .offline ∧ (m.classifyHealthy o).1 ≠ .recovering := by
  unfold classifyHealthy
  split
  · decide
  split
  · decide
  split
  · decide
  split
  · decide
  split <;> decide

theorem phase_eq_serving_iff (m : LifecycleMachine) :
    m.phase = .serving ↔ m.state ≠ .offline ∧ m.state ≠ .recovering := by
  unfold phase
  cases m.state <;> simp

theorem phase_eq_offline_iff (m : LifecycleMachine) : m.phase = .offline ↔ m.state = .offline := by
  unfold phase
  cases m.state <;> simp

theorem phase_of_recovering {m : LifecycleMachine} (h : m.state = .recovering) :
    m.phase = .recovering m.recoveryStartedAt m.recoveryHealthyStreak := by
  simp only [phase, h]

theorem state_of_phase_recovering {m : LifecycleMachine} {startedAt : ℤ} {healthy : ℕ}
    (h : m.phase = .recovering startedAt healthy) : m.state = .recovering := by
  unfold phase at h
  cases hs : m.state <;> simp_all

/-! ### The branches of a step -/

section

variable {m : LifecycleMachine} {o : LifecycleObservation}

theorem step_of_hard (h : o.hard = true) : m.step o = m.stepHard o := by
  rw [step, if_pos h]

theorem step_of_soft (h : o.soft = true) : m.step o = m.stepSoft o := by
  have hhard : ¬ o.hard = true := by
    intro hhard
    simp [LifecycleObservation.soft, hhard] at h
  rw [step, if_neg hhard, if_pos h]

/-- The machine once a healthy probe is counted. -/
def counted (m : LifecycleMachine) : LifecycleMachine :=
  { m with softFailures := 0, healthyStreak := m.healthyStreak + 1 }

theorem step_of_healthy (h : o.healthy = true) : m.step o = m.stepHealthy o := by
  rw [LifecycleObservation.healthy, Bool.and_eq_true, Bool.not_eq_true', Bool.not_eq_true'] at h
  rw [step, h.1, h.2, if_neg Bool.false_ne_true, if_neg Bool.false_ne_true]

theorem step_of_offline (h : o.healthy = true) (hoff : m.state = .offline) :
    m.step o = m.counted.beginRecovery o := by
  rw [step_of_healthy h, stepHealthy]
  exact if_pos hoff

theorem step_of_latched (h : o.healthy = true) (hoff : m.state ≠ .offline)
    (hlatch : m.recoveryLatched = true) : m.step o = m.counted.stepLatched o := by
  rw [step_of_healthy h, stepHealthy]
  exact (if_neg hoff).trans (if_pos hlatch)

theorem step_of_open (h : o.healthy = true) (hoff : m.state ≠ .offline)
    (hopen : m.recoveryLatched = false) : m.step o = m.counted.stepConfirm o := by
  rw [step_of_healthy h, stepHealthy]
  exact (if_neg hoff).trans (if_neg (Bool.eq_false_iff.mp hopen))

end

/-- Steps never change the configuration. -/
theorem step_cfg (m : LifecycleMachine) (o : LifecycleObservation) : (m.step o).1.cfg = m.cfg := by
  unfold step stepHard stepSoft stepHealthy beginRecovery stepLatched stepConfirm enterOffline
  grind

/-- Hard evidence: the machine is offline at once. -/
theorem stepHard_control (m : LifecycleMachine) (o : LifecycleObservation) :
    (m.stepHard o).1.control = ⟨0, .offline⟩ ∧ (m.stepHard o).1.WellLatched := by
  simp [stepHard, enterOffline, control, phase, WellLatched]

/-- A transient failure counts, and the threshold decides about the outage. -/
theorem stepSoft_control {m : LifecycleMachine} (hm : m.WellLatched) (o : LifecycleObservation) :
    (m.stepSoft o).1.control = ⟨m.softFailures + 1,
        if m.cfg.offlineFailures ≤ (m.softFailures + 1 : ℕ) then .offline
        else m.phase.interrupted⟩ ∧
      (m.stepSoft o).1.WellLatched := by
  unfold WellLatched at hm
  unfold stepSoft
  dsimp only
  split
  · simp [enterOffline, control, phase, WellLatched]
  split
  · rename_i hoff
    simp [control, phase, WellLatched, hoff, hm, Phase.interrupted]
  split
  · rename_i hoff hlatch
    have hrec : m.state = .recovering := (hm.mp hlatch).resolve_left hoff
    simp [control, phase, WellLatched, hrec, hlatch, Phase.interrupted]
  · rename_i hoff hlatch
    have hserve : m.phase = .serving := by
      rw [phase_eq_serving_iff]
      exact ⟨hoff, fun hrec => hlatch (hm.mpr (Or.inr hrec))⟩
    rw [hserve]
    simp [control, phase, WellLatched, hlatch, Phase.interrupted]

/-- Confirmation hysteresis moves between serving states only. -/
theorem stepConfirm_state {m : LifecycleMachine} (hoff : m.state ≠ .offline)
    (hrec : m.state ≠ .recovering) (o : LifecycleObservation) :
    (m.stepConfirm o).1.state ≠ .offline ∧ (m.stepConfirm o).1.state ≠ .recovering := by
  have ht := classifyHealthy_target m o
  unfold stepConfirm
  grind

theorem stepConfirm_softFailures (m : LifecycleMachine) (o : LifecycleObservation) :
    (m.stepConfirm o).1.softFailures = m.softFailures := by
  unfold stepConfirm
  grind

theorem stepConfirm_recoveryLatched (m : LifecycleMachine) (o : LifecycleObservation) :
    (m.stepConfirm o).1.recoveryLatched = m.recoveryLatched := by
  unfold stepConfirm
  grind

/-- While latched, a healthy probe either releases the recovery or prolongs it. -/
theorem stepLatched_control {m : LifecycleMachine} (hrec : m.state = .recovering)
    (hlatch : m.recoveryLatched = true) (o : LifecycleObservation) :
    (m.stepLatched o).1.control = ⟨m.softFailures, m.phase.probed m.cfg o.mono⟩ ∧
      (m.stepLatched o).1.WellLatched := by
  have ht := classifyHealthy_target
    { m with recoveryHealthyStreak := m.recoveryHealthyStreak + 1 } o
  rw [phase_of_recovering hrec, Phase.probed]
  unfold stepLatched
  dsimp only
  split
  · rename_i hrel
    have hrel' : m.cfg.released m.recoveryStartedAt o.mono (m.recoveryHealthyStreak + 1) := hrel
    rw [if_pos hrel']
    refine ⟨?_, ?_⟩
    · simp only [control, Control.mk.injEq, true_and]
      exact (phase_eq_serving_iff _).mpr ht
    · exact iff_of_false Bool.false_ne_true (not_or.mpr ht)
  · rename_i hrel
    have hrel' : ¬ m.cfg.released m.recoveryStartedAt o.mono (m.recoveryHealthyStreak + 1) := hrel
    rw [if_neg hrel']
    simp [control, phase, WellLatched, hlatch]

/-- A healthy probe clears the failure count and moves the outage phase forward. -/
theorem stepHealthy_control {m : LifecycleMachine} (hm : m.WellLatched)
    (o : LifecycleObservation) :
    (m.stepHealthy o).1.control = ⟨0, m.phase.probed m.cfg o.mono⟩ ∧
      (m.stepHealthy o).1.WellLatched := by
  unfold WellLatched at hm
  unfold stepHealthy
  dsimp only
  split
  · rename_i hoff
    simp [beginRecovery, control, phase, WellLatched, hoff, hm, Phase.probed]
  split
  · rename_i hoff hlatch
    exact stepLatched_control (m := { m with
      softFailures := 0, healthyStreak := m.healthyStreak + 1 })
      ((hm.mp hlatch).resolve_left hoff) hlatch o
  · rename_i hoff hlatch
    have hrec : m.state ≠ .recovering := fun h => hlatch (hm.mpr (Or.inr h))
    have hs := stepConfirm_state (m := { m with
      softFailures := 0, healthyStreak := m.healthyStreak + 1 }) hoff hrec o
    have hphase : m.phase = .serving := (phase_eq_serving_iff m).mpr ⟨hoff, hrec⟩
    refine ⟨?_, ?_⟩
    · rw [hphase, control, stepConfirm_softFailures, (phase_eq_serving_iff _).mpr hs]
      rfl
    · rw [WellLatched, stepConfirm_recoveryLatched]
      exact iff_of_false hlatch (not_or.mpr hs)

/-- Every step of the machine is one step of the outage control. -/
theorem step_control {m : LifecycleMachine} (hm : m.WellLatched) (o : LifecycleObservation) :
    (m.step o).1.control = m.control.step m.cfg o ∧ (m.step o).1.WellLatched := by
  unfold step Control.step
  split
  · exact stepHard_control m o
  split
  · exact stepSoft_control hm o
  · exact stepHealthy_control hm o

/-- The reported flag is exactly a change of the visible state. -/
theorem step_transitioned (m : LifecycleMachine) (o : LifecycleObservation) :
    (m.step o).2 = (m.state != (m.step o).1.state) := by
  unfold step stepHard stepSoft stepHealthy beginRecovery stepLatched stepConfirm enterOffline
  grind

end LifecycleMachine

end GpuSidecar.Lifecycle
