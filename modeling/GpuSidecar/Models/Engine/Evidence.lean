import GpuSidecar.Models.Engine.Adapters
import GpuSidecar.Models.Engine.Outages

/-!
# Hard evidence through the supervisor

The lifecycle machine takes a device that is not visible for gone unless the failure was
classified as soft. The supervisor classifies first: a sample without a class counts as a
soft failure whenever the device does not count as accessible, and with the access probe
off no device does that is not visible. A disappearance without a class is therefore hard
evidence only if an access probe reaches the device that the sample did not find. The
generic adapter's samples have no class and its access probe always fails, so its device
is never offline on hard evidence.
-/

namespace GpuSidecar.Engine

open Lifecycle Run

/-- The evidence of a sample alone: its class is hard, or the device is not visible and the
class is not soft. -/
def Health.HardEvidence (h : Health) : Prop :=
  h.probeFailure.failureClass = .hard ∨
    (h.gpuVisible = false ∧ h.probeFailure.failureClass ≠ .soft)

namespace Supervisor

/-- A poll treats the evidence of its sample as what it is, and a disappearance without a
class leaves the device offline on hard evidence. -/
structure HonoursEvidence (s : Supervisor) (exp : ℚ → ℚ) (ds : DeviceState) (p : Probe) : Prop where
  offline : p.sample.gpuVisible = false → p.sample.probeFailure.failureClass = .none →
    (s.pollDevice exp ds p).machine.state = .offline ∧
      (s.pollDevice exp ds p).machine.hardOffline = true
  hard : (s.observation exp ds p).hard = true ↔ p.sample.HardEvidence

/-- What the two layers make of a sample. -/
theorem observation_hard (s : Supervisor) (exp : ℚ → ℚ) (ds : DeviceState) (p : Probe) :
    (s.observation exp ds p).hard = true ↔
      p.sample.probeFailure.failureClass = .hard ∨
        (p.sample.gpuVisible = false ∧ p.sample.probeFailure.failureClass = .none ∧
          s.access p = true) := by
  have hhealth : (s.health p).probeFailure = p.sample.probeFailure := rfl
  cases hclass : p.sample.probeFailure.failureClass <;>
    simp [observation, lifecycleObservation, classifyFailure, LifecycleObservation.hard, hhealth,
      hclass]
  cases haccess : s.access p <;> simp [health, haccess]

/-- Hard evidence leaves the device offline at once. -/
theorem pollDevice_of_hard {s : Supervisor} {exp : ℚ → ℚ} {ds : DeviceState} {p : Probe}
    (h : (s.observation exp ds p).hard = true) :
    (s.pollDevice exp ds p).machine.state = .offline ∧
      (s.pollDevice exp ds p).machine.hardOffline = true := by
  rw [(s.pollDevice_outages exp ds p).1, LifecycleMachine.step, if_pos h]
  exact ⟨rfl, rfl⟩

/-- Without the access probe, a device that is not visible is not accessible. -/
theorem access_of_not_visible {s : Supervisor} {p : Probe} (h : p.sample.gpuVisible = false) :
    s.access p = true ↔ s.accessEach = true ∧ p.accessProbe = true := by
  cases heach : s.accessEach <;> simp [access, heach, h]

/-- A poll honours the evidence of its sample if and only if the device is visible, the
failure has a class, or an access probe reaches the device. -/
theorem honoursEvidence_iff (s : Supervisor) (exp : ℚ → ℚ) (ds : DeviceState) (p : Probe) :
    s.HonoursEvidence exp ds p ↔
      p.sample.gpuVisible = true ∨ p.sample.probeFailure.failureClass ≠ .none ∨
        (s.accessEach = true ∧ p.accessProbe = true) := by
  constructor
  · intro h
    by_contra hcond
    simp only [not_or, not_not, Bool.not_eq_true] at hcond
    obtain ⟨hvisible, hclass, haccess⟩ := hcond
    have hevidence : p.sample.HardEvidence := Or.inr ⟨hvisible, by simp [hclass]⟩
    have hhard := h.hard.mpr hevidence
    rw [observation_hard, hclass, access_of_not_visible hvisible] at hhard
    simp [haccess] at hhard
  · intro hcond
    have hhard : (s.observation exp ds p).hard = true ↔ p.sample.HardEvidence := by
      rw [observation_hard, Health.HardEvidence]
      cases hclass : p.sample.probeFailure.failureClass with
      | hard => simp
      | soft => simp
      | none =>
        refine or_congr_right (and_congr_right fun hvisible => ?_)
        rw [access_of_not_visible hvisible]
        simpa [hvisible, hclass] using hcond
    refine ⟨fun hvisible hclass => ?_, hhard⟩
    exact pollDevice_of_hard (hhard.mpr (Or.inr ⟨hvisible, by simp [hclass]⟩))

end Supervisor

/-! ### The generic adapter -/

/-- Only hard evidence marks an outage as hard. -/
theorem hardOffline_step {m : LifecycleMachine} {o : LifecycleObservation} (ho : o.hard = false)
    (hm : m.hardOffline = false) : (m.step o).1.hardOffline = false := by
  rw [LifecycleMachine.step, if_neg (by simp [ho])]
  split
  · simp only [LifecycleMachine.stepSoft]
    split_ifs <;> first | rfl | exact hm
  · simp only [LifecycleMachine.stepHealthy]
    split_ifs
    · exact hm
    · simp only [LifecycleMachine.stepLatched]
      split_ifs <;> exact hm
    · simp only [LifecycleMachine.stepConfirm]
      split_ifs <;> exact hm

/-- Turn `n` of a run with the generic adapter. -/
def genericTurn (calls : ℕ → List OperatorCall) (mono wall : ℕ → ℤ) (n : ℕ) : Turn :=
  ⟨calls n, mono n, wall n, genericSample, genericAccessProbe⟩

/-- A device of the generic adapter is never offline on hard evidence, although no sample ever
finds it. -/
theorem generic_never_hard (s : Supervisor) (exp : ℚ → ℚ) (deviceID : String)
    (calls : ℕ → List OperatorCall) (mono wall : ℕ → ℤ) (n : ℕ) :
    (s.deviceAt exp deviceID (genericTurn calls mono wall) n).machine.hardOffline = false := by
  refine stateAt_induction (P := fun _ (ds : DeviceState) => ds.machine.hardOffline = false) rfl
    (fun k hk => ?_) n
  have hsoft : ∀ ds, (s.observation exp ds (genericTurn calls mono wall k).probe).hard = false := by
    intro ds
    rw [← Bool.not_eq_true, s.observation_hard,
      Supervisor.access_of_not_visible (s := s) (p := (genericTurn calls mono wall k).probe) rfl]
    simp [genericTurn, genericSample, genericAccessProbe, markUnsupportedAll, Health.zero]
  obtain ⟨d, hd⟩ := (DeviceState.calls_outages _ (genericTurn calls mono wall k).calls).2
  rw [Supervisor.turn, (s.pollDevice_outages exp _ _).1]
  refine hardOffline_step (hsoft _) ?_
  rw [hd]
  exact hk

/-- The first poll of a host without vendor tools leaves its device degraded. -/
theorem generic_not_offline :
    genericSample.gpuVisible = false ∧ genericSample.probeFailure.failureClass = .none ∧
      (smallSupervisor.pollDevice (fun _ => 1) (smallSupervisor.init "0")
        ⟨0, 0, genericSample, genericAccessProbe⟩).machine.state = .degraded ∧
      (smallSupervisor.pollDevice (fun _ => 1) (smallSupervisor.init "0")
        ⟨0, 0, genericSample, genericAccessProbe⟩).machine.hardOffline = false := by
  decide +kernel

end GpuSidecar.Engine
