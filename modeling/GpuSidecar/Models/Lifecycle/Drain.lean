import GpuSidecar.Models.Lifecycle.Control

/-!
# Operator drain

The operator's calls and the poll loop share one machine, and each call holds its
mutex, so a run is any sequence of the three calls. A step made while the drain flag
is set takes the device out of service at once, whatever was pending before; only a
failure or a recovery hides the drain.
-/

namespace GpuSidecar.Lifecycle

/-- A call on the machine. -/
inductive LifecycleCall where
  | setDraining (d : Bool)
  | setDrainingChecked (d : Bool)
  | step (o : LifecycleObservation)

namespace LifecycleMachine

def perform (m : LifecycleMachine) : LifecycleCall → LifecycleMachine
  | .setDraining d => m.setDraining d
  | .setDrainingChecked d => (m.setDrainingChecked d).1
  | .step o => (m.step o).1

/-- A draining machine classifies every healthy probe as draining. -/
theorem classifyHealthy_of_draining {m : LifecycleMachine} (h : m.draining = true)
    (o : LifecycleObservation) : m.classifyHealthy o = (.draining, [reasonOperatorDrain]) := by
  rw [classifyHealthy, if_pos h]

/-- Outside an outage the drain applies without confirmation. -/
theorem stepConfirm_of_draining {m : LifecycleMachine} (h : m.draining = true)
    (o : LifecycleObservation) : (m.stepConfirm o).1.state = .draining := by
  unfold stepConfirm
  rw [classifyHealthy_of_draining h]
  grind

/-- During a recovery the drain applies when the latch is released. -/
theorem stepLatched_of_draining {m : LifecycleMachine} (h : m.draining = true)
    (o : LifecycleObservation) :
    (m.stepLatched o).1.state = .draining ∨
      (m.stepLatched o).1.state = .recovering ∧
        (m.stepLatched o).1.recoveryLatched = m.recoveryLatched := by
  have hclass := classifyHealthy_of_draining (m := { m with
    recoveryHealthyStreak := m.recoveryHealthyStreak + 1 }) h o
  simp only [stepLatched, hclass]
  split
  · exact Or.inl rfl
  · exact Or.inr ⟨rfl, rfl⟩

/-- What one step makes of a drain. -/
structure DrainEffective (m : LifecycleMachine) (o : LifecycleObservation) : Prop where
  outOfService : (m.step o).1.state = .draining ∨ (m.step o).1.state = .degraded ∨
    (m.step o).1.state = .offline ∨ (m.step o).1.state = .recovering
  immediate : o.healthy = true → m.state ≠ .offline → m.recoveryLatched = false →
    (m.step o).1.state = .draining
  released : o.healthy = true → m.recoveryLatched = true →
    (m.step o).1.recoveryLatched = false → (m.step o).1.state = .draining

/-- A failure leaves no device in service. -/
theorem stepSoft_state (m : LifecycleMachine) (o : LifecycleObservation) :
    (m.stepSoft o).1.state = .degraded ∨ (m.stepSoft o).1.state = .offline ∨
      (m.stepSoft o).1.state = .recovering := by
  simp only [stepSoft]
  split
  · exact Or.inr (Or.inl rfl)
  split
  · next hoff => exact Or.inr (Or.inl hoff)
  split
  · exact Or.inr (Or.inr rfl)
  · exact Or.inl rfl

/-- A healthy step of a draining machine outside an outage. -/
theorem step_of_draining_open {m : LifecycleMachine} (h : m.draining = true)
    {o : LifecycleObservation} (hhealthy : o.healthy = true) (hoff : m.state ≠ .offline)
    (hopen : m.recoveryLatched = false) : (m.step o).1.state = .draining := by
  rw [step_of_open hhealthy hoff hopen]
  exact stepConfirm_of_draining (m := m.counted) h o

/-- A healthy step of a draining machine while the latch is engaged. -/
theorem step_of_draining_latched {m : LifecycleMachine} (h : m.draining = true)
    {o : LifecycleObservation} (hhealthy : o.healthy = true)
    (hlatch : m.recoveryLatched = true) :
    (m.step o).1.state = .draining ∨
      (m.step o).1.state = .recovering ∧ (m.step o).1.recoveryLatched = true := by
  by_cases hoff : m.state = .offline
  · rw [step_of_offline hhealthy hoff]
    exact Or.inr ⟨rfl, hlatch⟩
  · rw [step_of_latched hhealthy hoff hlatch]
    have hstate := stepLatched_of_draining (m := m.counted) h o
    exact hstate.imp_right fun hrec => ⟨hrec.1, hrec.2.trans hlatch⟩

/-- Every step of a draining machine makes the drain effective. -/
theorem step_of_draining {m : LifecycleMachine} (h : m.draining = true)
    (o : LifecycleObservation) : m.DrainEffective o := by
  refine ⟨?_, ?_, ?_⟩
  · rcases o.kinds with ⟨hhard, -⟩ | ⟨-, hsoft, -⟩ | ⟨-, -, hhealthy⟩
    · rw [step_of_hard hhard]
      exact Or.inr (Or.inr (Or.inl rfl))
    · rw [step_of_soft hsoft]
      exact Or.inr (stepSoft_state m o)
    · cases hlatch : m.recoveryLatched with
      | true =>
        rcases step_of_draining_latched h hhealthy hlatch with hdrain | ⟨hrec, -⟩
        · exact Or.inl hdrain
        · exact Or.inr (Or.inr (Or.inr hrec))
      | false =>
        by_cases hoff : m.state = .offline
        · rw [step_of_offline hhealthy hoff]
          exact Or.inr (Or.inr (Or.inr rfl))
        · exact Or.inl (step_of_draining_open h hhealthy hoff hlatch)
  · intro hhealthy hoff hopen
    exact step_of_draining_open h hhealthy hoff hopen
  · intro hhealthy hlatch hreleased
    rcases step_of_draining_latched h hhealthy hlatch with hdrain | ⟨-, hkept⟩
    · exact hdrain
    · rw [hreleased] at hkept
      cases hkept

end LifecycleMachine

/-- The machine after a sequence of calls. -/
def reached (cfg : LifecycleConfig) (calls : List LifecycleCall) : LifecycleMachine :=
  calls.foldl LifecycleMachine.perform (newLifecycleMachine cfg)

/-- After every sequence of calls that leaves the drain flag set, the next step makes the drain
effective. -/
theorem drain_effective (cfg : LifecycleConfig) (calls : List LifecycleCall)
    (h : (reached cfg calls).draining = true) (o : LifecycleObservation) :
    (reached cfg calls).DrainEffective o :=
  LifecycleMachine.step_of_draining h o

/-- A new device that is drained before its first probe. -/
theorem newDevice_drain_effective :
    ((reached defaultLifecycleConfig [.setDrainingChecked true]).step
      ⟨true, true, true, false, false, 0, true, 1, 1, 0, 0, ""⟩).1.state = .draining :=
  (drain_effective defaultLifecycleConfig [.setDrainingChecked true] rfl
    ⟨true, true, true, false, false, 0, true, 1, 1, 0, 0, ""⟩).immediate rfl (by decide) rfl

end GpuSidecar.Lifecycle
