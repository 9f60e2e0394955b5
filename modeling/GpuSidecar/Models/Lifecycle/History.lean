import GpuSidecar.Core.Run.Indexed
import GpuSidecar.Models.Lifecycle.Control

/-!
# Lifecycle histories

A device is polled for ever, and an operator may set and clear its drain flag at
any time in between. This file reads the machine's hidden counters off the whole
observation history: the failure counter is the unbroken run of transient
failures, the offline state is a latch over the past, and a recovery carries the
poll at which it began. The two main results characterise, for every history,
when a device is offline and when a recovery ends.
-/

namespace GpuSidecar.Lifecycle

open Run Time

/-- One poll: the drain calls since the previous poll, in order, then the observation. -/
structure Poll where
  drains : List Bool
  obs : LifecycleObservation

namespace LifecycleMachine

/-- The drain calls an operator makes between two polls. -/
def setDrainings (m : LifecycleMachine) (drains : List Bool) : LifecycleMachine :=
  drains.foldl setDraining m

/-- The effect of one poll and of the drain calls before it. -/
def poll (m : LifecycleMachine) (p : Poll) : LifecycleMachine :=
  ((m.setDrainings p.drains).step p.obs).1

/-- Drain calls change nothing but the drain flag. -/
theorem setDrainings_eq (m : LifecycleMachine) (drains : List Bool) :
    ∃ d, m.setDrainings drains = m.setDraining d := by
  induction drains generalizing m with
  | nil => exact ⟨m.draining, rfl⟩
  | cons d ds ih =>
    obtain ⟨d', hd⟩ := ih (m.setDraining d)
    exact ⟨d', hd⟩

/-- A poll is one step of the outage control and keeps the latch invariant. -/
theorem poll_control {m : LifecycleMachine} (hm : m.WellLatched) (p : Poll) :
    (m.poll p).control = m.control.step m.cfg p.obs ∧ (m.poll p).WellLatched := by
  obtain ⟨d, hd⟩ := m.setDrainings_eq p.drains
  rw [poll, hd]
  exact step_control (hm.setDraining d) p.obs

theorem poll_cfg (m : LifecycleMachine) (p : Poll) : (m.poll p).cfg = m.cfg := by
  obtain ⟨d, hd⟩ := m.setDrainings_eq p.drains
  rw [poll, hd, step_cfg, setDraining_cfg]

end LifecycleMachine

/-- The machine before poll `n` of a device's history. -/
def machineAt (cfg : LifecycleConfig) (polls : ℕ → Poll) (n : ℕ) : LifecycleMachine :=
  stateAt LifecycleMachine.poll (newLifecycleMachine cfg) polls n

variable (cfg : LifecycleConfig) (polls : ℕ → Poll)

theorem machineAt_cfg (n : ℕ) : (machineAt cfg polls n).cfg = cfg := by
  refine stateAt_induction (P := fun _ (m : LifecycleMachine) => m.cfg = cfg) rfl (fun k hk => ?_) n
  rw [LifecycleMachine.poll_cfg, hk]

/-- Every machine that a history reaches is well latched. -/
theorem machineAt_wellLatched (n : ℕ) : (machineAt cfg polls n).WellLatched := by
  refine stateAt_induction (P := fun _ (m : LifecycleMachine) => m.WellLatched) ?_
    (fun k hk => ?_) n
  · simp [LifecycleMachine.WellLatched, newLifecycleMachine]
  · exact (LifecycleMachine.poll_control hk (polls k)).2

/-- Along a history the outage control evolves on its own. -/
theorem control_succ (n : ℕ) :
    (machineAt cfg polls (n + 1)).control =
      (machineAt cfg polls n).control.step cfg (polls n).obs := by
  have h := (LifecycleMachine.poll_control (machineAt_wellLatched cfg polls n) (polls n)).1
  rwa [machineAt_cfg] at h

/-! ### The offline state as a function of the history -/

/-- The number of consecutive transient failures that declares a device offline. -/
def LifecycleConfig.offlineThreshold (cfg : LifecycleConfig) : ℕ :=
  (max 1 cfg.offlineFailures).toNat

/-- Comparing a positive count with the configured number or with the threshold is the same. -/
theorem LifecycleConfig.offlineFailures_le_iff (k : ℕ) :
    cfg.offlineFailures ≤ ((k + 1 : ℕ) : ℤ) ↔ cfg.offlineThreshold ≤ k + 1 := by
  unfold offlineThreshold
  omega

/-- The failure counter is the unbroken run of transient failures. -/
theorem softFailures_eq_streak (n : ℕ) :
    (machineAt cfg polls n).softFailures = streak (fun j => (polls j).obs.soft) n := by
  induction n with
  | zero => rfl
  | succ n ih =>
    have hc := congrArg Control.softFailures (control_succ cfg polls n)
    change (machineAt cfg polls (n + 1)).softFailures = _ at hc
    rw [hc, Control.step]
    cases hhard : (polls n).obs.hard with
    | true =>
      rw [streak_succ_of_false (by simp [LifecycleObservation.soft, hhard])]
      rfl
    | false =>
      cases hsoft : (polls n).obs.soft with
      | true =>
        rw [streak_succ_of_true hsoft, ← ih]
        rfl
      | false =>
        rw [streak_succ_of_false hsoft]
        rfl

/-- The polls that take a device offline: hard evidence, or the last of enough
consecutive transient failures. -/
def OutageTrigger (cfg : LifecycleConfig) (polls : ℕ → Poll) (i : ℕ) : Prop :=
  (polls i).obs.hard = true ∨
    cfg.offlineThreshold ≤ i + 1 ∧
      ∀ j, i + 1 ≤ j + cfg.offlineThreshold → j ≤ i → (polls j).obs.soft = true

/-- A trigger that is not hard evidence is a long enough streak of transient failures. -/
theorem outageTrigger_iff (i : ℕ) :
    OutageTrigger cfg polls i ↔ (polls i).obs.hard = true ∨
      cfg.offlineThreshold ≤ streak (fun j => (polls j).obs.soft) (i + 1) := by
  rw [OutageTrigger, le_streak_iff]
  simp only [Nat.lt_succ_iff]

/-- One poll of a device in terms of its failure counter. -/
theorem offline_succ_iff_control (n : ℕ) :
    (machineAt cfg polls (n + 1)).state = .offline ↔ (polls n).obs.hard = true ∨
      (polls n).obs.soft = true ∧
        (cfg.offlineFailures ≤ ((machineAt cfg polls n).softFailures + 1 : ℕ) ∨
          (machineAt cfg polls n).state = .offline) := by
  have hc := congrArg Control.phase (control_succ cfg polls n)
  change (machineAt cfg polls (n + 1)).phase = _ at hc
  rw [← LifecycleMachine.phase_eq_offline_iff, ← LifecycleMachine.phase_eq_offline_iff, hc]
  exact Control.step_offline_iff cfg _ _

/-- One poll of a device: it is offline afterwards if the poll triggers an outage, or
if it was offline before and the probe was not healthy. -/
theorem offline_succ_iff (n : ℕ) :
    (machineAt cfg polls (n + 1)).state = .offline ↔
      OutageTrigger cfg polls n ∨
        ((machineAt cfg polls n).state = .offline ∧ ¬ (polls n).obs.healthy = true) := by
  rw [offline_succ_iff_control, outageTrigger_iff]
  rcases (polls n).obs.kinds with ⟨hhard, -⟩ | ⟨hhard, hsoft, hhealthy⟩ |
    ⟨hhard, hsoft, hhealthy⟩
  · simp [hhard]
  · have hcount : cfg.offlineFailures ≤ (((machineAt cfg polls n).softFailures + 1 : ℕ) : ℤ) ↔
        cfg.offlineThreshold ≤ streak (fun j => (polls j).obs.soft) (n + 1) := by
      rw [cfg.offlineFailures_le_iff, streak_succ_of_true hsoft, softFailures_eq_streak]
    rw [hcount]
    simp [hhard, hsoft, hhealthy]
  · have hzero : ¬ cfg.offlineThreshold ≤ streak (fun j => (polls j).obs.soft) (n + 1) := by
      rw [streak_succ_of_false hsoft, LifecycleConfig.offlineThreshold]
      omega
    simp [hhard, hsoft, hhealthy, hzero]

/-- A device is offline exactly while an outage trigger is not yet followed by a
healthy probe. -/
theorem offline_iff_latched (n : ℕ) :
    (machineAt cfg polls n).state = .offline ↔
      Latched (OutageTrigger cfg polls) (fun j => (polls j).obs.healthy = true) n := by
  induction n with
  | zero =>
    refine iff_of_false (fun h => ?_) (not_latched_zero _ _)
    simp [machineAt, newLifecycleMachine] at h
  | succ n ih => rw [offline_succ_iff, latched_succ_iff, ih]

/-- Exact offline characterisation: after poll `n` a device is offline if and only if
some poll up to `n` was hard evidence or the last of enough consecutive transient
failures and no probe after it was healthy. In particular, a device that is not
offline is taken offline only by such a poll. -/
theorem offline_characterisation (n : ℕ) :
    ((machineAt cfg polls (n + 1)).state = .offline ↔
      ∃ i, i ≤ n ∧
        ((polls i).obs.hard = true ∨
          cfg.offlineThreshold ≤ i + 1 ∧
            ∀ j, i + 1 ≤ j + cfg.offlineThreshold → j ≤ i → (polls j).obs.soft = true) ∧
        ∀ j, i < j → j ≤ n → ¬ (polls j).obs.healthy = true) ∧
    ((machineAt cfg polls n).state ≠ .offline →
      ¬ (polls n).obs.hard = true →
      ¬ (cfg.offlineThreshold ≤ n + 1 ∧
        ∀ j, n + 1 ≤ j + cfg.offlineThreshold → j ≤ n → (polls j).obs.soft = true) →
      (machineAt cfg polls (n + 1)).state ≠ .offline) := by
  constructor
  · rw [offline_iff_latched]
    simp only [Latched, OutageTrigger, Nat.lt_succ_iff]
  · intro hbefore hhard hsoft
    rw [Ne, offline_succ_iff]
    rintro (htrigger | hstay)
    · exact htrigger.elim hhard hsoft
    · exact hbefore hstay.1

/-! ### The end of a recovery as a function of the history -/

/-- Poll `r` takes the device from offline into recovery. -/
def EntersRecovery (cfg : LifecycleConfig) (polls : ℕ → Poll) (r : ℕ) : Prop :=
  (machineAt cfg polls r).state = .offline ∧ (machineAt cfg polls (r + 1)).state = .recovering

/-- A recovering device knows when its recovery began and how many consecutive healthy
probes it has seen since. -/
theorem recovering_history (n : ℕ) (startedAt : ℤ) (healthy : ℕ)
    (h : (machineAt cfg polls n).phase = .recovering startedAt healthy) :
    ∃ r, Latest (EntersRecovery cfg polls) n r ∧ startedAt = (polls r).obs.mono ∧
      healthy = streak (fun j => decide (r ≤ j) && (polls j).obs.healthy) n := by
  induction n generalizing startedAt healthy with
  | zero => simp [machineAt, newLifecycleMachine, LifecycleMachine.phase] at h
  | succ n ih =>
    have hc := congrArg Control.phase (control_succ cfg polls n)
    change (machineAt cfg polls (n + 1)).phase = _ at hc
    have hstate : (machineAt cfg polls (n + 1)).state = .recovering :=
      LifecycleMachine.state_of_phase_recovering h
    rw [hc, Control.step] at h
    cases hhard : (polls n).obs.hard with
    | true => simp [hhard] at h
    | false =>
      cases hphase : (machineAt cfg polls n).phase with
      | serving =>
        simp only [hhard, LifecycleMachine.control, hphase, Phase.interrupted, Phase.probed,
          Bool.false_eq_true, if_false] at h
        split at h
        · split at h <;> simp at h
        · simp at h
      | offline =>
        have hoff := (LifecycleMachine.phase_eq_offline_iff _).mp hphase
        cases hsoft : (polls n).obs.soft with
        | true =>
          simp only [hhard, hsoft, LifecycleMachine.control, hphase, Phase.interrupted,
            Bool.false_eq_true, if_false, if_true, ite_self] at h
          simp at h
        | false =>
          simp only [hhard, hsoft, LifecycleMachine.control, hphase, Phase.probed,
            Bool.false_eq_true, if_false, Phase.recovering.injEq] at h
          refine ⟨n, latest_succ_self ⟨hoff, hstate⟩, h.1.symm, ?_⟩
          have hz : streak (fun j => decide (n ≤ j) && (polls j).obs.healthy) n = 0 :=
            streak_eq_zero (fun j hj => by simp [Nat.not_le.mpr hj])
          rw [streak_succ_of_true (by simp [LifecycleObservation.healthy, hhard, hsoft]), hz]
          exact h.2.symm
      | recovering s k =>
        obtain ⟨r, hr, hs, hk⟩ := ih s k hphase
        have hnot : ¬ EntersRecovery cfg polls n := by
          rintro ⟨hoff, -⟩
          rw [← LifecycleMachine.phase_eq_offline_iff, hphase] at hoff
          exact absurd hoff (by simp)
        cases hsoft : (polls n).obs.soft with
        | true =>
          simp only [hhard, hsoft, LifecycleMachine.control, hphase, Phase.interrupted,
            Bool.false_eq_true, if_false, if_true] at h
          split at h
          · simp at h
          · rw [Phase.recovering.injEq] at h
            refine ⟨r, hr.succ hnot, h.1.symm.trans hs, ?_⟩
            rw [streak_succ_of_false (by simp [LifecycleObservation.healthy, hsoft])]
            exact h.2.symm
        | false =>
          simp only [hhard, hsoft, LifecycleMachine.control, hphase, Phase.probed,
            Bool.false_eq_true, if_false] at h
          split at h
          · simp at h
          · rw [Phase.recovering.injEq] at h
            refine ⟨r, hr.succ hnot, h.1.symm.trans hs, ?_⟩
            rw [streak_succ_of_true (by
              simp [LifecycleObservation.healthy, hhard, hsoft, Nat.le_of_lt hr.1]), ← hk]
            exact h.2.symm

/-- The device is offline or recovering. -/
def LifecycleMachine.inOutage (m : LifecycleMachine) : Prop :=
  m.state = .offline ∨ m.state = .recovering

/-- One poll ends an outage exactly if it is a healthy probe of a recovery that was held
long enough and has now seen enough healthy probes. -/
theorem outage_ends_iff (n : ℕ) :
    ((machineAt cfg polls n).inOutage ∧ ¬ (machineAt cfg polls (n + 1)).inOutage) ↔
      (polls n).obs.healthy = true ∧
        ∃ startedAt healthy, (machineAt cfg polls n).phase = .recovering startedAt healthy ∧
          cfg.released startedAt (polls n).obs.mono (healthy + 1) := by
  have hc := congrArg Control.phase (control_succ cfg polls n)
  change (machineAt cfg polls (n + 1)).phase = _ at hc
  have hafter : ¬ (machineAt cfg polls (n + 1)).inOutage ↔
      (machineAt cfg polls (n + 1)).phase = .serving := by
    rw [LifecycleMachine.phase_eq_serving_iff, LifecycleMachine.inOutage, not_or]
  have hbefore : (machineAt cfg polls n).inOutage ↔ (machineAt cfg polls n).phase ≠ .serving := by
    rw [Ne, LifecycleMachine.phase_eq_serving_iff, LifecycleMachine.inOutage]
    tauto
  rw [hafter, hbefore, hc, Control.step, LifecycleObservation.healthy]
  cases hhard : (polls n).obs.hard with
  | true => simp
  | false =>
    cases hphase : (machineAt cfg polls n).phase with
    | serving => simp
    | offline =>
      simp only [LifecycleMachine.control, hphase, Phase.interrupted, Phase.probed]
      cases (polls n).obs.soft <;> simp
    | recovering s k =>
      simp only [LifecycleMachine.control, hphase, Phase.interrupted, Phase.probed]
      cases (polls n).obs.soft with
      | true =>
        simp only [Bool.false_eq_true, if_false, if_true]
        split <;> simp
      | false =>
        simp only [Bool.false_eq_true, if_false]
        split <;> simp_all

/-- The recovery latch. In every state that a history of polls and drain calls reaches,
the latch is engaged exactly if the device is offline or recovering. Poll `n` takes the
device out of these two states if and only if it was recovering, the probe is healthy,
and for the poll `r` of its latest entry into recovery: at least `RecoveryStreak`
consecutive probes ending at `n`, none of them before `r`, were healthy, and at least
`RecoveringHoldSec` have passed since `r`. -/
theorem recovery_latch (n : ℕ) :
    (∀ drains, ((machineAt cfg polls n).setDrainings drains).recoveryLatched = true ↔
      ((machineAt cfg polls n).setDrainings drains).state = .offline ∨
        ((machineAt cfg polls n).setDrainings drains).state = .recovering) ∧
    (((machineAt cfg polls n).inOutage ∧ ¬ (machineAt cfg polls (n + 1)).inOutage) ↔
      (machineAt cfg polls n).state = .recovering ∧ (polls n).obs.healthy = true ∧
        ∃ r, Latest (EntersRecovery cfg polls) n r ∧
          (∃ start, r ≤ start ∧ start ≤ n ∧ cfg.recoveryStreak ≤ (n + 1 : ℤ) - start ∧
            ∀ j, start ≤ j → j ≤ n → (polls j).obs.healthy = true) ∧
          cfg.recoveringHoldSec ≤ seconds ((polls n).obs.mono - (polls r).obs.mono)) := by
  constructor
  · intro drains
    obtain ⟨d, hd⟩ := (machineAt cfg polls n).setDrainings_eq drains
    rw [hd]
    exact (machineAt_wellLatched cfg polls n).setDraining d
  · rw [outage_ends_iff]
    constructor
    · rintro ⟨hhealthy, s, k, hphase, hhold, hstreak⟩
      obtain ⟨r, hr, rfl, rfl⟩ := recovering_history cfg polls n s k hphase
      refine ⟨LifecycleMachine.state_of_phase_recovering hphase, hhealthy, r, hr, ?_, hhold⟩
      rw [← le_streak_since_iff (Nat.le_of_lt hr.1) hhealthy,
        streak_succ_of_true (by simp [hhealthy, Nat.le_of_lt hr.1])]
      exact hstreak
    · rintro ⟨hrec, hhealthy, r, hr, hstreak, hhold⟩
      have hphase := LifecycleMachine.phase_of_recovering hrec
      obtain ⟨r', hr', hs, hk⟩ := recovering_history cfg polls n _ _ hphase
      obtain rfl := hr.unique hr'
      refine ⟨hhealthy, _, _, hphase, ?_, ?_⟩
      · rwa [hs]
      · rw [← le_streak_since_iff (Nat.le_of_lt hr.1) hhealthy,
          streak_succ_of_true (by simp [hhealthy, Nat.le_of_lt hr.1]), ← hk] at hstreak
        exact hstreak

end GpuSidecar.Lifecycle
