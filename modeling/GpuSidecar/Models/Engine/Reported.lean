import GpuSidecar.Models.Engine.Supervisor
import GpuSidecar.Models.Lifecycle.Confirmation

/-!
# What a device tells about itself

`Info` reports a state together with the reasons for it and with a flag for outages
that began on hard evidence. Both are written beside the state in the branches of a
step. This file compares them with the state and with the history: when the flag
tells how the present outage began, and when every reason belongs to the state it is
reported with.
-/

namespace GpuSidecar.Engine

open Lifecycle Run

/-! ### How the present outage began -/

/-- Only failures write the flag: hard evidence sets it and the threshold clears it. -/
theorem step_hardOffline (m : LifecycleMachine) (o : LifecycleObservation) :
    (m.step o).1.hardOffline =
      if o.hard then true
      else if o.soft = true ∧ m.cfg.offlineFailures ≤ (m.softFailures + 1 : ℕ) then false
      else m.hardOffline := by
  unfold LifecycleMachine.step LifecycleMachine.stepHard LifecycleMachine.stepSoft
    LifecycleMachine.stepHealthy LifecycleMachine.beginRecovery LifecycleMachine.stepLatched
    LifecycleMachine.stepConfirm LifecycleMachine.enterOffline
  grind

section

variable (cfg : LifecycleConfig) (polls : ℕ → Poll)

/-- Poll `r` takes the device offline from another state. -/
def EntersOffline (r : ℕ) : Prop :=
  (machineAt cfg polls r).state ≠ .offline ∧ (machineAt cfg polls (r + 1)).state = .offline

/-- The device is offline before poll `n`, and its present outage began on hard evidence. -/
def HardOutage (n : ℕ) : Prop :=
  (machineAt cfg polls n).state = .offline ∧
    ∃ r, Latest (EntersOffline cfg polls) n r ∧ (polls r).obs.hard = true

/-- Before poll `n` the reported flag tells how the present outage began. -/
def OriginTold (n : ℕ) : Prop :=
  (info (machineAt cfg polls n)).hardOffline = true ↔ HardOutage cfg polls n

/-- What an observation of an offline device must be for the flag to stay right. While the
outage began on hard evidence, that is more such evidence or a tolerated failure; otherwise
it is anything but hard evidence. -/
def KeepsOrigin (m : LifecycleMachine) (o : LifecycleObservation) : Prop :=
  m.state = .offline →
    if m.hardOffline = true then
      o.hard = true ∨ o.soft = true ∧ (m.softFailures + 1 : ℕ) < m.cfg.offlineFailures
    else o.hard = false

/-- The flag after a poll. -/
theorem hardOffline_succ (n : ℕ) :
    (machineAt cfg polls (n + 1)).hardOffline =
      if (polls n).obs.hard then true
      else if (polls n).obs.soft = true ∧
          cfg.offlineFailures ≤ ((machineAt cfg polls n).softFailures + 1 : ℕ) then false
      else (machineAt cfg polls n).hardOffline := by
  obtain ⟨d, hstep, -⟩ := machineAt_succ cfg polls n
  have hflag := step_hardOffline ((machineAt cfg polls n).setDraining d) (polls n).obs
  rwa [← hstep, LifecycleMachine.setDraining_cfg, machineAt_cfg] at hflag

variable {cfg polls}

/-- An outage that begins with a poll began on hard evidence exactly if that poll is hard. -/
theorem hardOutage_of_enters {n : ℕ} (h : EntersOffline cfg polls n) :
    HardOutage cfg polls (n + 1) ↔ (polls n).obs.hard = true := by
  constructor
  · rintro ⟨-, r, hr, hhard⟩
    rwa [hr.unique (latest_succ_self h)] at hhard
  · intro hhard
    exact ⟨h.2, n, latest_succ_self h, hhard⟩

/-- An outage that goes on keeps its beginning. -/
theorem hardOutage_of_stays {n : ℕ} (hbefore : (machineAt cfg polls n).state = .offline)
    (hafter : (machineAt cfg polls (n + 1)).state = .offline) :
    HardOutage cfg polls (n + 1) ↔ HardOutage cfg polls n := by
  have hnot : ¬ EntersOffline cfg polls n := fun h => h.1 hbefore
  constructor
  · rintro ⟨-, r, hr, hhard⟩
    exact ⟨hbefore, r, hr.of_succ hnot, hhard⟩
  · rintro ⟨-, r, hr, hhard⟩
    exact ⟨hafter, r, hr.succ hnot, hhard⟩

/-- One poll: a flag that was right stays right exactly if the poll keeps the origin. -/
theorem originTold_succ_iff {n : ℕ} (h : OriginTold cfg polls n) :
    OriginTold cfg polls (n + 1) ↔ KeepsOrigin (machineAt cfg polls n) (polls n).obs := by
  have hflag := hardOffline_succ cfg polls n
  have hstate := offline_succ_iff_control cfg polls n
  change ((machineAt cfg polls n).hardOffline = true ↔ _) at h
  rw [OriginTold, KeepsOrigin, machineAt_cfg]
  change ((machineAt cfg polls (n + 1)).hardOffline = true ↔ _) ↔ _
  by_cases hbefore : (machineAt cfg polls n).state = .offline
  · by_cases hafter : (machineAt cfg polls (n + 1)).state = .offline
    · -- the origin stays, so the flag must not change
      rw [hardOutage_of_stays hbefore hafter, ← h, hflag]
      rw [hstate] at hafter
      rcases (polls n).obs.kinds with ⟨hhard, hsoft, -⟩ | ⟨hhard, hsoft, -⟩ | ⟨hhard, hsoft, -⟩ <;>
        grind
    · -- a healthy probe ends the outage and leaves the flag as it was
      have hnot : ¬ HardOutage cfg polls (n + 1) := fun hout => hafter hout.1
      rw [hstate] at hafter
      rw [hflag]
      grind
  · have hclear : (machineAt cfg polls n).hardOffline = false := by
      rw [Bool.eq_false_iff]
      intro hset
      exact hbefore (h.mp hset).1
    refine iff_of_true ?_ (fun hoff => absurd hoff hbefore)
    by_cases hafter : (machineAt cfg polls (n + 1)).state = .offline
    · rw [hardOutage_of_enters ⟨hbefore, hafter⟩, hflag, hclear]
      cases (polls n).obs.hard <;> simp
    · have hnot : ¬ HardOutage cfg polls (n + 1) := fun hout => hafter hout.1
      rw [hstate, not_or] at hafter
      rw [hflag, hclear, if_neg hafter.1, ite_self]
      exact iff_of_false Bool.false_ne_true hnot

theorem originTold_zero : OriginTold cfg polls 0 := by
  refine iff_of_false Bool.false_ne_true ?_
  rintro ⟨-, r, hr, -⟩
  exact Nat.not_lt_zero r hr.1

end

/-- Along every history, the flag tells how the present outage began after each of the first
`N` polls exactly if each of them keeps the origin. -/
theorem origin_told_iff (cfg : LifecycleConfig) (polls : ℕ → Poll) (N : ℕ) :
    (∀ n < N, OriginTold cfg polls (n + 1)) ↔
      ∀ n < N, KeepsOrigin (machineAt cfg polls n) (polls n).obs := by
  induction N with
  | zero => simp
  | succ N ih =>
    rw [Nat.forall_lt_succ_right, Nat.forall_lt_succ_right, ← ih]
    refine and_congr_right fun htold => originTold_succ_iff ?_
    cases N with
    | zero => exact originTold_zero
    | succ N => exact htold N (Nat.lt_succ_self N)

/-- A probe of a device by its three failure fields; the reason is that of a failure. -/
def probeWith (visible soft : Bool) (reason : String) : LifecycleObservation :=
  ⟨true, visible, true, false, soft, 0, true, 1, 1, 0, 0, reason⟩

/-- A device that disappears once and is back in the next probe. -/
def blinkingPolls (n : ℕ) : Poll := ⟨[], probeWith (n != 0) false ""⟩

/-- The recovering device still reports an outage on hard evidence. -/
theorem blinkingPolls_origin_not_told :
    (info (machineAt defaultLifecycleConfig blinkingPolls 2)).state = .recovering ∧
      (info (machineAt defaultLifecycleConfig blinkingPolls 2)).hardOffline = true ∧
      ¬ OriginTold defaultLifecycleConfig blinkingPolls 2 := by
  refine ⟨by decide +kernel, by decide +kernel, ?_⟩
  intro htold
  have hout := (htold.mp (by decide +kernel)).1
  exact absurd hout (by decide +kernel)

/-! ### Why the present state is reported -/

/-- A reason that may be reported with a state. -/
structure Suits (s : LifecycleState) (reason : String) : Prop where
  healthy : reason = reasonHealthy → s = .ready
  busy : reason = reasonHighUtil ∨ reason = reasonLowFreeMem → s = .busy ∨ s = .recovering
  degraded : reason = reasonLowStability ∨ reason = reasonUncorrErrors →
    s = .degraded ∨ s = .recovering
  drain : reason = reasonOperatorDrain → s = .draining
  hold : reason = reasonRecoveryHold → s = .recovering

/-- Every reported reason belongs to the reported state. -/
def Explained (m : LifecycleMachine) : Prop :=
  ∀ reason ∈ (info m).reasonCodes, Suits (info m).state reason

instance (s : LifecycleState) (reason : String) : Decidable (Suits s reason) :=
  decidable_of_iff ((reason = reasonHealthy → s = .ready) ∧
      (reason = reasonHighUtil ∨ reason = reasonLowFreeMem → s = .busy ∨ s = .recovering) ∧
      (reason = reasonLowStability ∨ reason = reasonUncorrErrors →
        s = .degraded ∨ s = .recovering) ∧
      (reason = reasonOperatorDrain → s = .draining) ∧
      (reason = reasonRecoveryHold → s = .recovering))
    ⟨fun ⟨h₁, h₂, h₃, h₄, h₅⟩ => ⟨h₁, h₂, h₃, h₄, h₅⟩, fun ⟨h₁, h₂, h₃, h₄, h₅⟩ =>
      ⟨h₁, h₂, h₃, h₄, h₅⟩⟩

theorem explained_iff {m : LifecycleMachine} (h : m.reasonCodes ≠ []) :
    Explained m ↔ ∀ reason ∈ m.reasonCodes, Suits m.state reason := by
  simp only [Explained, info, if_neg h]

/-! ### Reasons of a failure -/

/-- The reasons that the machine writes for a failure of its own belong to every state. -/
theorem suits_failure (s : LifecycleState) :
    Suits s "" ∧ Suits s reasonGPUNotVisible ∧ Suits s reasonDeviceDisappeared ∧
      Suits s reasonProbeFailure ∧ Suits s reasonGPUAccessProbeFail ∧
      Suits s reasonOfflineThreshold := by
  cases s <;> decide

theorem hardReasons_suit_iff (o : LifecycleObservation) :
    (∀ reason ∈ LifecycleMachine.hardReasons o, Suits .offline reason) ↔
      (o.hardOfflineEvidence = true → Suits .offline o.probeFailReason) := by
  obtain ⟨hempty, hinvisible, hgone, -⟩ := suits_failure .offline
  cases hevidence : o.hardOfflineEvidence with
  | false =>
    refine iff_of_true ?_ (fun h => by cases h)
    cases hvisible : o.gpuVisible <;>
      simp [LifecycleMachine.hardReasons, hevidence, hvisible, hinvisible, hgone]
  | true =>
    by_cases hreason : o.probeFailReason = "" <;> cases hvisible : o.gpuVisible <;>
      simp [LifecycleMachine.hardReasons, hevidence, hvisible, hreason, hinvisible, hgone, hempty]

theorem softReason_suits_iff (s : LifecycleState) (o : LifecycleObservation) :
    Suits s (LifecycleMachine.softReason o) ↔ Suits s o.probeFailReason := by
  obtain ⟨hempty, -, -, hprobe, haccess, -⟩ := suits_failure s
  rw [LifecycleMachine.softReason]
  by_cases hreason : o.probeFailReason = ""
  · rw [if_neg (not_not.mpr hreason), hreason]
    split
    · exact iff_of_true hprobe hempty
    · exact iff_of_true haccess hempty
  · rw [if_pos hreason]

/-- The state in which a transient failure leaves a device. -/
def failureState (m : LifecycleMachine) : LifecycleState :=
  if m.cfg.offlineFailures ≤ (m.softFailures + 1 : ℕ) then .offline
  else if m.state = .offline then .offline
  else if m.recoveryLatched then .recovering
  else .degraded

theorem stepHard_explained_iff (m : LifecycleMachine) (o : LifecycleObservation) :
    Explained (m.stepHard o).1 ↔
      (o.hardOfflineEvidence = true → Suits .offline o.probeFailReason) := by
  have hne : (m.stepHard o).1.reasonCodes ≠ [] := by
    change LifecycleMachine.hardReasons o ≠ []
    unfold LifecycleMachine.hardReasons
    grind
  rw [explained_iff hne]
  exact hardReasons_suit_iff o

theorem stepSoft_explained_iff (m : LifecycleMachine) (o : LifecycleObservation) :
    Explained (m.stepSoft o).1 ↔ Suits (failureState m) o.probeFailReason := by
  obtain ⟨-, -, -, -, -, hthreshold⟩ := suits_failure .offline
  have hhold : Suits .recovering reasonRecoveryHold := by decide
  rw [← softReason_suits_iff, failureState]
  simp only [LifecycleMachine.stepSoft]
  split
  · rw [explained_iff (List.cons_ne_nil _ _)]
    simp [LifecycleMachine.enterOffline, hthreshold]
  split
  · next hoff =>
    rw [explained_iff (List.cons_ne_nil _ _)]
    simp [hoff]
  split
  · rw [explained_iff (List.cons_ne_nil _ _)]
    simp [hhold]
  · rw [explained_iff (List.cons_ne_nil _ _)]
    simp

/-! ### Reasons of a healthy probe -/

/-- A healthy classification has one reason, which belongs to its target, and if the target is
degraded or busy also to a recovery. -/
theorem classifyHealthy_reason (m : LifecycleMachine) (o : LifecycleObservation) :
    ∃ reason, (m.classifyHealthy o).2 = [reason] ∧ ∀ s, Suits s reason ↔
      s = (m.classifyHealthy o).1 ∨ s = .recovering ∧
        ((m.classifyHealthy o).1 = .degraded ∨ (m.classifyHealthy o).1 = .busy) := by
  have hsuits : ∀ s, (Suits s reasonOperatorDrain ↔ s = .draining) ∧
      (Suits s reasonHealthy ↔ s = .ready) ∧
      (Suits s reasonLowStability ↔ s = .degraded ∨ s = .recovering) ∧
      (Suits s reasonUncorrErrors ↔ s = .degraded ∨ s = .recovering) ∧
      (Suits s reasonHighUtil ↔ s = .busy ∨ s = .recovering) ∧
      (Suits s reasonLowFreeMem ↔ s = .busy ∨ s = .recovering) := by
    intro s
    cases s <;> decide
  unfold LifecycleMachine.classifyHealthy
  split
  · exact ⟨_, rfl, by simp [hsuits]⟩
  split
  · exact ⟨_, rfl, by simp [hsuits]⟩
  split
  · exact ⟨_, rfl, by simp [hsuits]⟩
  split
  · exact ⟨_, rfl, by simp [hsuits]⟩
  split
  · exact ⟨_, rfl, by simp [hsuits]⟩
  · exact ⟨_, rfl, by simp [hsuits]⟩

/-- A probe that asks for ready or busy and is not enough to confirm it. -/
structure Unconfirmed (m : LifecycleMachine) (o : LifecycleObservation) : Prop where
  serving : m.state ≠ .offline
  unlatched : m.recoveryLatched = false
  unfailed : m.state ≠ .degraded
  asked : (m.classifyHealthy o).1 = .ready ∨ (m.classifyHealthy o).1 = .busy
  change : (m.classifyHealthy o).1 ≠ m.state
  short : (m.tally (m.classifyHealthy o).1 + 1 : ℕ) < m.cfg.confirmSamples

theorem classifyHealthy_cases (m : LifecycleMachine) (o : LifecycleObservation) :
    (m.classifyHealthy o).1 = .draining ∨ (m.classifyHealthy o).1 = .degraded ∨
      (m.classifyHealthy o).1 = .busy ∨ (m.classifyHealthy o).1 = .ready := by
  unfold LifecycleMachine.classifyHealthy
  grind

theorem stepConfirm_reasonCodes (m : LifecycleMachine) (o : LifecycleObservation) :
    (m.stepConfirm o).1.reasonCodes = (m.classifyHealthy o).2 := by
  unfold LifecycleMachine.stepConfirm
  grind

/-- Outside an outage a probe reaches what it asks for unless it is unconfirmed. -/
theorem stepConfirm_state_eq_target_iff {m : LifecycleMachine} {o : LifecycleObservation}
    (hoff : m.state ≠ .offline) (hopen : m.recoveryLatched = false) :
    (m.stepConfirm o).1.state = (m.classifyHealthy o).1 ↔ ¬ Unconfirmed m o := by
  have hunconfirmed : Unconfirmed m o ↔ m.state ≠ .degraded ∧
      ((m.classifyHealthy o).1 = .ready ∨ (m.classifyHealthy o).1 = .busy) ∧
      (m.classifyHealthy o).1 ≠ m.state ∧
      (m.tally (m.classifyHealthy o).1 + 1 : ℕ) < m.cfg.confirmSamples :=
    ⟨fun h => ⟨h.unfailed, h.asked, h.change, h.short⟩,
      fun ⟨hfailed, hasked, hchange, hshort⟩ => ⟨hoff, hopen, hfailed, hasked, hchange, hshort⟩⟩
  rw [hunconfirmed]
  unfold LifecycleMachine.stepConfirm LifecycleMachine.tally
  rcases classifyHealthy_cases m o with htarget | htarget | htarget | htarget <;> grind

theorem stepConfirm_explained_iff {m : LifecycleMachine} {o : LifecycleObservation}
    (hoff : m.state ≠ .offline) (hrec : m.state ≠ .recovering)
    (hopen : m.recoveryLatched = false) :
    Explained (m.stepConfirm o).1 ↔ ¬ Unconfirmed m o := by
  obtain ⟨reason, hreasons, hsuits⟩ := classifyHealthy_reason m o
  have hcodes : (m.stepConfirm o).1.reasonCodes = [reason] :=
    (stepConfirm_reasonCodes m o).trans hreasons
  have hstate := (LifecycleMachine.stepConfirm_state hoff hrec o).2
  rw [explained_iff (hcodes ▸ List.cons_ne_nil _ _), hcodes, List.forall_mem_singleton, hsuits,
    ← stepConfirm_state_eq_target_iff hoff hopen]
  exact or_iff_left fun h => hstate h.1

/-- A recovery reports its hold, and its end the state that it ends in. -/
theorem stepLatched_explained (m : LifecycleMachine) (o : LifecycleObservation) :
    Explained (m.stepLatched o).1 := by
  obtain ⟨reason, hreasons, hsuits⟩ := classifyHealthy_reason
    { m with recoveryHealthyStreak := m.recoveryHealthyStreak + 1 } o
  have hhold : Suits .recovering reasonRecoveryHold := by decide
  have hmet : ∀ s, Suits s reasonRecoveryStreakMet := by
    intro s
    cases s <;> decide
  simp only [LifecycleMachine.stepLatched, hreasons]
  split
  · rw [explained_iff (List.cons_ne_nil _ _)]
    simp [hmet, hsuits]
  · split
    · next hannotated =>
      rw [explained_iff (List.cons_ne_nil _ _)]
      simp [hhold, hsuits, hannotated]
    · rw [explained_iff (List.cons_ne_nil _ _)]
      simp [hhold]

/-! ### Reasons of a step -/

/-- What an observation must be for its step to report reasons that belong to the state. -/
structure Explicable (m : LifecycleMachine) (o : LifecycleObservation) : Prop where
  hard : o.hard = true → o.hardOfflineEvidence = true → Suits .offline o.probeFailReason
  soft : o.soft = true → Suits (failureState m) o.probeFailReason
  confirmed : o.healthy = true → ¬ Unconfirmed m o

/-- One step of a well-latched machine explains its state exactly if the observation is
explicable. -/
theorem step_explained_iff {m : LifecycleMachine} (hm : m.WellLatched)
    (o : LifecycleObservation) : Explained (m.step o).1 ↔ Explicable m o := by
  rcases o.kinds with ⟨hhard, hsoft, hhealthy⟩ | ⟨hhard, hsoft, hhealthy⟩ |
    ⟨hhard, hsoft, hhealthy⟩
  · rw [LifecycleMachine.step_of_hard hhard, stepHard_explained_iff]
    exact ⟨fun h => ⟨fun _ => h, by simp [hsoft], by simp [hhealthy]⟩, fun h => h.hard hhard⟩
  · rw [LifecycleMachine.step_of_soft hsoft, stepSoft_explained_iff]
    exact ⟨fun h => ⟨by simp [hhard], fun _ => h, by simp [hhealthy]⟩, fun h => h.soft hsoft⟩
  · have hexplicable : Explicable m o ↔ ¬ Unconfirmed m o :=
      ⟨fun h => h.confirmed hhealthy, fun h => ⟨by simp [hhard], by simp [hsoft], fun _ => h⟩⟩
    rw [hexplicable]
    by_cases hoff : m.state = .offline
    · rw [LifecycleMachine.step_of_offline hhealthy hoff]
      refine iff_of_true ?_ (fun h => h.serving hoff)
      rw [explained_iff (List.cons_ne_nil _ _)]
      intro reason hreason
      rw [List.mem_singleton.mp hreason]
      change Suits .recovering reasonRecoveryHold
      decide
    · cases hlatch : m.recoveryLatched with
      | true =>
        rw [LifecycleMachine.step_of_latched hhealthy hoff hlatch]
        refine iff_of_true (stepLatched_explained _ o) ?_
        intro h
        exact absurd (h.unlatched.symm.trans hlatch) Bool.false_ne_true
      | false =>
        have hrec : m.state ≠ .recovering := by
          intro hrec
          exact absurd (hlatch.symm.trans (hm.mpr (Or.inr hrec))) Bool.false_ne_true
        rw [LifecycleMachine.step_of_open hhealthy hoff hlatch]
        refine (stepConfirm_explained_iff (m := m.counted) hoff hrec hlatch).trans
          (not_congr ⟨?_, ?_⟩)
        · exact fun h => ⟨h.serving, h.unlatched, h.unfailed, h.asked, h.change, h.short⟩
        · exact fun h => ⟨h.serving, h.unlatched, h.unfailed, h.asked, h.change, h.short⟩

/-- Along every history, the reasons after a poll belong to the state exactly if the observation
is explicable to the machine that sees it: a failure brings no reason that belongs to
another state, and a probe that asks for a change confirms it. -/
theorem reasons_explained_iff (cfg : LifecycleConfig) (polls : ℕ → Poll) (n : ℕ) :
    Explained (machineAt cfg polls (n + 1)) ↔
      Explicable ((machineAt cfg polls n).setDrainings (polls n).drains) (polls n).obs := by
  obtain ⟨d, hd⟩ := (machineAt cfg polls n).setDrainings_eq (polls n).drains
  change Explained (((machineAt cfg polls n).setDrainings (polls n).drains).step
    (polls n).obs).1 ↔ _
  rw [hd]
  exact step_explained_iff ((machineAt_wellLatched cfg polls n).setDraining d) (polls n).obs

/-- A device that becomes ready and then shows one probe of high utilization. -/
def spikingPolls (n : ℕ) : Poll :=
  ⟨[], { probeWith true false "" with utilPct := if n = 2 then 100 else 0 }⟩

/-- The device stays ready and reports high utilization. -/
theorem spikingPolls_not_explained :
    (info (machineAt defaultLifecycleConfig spikingPolls 3)).state = .ready ∧
      (info (machineAt defaultLifecycleConfig spikingPolls 3)).reasonCodes = [reasonHighUtil] ∧
      ¬ Explained (machineAt defaultLifecycleConfig spikingPolls 3) := by
  refine ⟨by decide +kernel, by decide +kernel, ?_⟩
  unfold Explained
  decide +kernel

end GpuSidecar.Engine
