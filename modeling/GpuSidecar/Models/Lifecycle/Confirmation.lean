import GpuSidecar.Models.Lifecycle.History

/-!
# Confirmation of a change of state

A device outside an outage changes between the healthy states only after enough
consecutive observations ask for the same change. The machine keeps one pending
target and one count for all of its transitions. This file reads the two off the
history: along every run the count for a target is the unbroken run of healthy
observations, made in the present state, that asked for that target. No failure,
recovery or drain in between leaves a count behind.
-/

namespace GpuSidecar.Lifecycle

open Run

/-- The number of consecutive observations that confirm a change. -/
def LifecycleConfig.confirmThreshold (cfg : LifecycleConfig) : ℕ :=
  (max 1 cfg.confirmSamples).toNat

namespace LifecycleMachine

/-- The count that a machine holds for a target; it holds none for a target that is not
pending. -/
def tally (m : LifecycleMachine) (t : LifecycleState) : ℕ :=
  if m.pending = t then m.pendingCount else 0

/-! ### One healthy observation outside an outage -/

section

variable {m : LifecycleMachine} {o : LifecycleObservation} {t : LifecycleState}

/-- An observation that leaves the state in place counts for its own target alone. -/
theorem stepConfirm_tally (hstay : (m.stepConfirm o).1.state = m.state) (ht : t ≠ m.state) :
    (m.stepConfirm o).1.tally t = if (m.classifyHealthy o).1 = t then m.tally t + 1 else 0 := by
  unfold stepConfirm at hstay ⊢
  unfold tally
  grind

/-- An observation that changes the state clears every count. -/
theorem stepConfirm_pendingCount (hmove : (m.stepConfirm o).1.state ≠ m.state) :
    (m.stepConfirm o).1.pendingCount = 0 := by
  unfold stepConfirm at hmove ⊢
  grind

/-- A change to ready or busy from any state but degraded needs the configured count. -/
theorem stepConfirm_state_eq_iff (hdegraded : m.state ≠ .degraded)
    (htarget : t = .ready ∨ t = .busy) (ht : t ≠ m.state) :
    (m.stepConfirm o).1.state = t ↔
      (m.classifyHealthy o).1 = t ∧ m.cfg.confirmSamples ≤ (m.tally t + 1 : ℕ) := by
  unfold stepConfirm tally
  grind

/-- An observation for a target either completes the change or keeps the state. -/
theorem stepConfirm_state_or (hclass : (m.classifyHealthy o).1 = t) :
    (m.stepConfirm o).1.state = t ∨ (m.stepConfirm o).1.state = m.state := by
  unfold stepConfirm
  grind

end

/-! ### One step -/

section

variable {m : LifecycleMachine} {o : LifecycleObservation} {t : LifecycleState}

/-- The latch is open in every state outside an outage. -/
theorem WellLatched.unlatched (h : m.WellLatched) (hoff : m.state ≠ .offline)
    (hrec : m.state ≠ .recovering) : m.recoveryLatched = false := by
  rw [Bool.eq_false_iff]
  intro hlatch
  exact (h.mp hlatch).elim hoff hrec

/-- Outside an outage a healthy observation goes through the confirmation. -/
theorem step_of_unlatched (hm : m.WellLatched) (hhealthy : o.healthy = true)
    (hlatch : m.recoveryLatched = false) :
    m.step o = m.counted.stepConfirm o := by
  refine step_of_open hhealthy ?_ hlatch
  intro hoff
  rw [hm.mpr (Or.inl hoff)] at hlatch
  cases hlatch

/-- Every other step that ends outside an outage clears the counts, and it starts in another
state if its observation is healthy. -/
theorem step_pendingCount (hm : m.WellLatched)
    (hother : ¬ (o.healthy = true ∧ m.recoveryLatched = false))
    (hopen : (m.step o).1.recoveryLatched = false) :
    (m.step o).1.pendingCount = 0 ∧ (o.healthy = true → (m.step o).1.state ≠ m.state) := by
  have htarget := classifyHealthy_target
    { m with softFailures := 0, healthyStreak := m.healthyStreak + 1,
             recoveryHealthyStreak := m.recoveryHealthyStreak + 1 } o
  unfold WellLatched at hm
  unfold step stepHard stepSoft stepHealthy beginRecovery stepLatched enterOffline at hopen ⊢
  unfold LifecycleObservation.healthy at hother ⊢
  grind

/-- A step moves a device to ready or busy exactly if the observation is healthy, asks for
that state and completes the count. -/
theorem step_state_eq_iff (hm : m.WellLatched) (hlatch : m.recoveryLatched = false)
    (hdegraded : m.state ≠ .degraded) (htarget : t = .ready ∨ t = .busy) (ht : t ≠ m.state) :
    (m.step o).1.state = t ↔ o.healthy = true ∧ (m.classifyHealthy o).1 = t ∧
      m.cfg.confirmSamples ≤ (m.tally t + 1 : ℕ) := by
  cases hhealthy : o.healthy with
  | true =>
    rw [step_of_unlatched hm hhealthy hlatch]
    refine Iff.trans (stepConfirm_state_eq_iff (m := m.counted) hdegraded htarget ht) ?_
    exact (and_iff_right rfl).symm
  | false =>
    refine iff_of_false ?_ (fun h => Bool.false_ne_true h.1)
    -- a failure leads to offline, recovering or degraded
    unfold LifecycleObservation.healthy at hhealthy
    unfold step stepHard stepSoft enterOffline
    grind

end

end LifecycleMachine

/-! ### The history of a count -/

section

variable (cfg : LifecycleConfig) (polls : ℕ → Poll)

/-- The state that observation `n` asks for, if it is healthy, under the drain flag of its
time. -/
def targetAt (n : ℕ) : LifecycleState :=
  (((machineAt cfg polls n).setDrainings (polls n).drains).classifyHealthy (polls n).obs).1

/-- Observation `n` is healthy, finds the device in state `s` and asks for state `t`. -/
def supports (s t : LifecycleState) (n : ℕ) : Bool :=
  (polls n).obs.healthy && decide ((machineAt cfg polls n).state = s) &&
    decide (targetAt cfg polls n = t)

theorem supports_iff (s t : LifecycleState) (n : ℕ) :
    supports cfg polls s t n = true ↔ (polls n).obs.healthy = true ∧
      (machineAt cfg polls n).state = s ∧ targetAt cfg polls n = t := by
  simp only [supports, Bool.and_eq_true, decide_eq_true_eq, and_assoc]

/-- The machine that sees observation `n` differs from the one before the drain calls in the
flag alone. -/
theorem machineAt_succ (n : ℕ) :
    ∃ d, machineAt cfg polls (n + 1) =
        (((machineAt cfg polls n).setDraining d).step (polls n).obs).1 ∧
      targetAt cfg polls n =
        (((machineAt cfg polls n).setDraining d).classifyHealthy (polls n).obs).1 := by
  obtain ⟨d, hd⟩ := (machineAt cfg polls n).setDrainings_eq (polls n).drains
  refine ⟨d, ?_, ?_⟩
  · rw [← hd]
    rfl
  · rw [targetAt, hd]

/-- The count of a device outside an outage is the unbroken run of observations in its present
state that asked for the target. -/
theorem tally_eq_streak (n : ℕ) (hlatch : (machineAt cfg polls n).recoveryLatched = false)
    {t : LifecycleState} (ht : t ≠ (machineAt cfg polls n).state) :
    (machineAt cfg polls n).tally t =
      streak (supports cfg polls (machineAt cfg polls n).state t) n := by
  induction n with
  | zero =>
    rw [streak_zero, LifecycleMachine.tally]
    exact ite_self 0
  | succ n ih =>
    obtain ⟨d, hstep, htarget⟩ := machineAt_succ cfg polls n
    have hm := (machineAt_wellLatched cfg polls n).setDraining d
    rw [hstep] at hlatch ht ⊢
    by_cases hconfirm : (polls n).obs.healthy = true ∧
        (machineAt cfg polls n).recoveryLatched = false
    · obtain ⟨hhealthy, hopen⟩ := hconfirm
      rw [LifecycleMachine.step_of_unlatched hm hhealthy hopen] at ht ⊢
      by_cases hstay : (((machineAt cfg polls n).setDraining d).counted.stepConfirm
          (polls n).obs).1.state = (machineAt cfg polls n).state
      · rw [hstay] at ht ⊢
        rw [LifecycleMachine.stepConfirm_tally hstay ht]
        change (if (((machineAt cfg polls n).setDraining d).classifyHealthy (polls n).obs).1 = t
          then (machineAt cfg polls n).tally t + 1 else 0) = _
        rw [← htarget, ih hopen ht, streak]
        simp only [supports_iff, hhealthy, true_and]
      · -- the state before was another one, so nothing counts for the new state yet
        rw [streak_succ_of_false, LifecycleMachine.tally,
          LifecycleMachine.stepConfirm_pendingCount hstay]
        · exact ite_self 0
        · rw [Bool.eq_false_iff, Ne, supports_iff]
          rintro ⟨-, hbefore, -⟩
          exact hstay hbefore.symm
    · obtain ⟨hcount, hmove⟩ := LifecycleMachine.step_pendingCount hm hconfirm hlatch
      rw [streak_succ_of_false, LifecycleMachine.tally, hcount]
      · exact ite_self 0
      · rw [Bool.eq_false_iff, Ne, supports_iff]
        rintro ⟨hhealthy, hbefore, -⟩
        exact hmove hhealthy hbefore.symm

end

/-! ### Confirmation -/

/-- The states from which ready and busy have to be confirmed. -/
def Confirming (s : LifecycleState) : Prop :=
  s = .unknown ∨ s = .ready ∨ s = .busy ∨ s = .draining

/-- A confirming state is neither degraded nor part of an outage. -/
theorem Confirming.ne {s : LifecycleState} (h : Confirming s) :
    s ≠ .degraded ∧ s ≠ .offline ∧ s ≠ .recovering := by
  rcases h with rfl | rfl | rfl | rfl <;> decide

section

variable {cfg : LifecycleConfig} {polls : ℕ → Poll} {s t : LifecycleState}

/-- A poll completes a change exactly if it ends a long enough run of observations that asked
for it. -/
theorem moves_iff (hs : Confirming s) (htarget : t = .ready ∨ t = .busy) (ht : t ≠ s) {n : ℕ}
    (hbefore : (machineAt cfg polls n).state = s) :
    (machineAt cfg polls (n + 1)).state = t ↔
      cfg.confirmThreshold ≤ streak (supports cfg polls s t) (n + 1) := by
  obtain ⟨hdegraded, hoff, hrec⟩ := hs.ne
  obtain ⟨d, hstep, hasked⟩ := machineAt_succ cfg polls n
  have hwell := machineAt_wellLatched cfg polls n
  subst hbefore
  have hlatch := hwell.unlatched hoff hrec
  have hcount := tally_eq_streak cfg polls n hlatch ht
  rw [hstep, LifecycleMachine.step_state_eq_iff (hwell.setDraining d) hlatch hdegraded htarget ht,
    ← hasked, LifecycleMachine.setDraining_cfg, machineAt_cfg]
  change _ ∧ _ ∧ _ ≤ (((machineAt cfg polls n).tally t + 1 : ℕ) : ℤ) ↔ _
  rw [hcount, LifecycleConfig.confirmThreshold]
  cases hsupports : supports cfg polls (machineAt cfg polls n).state t n with
  | true =>
    obtain ⟨hhealthy, -, hclass⟩ := (supports_iff _ _ _ _ _).mp hsupports
    rw [streak_succ_of_true hsupports]
    simp only [hhealthy, hclass, true_and]
    omega
  | false =>
    rw [streak_succ_of_false hsupports]
    refine iff_of_false ?_ (by omega)
    rintro ⟨hhealthy, hclass, -⟩
    exact Bool.eq_false_iff.mp hsupports ((supports_iff _ _ _ _ _).mpr ⟨hhealthy, rfl, hclass⟩)

/-- Outside an outage a healthy observation either reaches its target or keeps the state. -/
theorem asked_or_kept {n : ℕ} (hoff : (machineAt cfg polls n).state ≠ .offline)
    (hrec : (machineAt cfg polls n).state ≠ .recovering)
    (hhealthy : (polls n).obs.healthy = true) :
    (machineAt cfg polls (n + 1)).state = targetAt cfg polls n ∨
      (machineAt cfg polls (n + 1)).state = (machineAt cfg polls n).state := by
  obtain ⟨d, hstep, hasked⟩ := machineAt_succ cfg polls n
  have hwell := machineAt_wellLatched cfg polls n
  rw [hstep, LifecycleMachine.step_of_unlatched (hwell.setDraining d) hhealthy
    (hwell.unlatched hoff hrec)]
  exact LifecycleMachine.stepConfirm_state_or hasked.symm

/-- While every observation asks for the target, the device is still where it was or has
arrived. -/
theorem kept_or_arrived (hs : Confirming s) (htarget : t = .ready ∨ t = .busy) {n k : ℕ}
    (hbefore : (machineAt cfg polls n).state = s)
    (hasked : ∀ j, n ≤ j → j < n + k →
      (polls j).obs.healthy = true ∧ targetAt cfg polls j = t) :
    ∀ i ≤ k, (machineAt cfg polls (n + i)).state = t ∨
      ∀ j, n ≤ j → j ≤ n + i → (machineAt cfg polls j).state = s := by
  intro i
  induction i with
  | zero =>
    intro _
    right
    intro j hj hjn
    obtain rfl : j = n := le_antisymm hjn hj
    exact hbefore
  | succ i ih =>
    intro hi
    obtain ⟨hhealthy, hclass⟩ := hasked (n + i) (by omega) (by omega)
    rcases ih (by omega) with harrived | hkept
    · left
      have hnext : (machineAt cfg polls (n + i + 1)).state = targetAt cfg polls (n + i) ∨
          (machineAt cfg polls (n + i + 1)).state = (machineAt cfg polls (n + i)).state := by
        apply asked_or_kept _ _ hhealthy <;> rw [harrived] <;>
          rcases htarget with rfl | rfl <;> decide
      rw [hclass, harrived, or_self] at hnext
      exact hnext
    · have hlast := hkept (n + i) (by omega) le_rfl
      obtain ⟨-, hoff, hrec⟩ := hs.ne
      rcases asked_or_kept (hlast ▸ hoff) (hlast ▸ hrec) hhealthy with hmove | hstay
      · left
        rw [← hclass]
        exact hmove
      · right
        intro j hj hjn
        rcases Nat.lt_or_ge j (n + i + 1) with hlt | hge
        · exact hkept j hj (by omega)
        · obtain rfl : j = n + i + 1 := by omega
          exact hstay.trans hlast

end

/-- A device in one of the confirming states moves to ready or busy only at the end of enough
consecutive healthy observations that found it in that state and asked for the move;
and as many consecutive observations that ask for the move bring it about. -/
theorem confirmation_hysteresis (cfg : LifecycleConfig) (polls : ℕ → Poll) (s t : LifecycleState)
    (hs : Confirming s) (htarget : t = .ready ∨ t = .busy) (ht : t ≠ s) (n : ℕ)
    (hbefore : (machineAt cfg polls n).state = s) :
    ((machineAt cfg polls (n + 1)).state = t →
      cfg.confirmThreshold ≤ n + 1 ∧
        ∀ j, n + 1 ≤ j + cfg.confirmThreshold → j ≤ n →
          (polls j).obs.healthy = true ∧ (machineAt cfg polls j).state = s ∧
            targetAt cfg polls j = t) ∧
    ((∀ j, n ≤ j → j < n + cfg.confirmThreshold →
        (polls j).obs.healthy = true ∧ targetAt cfg polls j = t) →
      (machineAt cfg polls (n + cfg.confirmThreshold)).state = t) := by
  constructor
  · intro hmove
    rw [moves_iff hs htarget ht hbefore, le_streak_iff] at hmove
    refine ⟨hmove.1, ?_⟩
    intro j hj hjn
    exact (supports_iff _ _ _ _ _).mp (hmove.2 j hj (Nat.lt_succ_of_le hjn))
  · intro hasked
    rcases kept_or_arrived hs htarget hbefore hasked _ le_rfl with harrived | hkept
    · exact harrived
    · -- the device cannot be kept by the last of them
      have hpos : 0 < cfg.confirmThreshold := by
        rw [LifecycleConfig.confirmThreshold]
        omega
      obtain ⟨last, hlast⟩ : ∃ last, n + cfg.confirmThreshold = last + 1 :=
        ⟨n + cfg.confirmThreshold - 1, by omega⟩
      rw [hlast, moves_iff hs htarget ht (hkept last (by omega) (by omega)), le_streak_iff]
      refine ⟨by omega, ?_⟩
      intro j hj hjlast
      obtain ⟨hhealthy, hclass⟩ := hasked j (by omega) (by omega)
      exact (supports_iff _ _ _ _ _).mpr ⟨hhealthy, hkept j (by omega) (by omega), hclass⟩

/-- A device that is probed without load and without failures for ever. -/
def idlePolls (_ : ℕ) : Poll :=
  ⟨[], ⟨true, true, true, false, false, 0, true, 1, 1, 0, 0, ""⟩⟩

/-- Two such probes make a new device ready. -/
theorem idlePolls_confirmed :
    (machineAt defaultLifecycleConfig idlePolls (0 + 2)).state = .ready := by
  refine (confirmation_hysteresis defaultLifecycleConfig idlePolls .unknown .ready (Or.inl rfl)
    (Or.inl rfl) (by decide) 0 rfl).2 ?_
  intro j _ hj
  change j < 2 at hj
  obtain rfl | rfl : j = 0 ∨ j = 1 := by omega
  · decide +kernel
  · decide +kernel

end GpuSidecar.Lifecycle
