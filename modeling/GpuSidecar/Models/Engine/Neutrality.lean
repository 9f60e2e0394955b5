import GpuSidecar.Models.Engine.Workers

/-!
# Worker disappearances are neutral

A process count that falls says nothing about the health of a device. This file proves
it of the whole poll: two runs over the same clocks, samples and access results that
differ in their process counts publish the same stability scores and lifecycle states,
as long as neither observes a rapid restart. The two devices differ in their worker
parts only, and the one thing that leaves a worker part is the number of rapid restarts.
-/

namespace GpuSidecar.Engine

open Lifecycle Run Time

/-! ### What the score reads -/

namespace DeviceHistory

theorem recordProbe_withWorkers (d : DeviceHistory) (w : WorkerPart) (ok : Bool) (latencyMs : ℚ)
    (mono wall : ℤ) :
    (d.withWorkers w).recordProbe ok latencyMs mono wall =
      (d.recordProbe ok latencyMs mono wall).withWorkers w := rfl

theorem observeUncorr_withWorkers (d : DeviceHistory) (w : WorkerPart) (cur : ℕ)
    (supported : Bool) :
    (d.withWorkers w).observeUncorr cur supported =
      ((d.observeUncorr cur supported).1.withWorkers w, (d.observeUncorr cur supported).2) := by
  exact observeUncorr_comm (·.withWorkers w) (fun _ => rfl) (fun _ => rfl) (fun _ _ _ => rfl) d cur
    supported

end DeviceHistory

namespace DeviceState

/-- The history and the new uncorrectable errors after a probe was recorded. -/
def recorded (ds : DeviceState) (h : Health) (mono wall : ℤ) : DeviceHistory × ℕ :=
  (ds.hist.recordProbe (h.gpuVisible && h.gpuAccessible) h.probeLatencyMs mono wall).observeUncorr
    (uncorrectable h).1 (uncorrectable h).2

theorem recorded_withWorkers (ds : DeviceState) (w : WorkerPart) (h : Health) (mono wall : ℤ) :
    (ds.withWorkers w).recorded h mono wall =
      ((ds.recorded h mono wall).1.withWorkers w, (ds.recorded h mono wall).2) := by
  rw [recorded, withWorkers, DeviceHistory.recordProbe_withWorkers,
    DeviceHistory.observeUncorr_withWorkers]
  rfl

/-- The score of a device whose log has no rapid restarts. -/
def calmScore (exp : ℚ → ℚ) (ds : DeviceState) (h : Health) (mono wall : ℤ) :
    StabilityCalc × StabilityScore :=
  ds.stab.update exp
    (stabilityInputs (ds.recorded h mono wall).1 (ds.recorded h mono wall).2 0 0 mono) wall

theorem calmScore_withWorkers (exp : ℚ → ℚ) (ds : DeviceState) (w : WorkerPart) (h : Health)
    (mono wall : ℤ) :
    (ds.withWorkers w).calmScore exp h mono wall = ds.calmScore exp h mono wall := by
  rw [calmScore, recorded_withWorkers]
  rfl

theorem stabilityInputs_disappeared (hist : DeviceHistory) (newUncorr disappeared rapid : ℕ)
    (mono : ℤ) :
    stabilityInputs hist newUncorr disappeared rapid mono =
      { stabilityInputs hist newUncorr 0 rapid mono with
        workerDisappearancesObserved := disappeared } := rfl

/-- Without rapid restarts in the log, the log has no say in the score. -/
theorem assess_of_calm (exp : ℚ → ℚ) {ds : DeviceState} (hcalm : ds.workerEvents.Calm)
    (h : Health) (mono wall : ℤ) :
    ∃ log, ds.assess exp h mono wall =
      ({ ds with
        hist := (ds.recorded h mono wall).1
        stab := (ds.calmScore exp h mono wall).1
        workerEvents := log }, (ds.calmScore exp h mono wall).2, (ds.recorded h mono wall).2) := by
  have hpruned : (ds.workerEvents.disappearancesInWindow mono).1.Calm := by
    intro d hd a ha
    exact hcalm d (mem_of_mem_pruneTimes hd) a ha
  have hzero := hpruned.rapidRestartEvents_eq_zero mono
  refine ⟨((ds.workerEvents.disappearancesInWindow mono).1.rapidRestartEvents mono
    rapidRestartSec).1, ?_⟩
  have hupdate : ds.stab.update exp (stabilityInputs (ds.recorded h mono wall).1
      (ds.recorded h mono wall).2 (ds.workerEvents.disappearancesInWindow mono).2
      ((ds.workerEvents.disappearancesInWindow mono).1.rapidRestartEvents mono
        rapidRestartSec).2 mono) wall = ds.calmScore exp h mono wall := by
    rw [hzero, stabilityInputs_disappeared, StabilityCalc.update_withDisappearances, calmScore]
  rw [← hupdate]
  rfl

/-- Publishing the same score keeps devices alike, whatever process counts are published. -/
theorem Alike.publish {ds ds' : DeviceState} (h : ds.Alike ds') (health : Health)
    (procs procs' : Field ℤ) (stab : StabilityScore) (mono wall : ℤ) :
    (ds.publish { health with computeProcs := procs } stab mono wall).Alike
      (ds'.publish { health with computeProcs := procs' } stab mono wall) := by
  obtain ⟨w, rfl⟩ := h
  exact ⟨((ds.withWorkers w).publish _ stab mono wall).workers, rfl⟩

end DeviceState

/-! ### Polls that differ in their process counts -/

/-- A probe whose sample has another process count. -/
def Probe.withProcs (p : Probe) (procs : Field ℤ) : Probe :=
  { p with sample := { p.sample with computeProcs := procs } }

namespace Supervisor

open DeviceState

theorem observation_of_calm (s : Supervisor) (exp : ℚ → ℚ) {ds : DeviceState}
    (hcalm : ds.workerEvents.Calm) (p : Probe) :
    s.observation exp ds p =
      lifecycleObservation (s.health p) (ds.calmScore exp (s.health p) p.mono p.wall).2.score
        (ds.recorded (s.health p) p.mono p.wall).2 p.mono := by
  obtain ⟨log, hassess⟩ := assess_of_calm exp hcalm (s.health p) p.mono p.wall
  rw [observation, hassess]

/-- Without rapid restarts, process counts have no say in the lifecycle step. -/
theorem stepped_alike (s : Supervisor) (exp : ℚ → ℚ) {ds ds' : DeviceState} (h : ds.Alike ds')
    (hcalm : ds.workerEvents.Calm) (hcalm' : ds'.workerEvents.Calm) (p : Probe)
    (procs : Field ℤ) :
    (s.stepped exp ds p).Alike (s.stepped exp ds' (p.withProcs procs)) ∧
      s.observation exp ds p = s.observation exp ds' (p.withProcs procs) ∧
      (ds.assess exp (s.health p) p.mono p.wall).2.1 =
        (ds'.assess exp (s.health (p.withProcs procs)) p.mono p.wall).2.1 := by
  obtain ⟨w, rfl⟩ := h
  obtain ⟨log, hassess⟩ := assess_of_calm exp hcalm (s.health p) p.mono p.wall
  obtain ⟨log', hassess'⟩ :=
    assess_of_calm exp hcalm' (s.health (p.withProcs procs)) p.mono p.wall
  rw [recorded_withWorkers, calmScore_withWorkers] at hassess'
  have hobs : s.observation exp ds p =
      s.observation exp (ds.withWorkers w) (p.withProcs procs) := by
    rw [s.observation_of_calm exp hcalm, s.observation_of_calm exp hcalm', calmScore_withWorkers,
      recorded_withWorkers]
    rfl
  refine ⟨⟨{ w with workerEvents := log' }, ?_⟩, hobs, ?_⟩
  · have hmono : (p.withProcs procs).mono = p.mono := rfl
    have hwall : (p.withProcs procs).wall = p.wall := rfl
    rw [stepped, stepped, ← hobs, hmono, hwall, hassess, hassess']
    rfl
  · rw [hassess, hassess']
    rfl

/-- Without rapid restarts, polls that differ in their process counts keep devices alike and
publish the same score and state. -/
theorem pollDevice_alike (s : Supervisor) (exp : ℚ → ℚ) {ds ds' : DeviceState}
    (h : ds.Alike ds') (hcalm : ds.workerEvents.Calm) (hcalm' : ds'.workerEvents.Calm)
    (p : Probe) (procs : Field ℤ) :
    (s.pollDevice exp ds p).Alike (s.pollDevice exp ds' (p.withProcs procs)) ∧
      (s.pollDevice exp ds p).publishedScore =
        (s.pollDevice exp ds' (p.withProcs procs)).publishedScore ∧
      (s.pollDevice exp ds p).published =
        (s.pollDevice exp ds' (p.withProcs procs)).published := by
  obtain ⟨hstep, hobs, hscore⟩ := s.stepped_alike exp h hcalm hcalm' p procs
  have hexamine : (s.examine exp ds p).1.Alike (s.examine exp ds' (p.withProcs procs)).1 :=
    examine_congr alike_congruence s exp rfl rfl hstep
  have hstab : (s.examine exp ds' (p.withProcs procs)).2 = (s.examine exp ds p).2 := hscore.symm
  have hdetect := alike_detectWorkers (s.examine exp ds p).1 (s.health p) p.mono p.wall
  have hworkers := (hdetect.symm.trans hexamine).trans
    (alike_detectWorkers _ (s.health (p.withProcs procs)) p.mono p.wall)
  have hpoll := hworkers.publish (s.health p) (s.health p).computeProcs procs
    (s.examine exp ds p).2 p.mono p.wall
  have halike : (s.pollDevice exp ds p).Alike (s.pollDevice exp ds' (p.withProcs procs)) := by
    rw [pollDevice_eq, pollDevice_eq, hstab]
    exact hpoll
  obtain ⟨w, hw⟩ := halike
  have hmachine : (s.pollDevice exp ds p).machine =
      (s.pollDevice exp ds' (p.withProcs procs)).machine := by
    rw [hw]
    rfl
  refine ⟨⟨w, hw⟩, ?_, ?_⟩
  · exact congrArg (fun stab : StabilityScore => some stab.score) hstab.symm
  · exact congrArg (fun m : LifecycleMachine => some m.state) hmachine

end Supervisor

/-! ### Runs that differ in their process counts -/

/-- A turn whose sample has another process count. -/
def Turn.withProcs (t : Turn) (procs : Field ℤ) : Turn :=
  { t with probe := t.probe.withProcs procs }

/-- Before turn `n`, no observed increase of the process count came within ten seconds after
an observed decrease. -/
def NoRapidRestart (turns : ℕ → Turn) (n : ℕ) : Prop :=
  ∀ i, i < n → ∀ j, j < n → changeAt turns i < 0 → 0 < changeAt turns j →
    ¬ ((turns i).probe.mono < (turns j).probe.mono ∧
      (turns j).probe.mono - (turns i).probe.mono ≤ ofSeconds rapidRestartSec)

instance (turns : ℕ → Turn) (n : ℕ) : Decidable (NoRapidRestart turns n) :=
  inferInstanceAs (Decidable (∀ i, i < n → ∀ j, j < n → _))

section Runs

variable (s : Supervisor) (exp : ℚ → ℚ) (deviceID : String) (turns : ℕ → Turn)

/-- Every entry of the log is the time of a turn that observed such a change. -/
theorem Supervisor.mem_log (n : ℕ) :
    (∀ t ∈ (s.deviceAt exp deviceID turns n).workerEvents.disappearances,
        ∃ i, i < n ∧ t = (turns i).probe.mono ∧ changeAt turns i < 0) ∧
      ∀ t ∈ (s.deviceAt exp deviceID turns n).workerEvents.appearances,
        ∃ i, i < n ∧ t = (turns i).probe.mono ∧ 0 < changeAt turns i := by
  induction n with
  | zero => exact ⟨fun t ht => absurd ht List.not_mem_nil, fun t ht => absurd ht List.not_mem_nil⟩
  | succ n ih =>
    obtain ⟨hdown, hup⟩ := s.pollDevice_log exp
      ((turns n).calls.foldl DeviceState.call (s.deviceAt exp deviceID turns n)) (turns n).probe
    rw [observedChange_deviceAt, (DeviceState.passes_calls _ _).log] at hdown hup
    refine ⟨fun t ht => ?_, fun t ht => ?_⟩
    · rcases hdown t ht with hold | ⟨htime, hchange⟩
      · obtain ⟨i, hi, hrest⟩ := ih.1 t hold
        exact ⟨i, Nat.lt_succ_of_lt hi, hrest⟩
      · exact ⟨n, Nat.lt_succ_self n, htime, hchange⟩
    · rcases hup t ht with hold | ⟨htime, hchange⟩
      · obtain ⟨i, hi, hrest⟩ := ih.2 t hold
        exact ⟨i, Nat.lt_succ_of_lt hi, hrest⟩
      · exact ⟨n, Nat.lt_succ_self n, htime, hchange⟩

/-- A run that observes no rapid restart keeps a log without any. -/
theorem NoRapidRestart.calm {n : ℕ} (h : NoRapidRestart turns n) :
    (s.deviceAt exp deviceID turns n).workerEvents.Calm := by
  obtain ⟨hdown, hup⟩ := s.mem_log exp deviceID turns n
  intro d hd a ha
  obtain ⟨i, hi, rfl, hneg⟩ := hdown d hd
  obtain ⟨j, hj, rfl, hpos⟩ := hup a ha
  exact h i hi j hj hneg hpos

theorem NoRapidRestart.of_succ {n : ℕ} (h : NoRapidRestart turns (n + 1)) :
    NoRapidRestart turns n :=
  fun i hi j hj => h i (Nat.lt_succ_of_lt hi) j (Nat.lt_succ_of_lt hj)

/-- One more turn keeps the devices of two runs alike and publishes the same. -/
theorem Supervisor.deviceAt_succ_alike (turns' : ℕ → Turn) {n : ℕ} {procs : Field ℤ}
    (hturn : turns' n = (turns n).withProcs procs)
    (h : (s.deviceAt exp deviceID turns n).Alike (s.deviceAt exp deviceID turns' n))
    (hrun : NoRapidRestart turns n) (hrun' : NoRapidRestart turns' n) :
    (s.deviceAt exp deviceID turns (n + 1)).Alike (s.deviceAt exp deviceID turns' (n + 1)) ∧
      (s.deviceAt exp deviceID turns (n + 1)).publishedScore =
        (s.deviceAt exp deviceID turns' (n + 1)).publishedScore ∧
      (s.deviceAt exp deviceID turns (n + 1)).published =
        (s.deviceAt exp deviceID turns' (n + 1)).published := by
  have hcalm := hrun.calm s exp deviceID
  have hcalm' := hrun'.calm s exp deviceID
  have hcalls := DeviceState.alike_congruence.calls h (turns n).calls
  rw [← (DeviceState.passes_calls _ (turns n).calls).log] at hcalm hcalm'
  have hpoll := s.pollDevice_alike exp hcalls hcalm hcalm' (turns n).probe procs
  have hnext' : s.deviceAt exp deviceID turns' (n + 1) =
      s.turn exp (s.deviceAt exp deviceID turns' n) (turns' n) := rfl
  rw [hnext', hturn]
  exact hpoll

/-- Two runs that differ in their process counts, and of which neither observes a rapid
restart, keep devices that are alike. -/
theorem Supervisor.deviceAt_alike (procs : ℕ → Field ℤ) {n : ℕ} (hrun : NoRapidRestart turns n)
    (hrun' : NoRapidRestart (fun i => (turns i).withProcs (procs i)) n) :
    (s.deviceAt exp deviceID turns n).Alike
      (s.deviceAt exp deviceID (fun i => (turns i).withProcs (procs i)) n) := by
  induction n with
  | zero => exact DeviceState.Alike.refl _
  | succ n ih =>
    have halike := ih hrun.of_succ hrun'.of_succ
    exact (s.deviceAt_succ_alike exp deviceID turns _ rfl halike hrun.of_succ hrun'.of_succ).1

/-- Two runs that differ in their process counts, and of which neither observes a rapid
restart, publish the same score and the same state after every turn. -/
theorem Supervisor.workers_neutral (procs : ℕ → Field ℤ) (n : ℕ) (hrun : NoRapidRestart turns n)
    (hrun' : NoRapidRestart (fun i => (turns i).withProcs (procs i)) n) :
    (s.deviceAt exp deviceID turns n).publishedScore =
        (s.deviceAt exp deviceID (fun i => (turns i).withProcs (procs i)) n).publishedScore ∧
      (s.deviceAt exp deviceID turns n).published =
        (s.deviceAt exp deviceID (fun i => (turns i).withProcs (procs i)) n).published := by
  cases n with
  | zero => exact ⟨rfl, rfl⟩
  | succ n =>
    have halike := s.deviceAt_alike exp deviceID turns procs hrun.of_succ hrun'.of_succ
    exact (s.deviceAt_succ_alike exp deviceID turns _ rfl halike hrun.of_succ hrun'.of_succ).2

end Runs

/-- A device whose two workers end at the second poll. -/
def scaledDown (n : ℕ) : Turn := plainTurn false (.sup (if n = 0 then 2 else 0)) n

/-- Scaling down publishes what a device without any process count publishes. -/
theorem scaledDown_neutral :
    NoRapidRestart scaledDown 4 ∧
      NoRapidRestart (fun n => (scaledDown n).withProcs .unsup) 4 ∧
      (smallSupervisor.deviceAt (fun _ => 1) "0" scaledDown 4).publishedScore =
        (smallSupervisor.deviceAt (fun _ => 1) "0"
          (fun n => (scaledDown n).withProcs .unsup) 4).publishedScore ∧
      (smallSupervisor.deviceAt (fun _ => 1) "0" scaledDown 4).published =
        (smallSupervisor.deviceAt (fun _ => 1) "0"
          (fun n => (scaledDown n).withProcs .unsup) 4).published := by
  have hrun : NoRapidRestart scaledDown 4 := by decide
  have hrun' : NoRapidRestart (fun n => (scaledDown n).withProcs .unsup) 4 := by decide
  exact ⟨hrun, hrun', Supervisor.workers_neutral _ _ _ _ (fun _ => .unsup) 4 hrun hrun'⟩

end GpuSidecar.Engine
