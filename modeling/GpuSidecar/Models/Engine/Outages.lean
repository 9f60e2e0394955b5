import GpuSidecar.Models.Engine.Workers
import GpuSidecar.Models.Lifecycle.History
import Mathlib.Data.Nat.Count

/-!
# Disconnects and rejoins

The supervisor counts a disconnect when it finds a device offline for the first time
and a rejoin when it next finds it recovering. That every disconnect is matched by one
rejoin rests on the lifecycle machine: an offline device stays offline or starts to
recover, and does nothing else. This file reads the edge detector off one poll and
follows it through every run with a clock that does not go back.
-/

namespace GpuSidecar.Engine

open Lifecycle Run Time

/-- The part of a device that counts its outages. -/
structure Outages where
  wasOffline : Bool
  offlineMono : ℤ
  disconnectCount : ℕ
  rejoinCount : ℕ
  lastRecoveryMs : ℚ

/-- A poll that finds a device offline for the first time. -/
def Outages.disconnected (o : Outages) (state : LifecycleState) (mono : ℤ) : Outages :=
  if state = .offline ∧ o.wasOffline = false then
    { o with
      wasOffline := true, offlineMono := mono, disconnectCount := o.disconnectCount + 1 }
  else o

/-- A poll that finds a device recovering after an outage. -/
def Outages.rejoined (o : Outages) (state : LifecycleState) (mono : ℤ) : Outages :=
  if o.wasOffline = true ∧ state = .recovering then
    { o with
      wasOffline := false
      rejoinCount := o.rejoinCount + 1
      lastRecoveryMs := milliseconds (mono - o.offlineMono) }
  else o

namespace DeviceState

def outages (ds : DeviceState) : Outages where
  wasOffline := ds.wasOffline
  offlineMono := ds.offlineMono
  disconnectCount := ds.hist.rel.disconnectCount
  rejoinCount := ds.hist.rel.rejoinCount
  lastRecoveryMs := ds.hist.rel.lastRecoveryMs

theorem assess_outages (exp : ℚ → ℚ) (ds : DeviceState) (h : Health) (mono wall : ℤ) :
    (ds.assess exp h mono wall).1.outages = ds.outages := by
  simp only [assess, DeviceHistory.observeUncorr]
  split
  · split <;> rfl
  · rfl

theorem detectDisconnect_outages (ds : DeviceState) (mono wall : ℤ) :
    (ds.detectDisconnect mono wall).outages = ds.outages.disconnected ds.machine.state mono ∧
      (ds.detectDisconnect mono wall).machine = ds.machine := by
  by_cases hfirst : ds.machine.state = .offline ∧ ds.wasOffline = false
  · rw [detectDisconnect, if_pos hfirst]
    exact ⟨(if_pos hfirst).symm, rfl⟩
  · rw [detectDisconnect, if_neg hfirst]
    exact ⟨(if_neg hfirst).symm, rfl⟩

theorem detectRejoin_outages (ds : DeviceState) (mono wall : ℤ) :
    (ds.detectRejoin mono wall).outages = ds.outages.rejoined ds.machine.state mono ∧
      (ds.detectRejoin mono wall).machine = ds.machine := by
  by_cases hback : ds.wasOffline = true ∧ ds.machine.state = .recovering
  · rw [detectRejoin, if_pos hback]
    exact ⟨(if_pos hback).symm, rfl⟩
  · rw [detectRejoin, if_neg hback]
    exact ⟨(if_neg hback).symm, rfl⟩

/-- The worker part has no say in outages. -/
theorem Alike.outages {ds ds' : DeviceState} (h : ds.Alike ds') :
    ds'.outages = ds.outages ∧ ds'.machine = ds.machine := by
  obtain ⟨w, rfl⟩ := h
  exact ⟨rfl, rfl⟩

/-- An operator's call touches the drain flag of the machine and no count of outages. -/
theorem call_outages (ds : DeviceState) (c : OperatorCall) :
    (ds.call c).outages = ds.outages ∧ ∃ d, (ds.call c).machine = ds.machine.setDraining d := by
  cases c with
  | setDraining d source now =>
    have hm := ds.machine.setDrainingChecked_machine d
    simp only [call, setDraining]
    split
    · exact ⟨rfl, d, hm⟩
    · exact ⟨rfl, d, hm⟩
  | setThroughputVariance cov => exact ⟨rfl, ds.machine.draining, rfl⟩

theorem calls_outages (ds : DeviceState) (calls : List OperatorCall) :
    (calls.foldl call ds).outages = ds.outages ∧
      ∃ d, (calls.foldl call ds).machine = ds.machine.setDraining d := by
  induction calls generalizing ds with
  | nil => exact ⟨rfl, ds.machine.draining, rfl⟩
  | cons c calls ih =>
    obtain ⟨hout, d, hd⟩ := call_outages ds c
    obtain ⟨hout', d', hd'⟩ := ih (ds.call c)
    refine ⟨hout'.trans hout, d', ?_⟩
    rw [List.foldl_cons, hd', hd]
    rfl

end DeviceState

namespace Supervisor

open DeviceState

/-- A poll steps the machine once and lets the edge detector see the state it reaches. -/
theorem pollDevice_outages (s : Supervisor) (exp : ℚ → ℚ) (ds : DeviceState) (p : Probe) :
    (s.pollDevice exp ds p).machine = (ds.machine.step (s.observation exp ds p)).1 ∧
      (s.pollDevice exp ds p).outages =
        (ds.outages.disconnected (s.pollDevice exp ds p).machine.state p.mono).rejoined
          (s.pollDevice exp ds p).machine.state p.mono := by
  have hassess : (s.stepped exp ds p).outages = ds.outages :=
    assess_outages exp ds (s.health p) p.mono p.wall
  obtain ⟨hdisc, hdiscm⟩ := (s.stepped exp ds p).detectDisconnect_outages p.mono p.wall
  obtain ⟨hrej, hrejm⟩ :=
    ((s.stepped exp ds p).detectDisconnect p.mono p.wall).detectRejoin_outages p.mono p.wall
  have halike : (((s.stepped exp ds p).detectDisconnect p.mono p.wall).detectRejoin p.mono
      p.wall).Alike ((s.examine exp ds p).1.detectWorkers (s.health p) p.mono p.wall) := by
    rw [examine_eq]
    exact (alike_congruence.reportPoll (Alike.refl _) _ _ _ _).trans (alike_detectWorkers _ _ _ _)
  obtain ⟨hout, hm⟩ := halike.outages
  have hmachine : (s.pollDevice exp ds p).machine = (s.stepped exp ds p).machine :=
    hm.trans (hrejm.trans hdiscm)
  have houtages : (s.pollDevice exp ds p).outages = _ := hout
  refine ⟨hmachine, ?_⟩
  rw [houtages, hrej, hdisc, hassess, hdiscm, hmachine]

/-- A poll publishes the state that the machine reaches. -/
theorem pollDevice_published (s : Supervisor) (exp : ℚ → ℚ) (ds : DeviceState) (p : Probe) :
    (s.pollDevice exp ds p).published = some (s.pollDevice exp ds p).machine.state := rfl

end Supervisor

/-! ### The edges of an outage -/

/-- An offline machine stays offline or starts to recover. -/
theorem step_of_offline {m : LifecycleMachine} (hm : m.WellLatched) (hoff : m.state = .offline)
    (o : LifecycleObservation) :
    (m.step o).1.state = .offline ∨ (m.step o).1.state = .recovering := by
  have hphase : m.phase = .offline := (m.phase_eq_offline_iff).mpr hoff
  have hstep : (m.step o).1.phase = (m.control.step m.cfg o).phase :=
    congrArg Control.phase (LifecycleMachine.step_control hm o).1
  rw [LifecycleMachine.control, hphase, Control.step] at hstep
  by_cases hhard : o.hard = true
  · rw [if_pos hhard] at hstep
    exact Or.inl ((LifecycleMachine.phase_eq_offline_iff _).mp hstep)
  · rw [if_neg hhard] at hstep
    by_cases hsoft : o.soft = true
    · rw [if_pos hsoft] at hstep
      refine Or.inl ((LifecycleMachine.phase_eq_offline_iff _).mp (hstep.trans ?_))
      exact ite_self _
    · rw [if_neg hsoft] at hstep
      exact Or.inr (LifecycleMachine.state_of_phase_recovering hstep)

/-- The edge detector remembers whether the machine is offline. -/
structure DeviceState.Tracks (ds : DeviceState) : Prop where
  latched : ds.machine.WellLatched
  wasOffline : ds.wasOffline = true ↔ ds.machine.state = .offline
  published : ds.published = some .offline ↔ ds.machine.state = .offline

/-- What one turn does to a device's outages. -/
inductive Edge (mono : ℤ) (ds ds' : DeviceState) : Prop
  | serving (hbefore : ds.machine.state ≠ .offline) (hafter : ds'.machine.state ≠ .offline)
      (hout : ds'.outages = ds.outages)
  | disconnects (hbefore : ds.machine.state ≠ .offline) (hafter : ds'.machine.state = .offline)
      (hout : ds'.outages = { ds.outages with
        wasOffline := true, offlineMono := mono
        disconnectCount := ds.outages.disconnectCount + 1 })
  | offline (hbefore : ds.machine.state = .offline) (hafter : ds'.machine.state = .offline)
      (hout : ds'.outages = ds.outages)
  | rejoins (hbefore : ds.machine.state = .offline) (hafter : ds'.machine.state = .recovering)
      (hout : ds'.outages = { ds.outages with
        wasOffline := false
        rejoinCount := ds.outages.rejoinCount + 1
        lastRecoveryMs := milliseconds (mono - ds.outages.offlineMono) })

namespace Supervisor

open DeviceState

theorem turn_machine (s : Supervisor) (exp : ℚ → ℚ) (ds : DeviceState) (t : Turn) :
    ∃ d o, (s.turn exp ds t).machine = ((ds.machine.setDraining d).step o).1 := by
  obtain ⟨d, hd⟩ := (calls_outages ds t.calls).2
  refine ⟨d, s.observation exp (t.calls.foldl DeviceState.call ds) t.probe, ?_⟩
  rw [turn, (s.pollDevice_outages exp _ t.probe).1, hd]

theorem turn_outages (s : Supervisor) (exp : ℚ → ℚ) (ds : DeviceState) (t : Turn) :
    (s.turn exp ds t).outages =
      (ds.outages.disconnected (s.turn exp ds t).machine.state t.probe.mono).rejoined
        (s.turn exp ds t).machine.state t.probe.mono := by
  rw [turn, (s.pollDevice_outages exp _ t.probe).2, (calls_outages ds t.calls).1]

/-- Every turn is one of the four edges. -/
theorem turn_edge (s : Supervisor) (exp : ℚ → ℚ) {ds : DeviceState} (h : ds.Tracks) (t : Turn) :
    Edge t.probe.mono ds (s.turn exp ds t) := by
  have hout := s.turn_outages exp ds t
  by_cases hoff : ds.machine.state = .offline
  · have hwas : ds.outages.wasOffline = true := h.wasOffline.mpr hoff
    obtain ⟨d, o, hm⟩ := s.turn_machine exp ds t
    have hnext := step_of_offline (h.latched.setDraining d) hoff o
    rw [← hm] at hnext
    rw [Outages.disconnected, if_neg (by simp [hwas])] at hout
    rcases hnext with hnext | hnext
    · refine .offline hoff hnext ?_
      rw [hout, Outages.rejoined, if_neg (by simp [hnext])]
    · refine .rejoins hoff hnext ?_
      rw [hout, Outages.rejoined, if_pos ⟨hwas, hnext⟩]
  · have hwas : ds.outages.wasOffline = false := by
      rw [← Bool.not_eq_true]
      exact fun hw => hoff (h.wasOffline.mp hw)
    by_cases hnext : (s.turn exp ds t).machine.state = .offline
    · refine .disconnects hoff hnext ?_
      rw [hout, Outages.disconnected, if_pos ⟨hnext, hwas⟩, Outages.rejoined,
        if_neg (by simp [hnext])]
    · refine .serving hoff hnext ?_
      rw [hout, Outages.disconnected, if_neg (by simp [hnext]), Outages.rejoined,
        if_neg (by simp [hwas])]

theorem init_tracks (s : Supervisor) (deviceID : String) : (s.init deviceID).Tracks where
  latched := by simp [init, LifecycleMachine.WellLatched, newLifecycleMachine]
  wasOffline := by simp [init, newLifecycleMachine]
  published := by simp [init, newLifecycleMachine, DeviceState.published]

/-- A turn keeps the edge detector in step with the machine. -/
theorem turn_tracks (s : Supervisor) (exp : ℚ → ℚ) {ds : DeviceState} (h : ds.Tracks)
    (t : Turn) : (s.turn exp ds t).Tracks where
  latched := by
    obtain ⟨d, o, hm⟩ := s.turn_machine exp ds t
    rw [hm]
    exact (LifecycleMachine.step_control (h.latched.setDraining d) o).2
  wasOffline := by
    have hwas : (s.turn exp ds t).wasOffline = (s.turn exp ds t).outages.wasOffline := rfl
    rw [hwas]
    rcases s.turn_edge exp h t with ⟨hb, ha, ho⟩ | ⟨hb, ha, ho⟩ | ⟨hb, ha, ho⟩ | ⟨hb, ha, ho⟩
    · rw [ho]
      exact iff_of_false (fun hw => hb (h.wasOffline.mp hw)) ha
    · rw [ho]
      exact iff_of_true rfl ha
    · rw [ho]
      exact iff_of_true (h.wasOffline.mpr hb) ha
    · rw [ho, ha]
      simp
  published := by
    rw [turn, pollDevice_published, Option.some.injEq]

end Supervisor

/-! ### Runs of a device -/

section Runs

variable (s : Supervisor) (exp : ℚ → ℚ) (deviceID : String) (turns : ℕ → Turn)

/-- The lifecycle state that is published before turn `n` of a run. -/
def Supervisor.publishedAt (n : ℕ) : Option LifecycleState :=
  (s.deviceAt exp deviceID turns n).published

/-- The reliability figures before turn `n` of a run. -/
def Supervisor.relAt (n : ℕ) : Reliability := (s.deviceAt exp deviceID turns n).hist.rel

/-- At turn `n` the published state becomes offline. -/
def Supervisor.EntersOffline (n : ℕ) : Prop :=
  s.publishedAt exp deviceID turns (n + 1) = some .offline ∧
    s.publishedAt exp deviceID turns n ≠ some .offline

instance : DecidablePred (s.EntersOffline exp deviceID turns) :=
  fun _ => inferInstanceAs (Decidable (_ ∧ _))

/-- The accounts of a device's outages after turn `n`. -/
structure Supervisor.AccountsOutages (n : ℕ) : Prop where
  wasOffline : (s.deviceAt exp deviceID turns (n + 1)).wasOffline = true ↔
    s.publishedAt exp deviceID turns (n + 1) = some .offline
  balance : ((s.relAt exp deviceID turns (n + 1)).disconnectCount : ℤ) -
      (s.relAt exp deviceID turns (n + 1)).rejoinCount =
    if s.publishedAt exp deviceID turns (n + 1) = some .offline then 1 else 0
  disconnects : (s.relAt exp deviceID turns (n + 1)).disconnectCount =
    Nat.count (s.EntersOffline exp deviceID turns) (n + 1)
  /-- A turn that counts a rejoin finds the device recovering, and records the time since
  the turn at which it last went offline. -/
  rejoins : (s.relAt exp deviceID turns (n + 1)).rejoinCount ≠
      (s.relAt exp deviceID turns n).rejoinCount →
    s.publishedAt exp deviceID turns n = some .offline ∧
      s.publishedAt exp deviceID turns (n + 1) = some .recovering ∧
      ∃ entry, Latest (s.EntersOffline exp deviceID turns) n entry ∧
        (s.relAt exp deviceID turns (n + 1)).lastRecoveryMs =
          milliseconds ((turns n).probe.mono - (turns entry).probe.mono) ∧
        0 ≤ (s.relAt exp deviceID turns (n + 1)).lastRecoveryMs

/-- Every device that a run reaches has its edge detector in step with the machine. -/
theorem Supervisor.deviceAt_tracks (n : ℕ) : (s.deviceAt exp deviceID turns n).Tracks :=
  stateAt_induction (P := fun _ (ds : DeviceState) => ds.Tracks) (s.init_tracks deviceID)
    (fun k hk => s.turn_tracks exp hk (turns k)) n

theorem Supervisor.deviceAt_edge (n : ℕ) :
    Edge (turns n).probe.mono (s.deviceAt exp deviceID turns n)
      (s.deviceAt exp deviceID turns (n + 1)) :=
  s.turn_edge exp (s.deviceAt_tracks exp deviceID turns n) (turns n)

theorem Supervisor.publishedAt_eq_offline_iff (n : ℕ) :
    s.publishedAt exp deviceID turns n = some .offline ↔
      (s.deviceAt exp deviceID turns n).machine.state = .offline :=
  (s.deviceAt_tracks exp deviceID turns n).published

/-- A turn enters an outage exactly if its edge is a disconnect. -/
theorem Supervisor.entersOffline_iff (n : ℕ) :
    s.EntersOffline exp deviceID turns n ↔
      (s.deviceAt exp deviceID turns (n + 1)).machine.state = .offline ∧
        (s.deviceAt exp deviceID turns n).machine.state ≠ .offline := by
  rw [EntersOffline, ne_eq, publishedAt_eq_offline_iff, publishedAt_eq_offline_iff]

/-- What the counts of a device say about its past. -/
structure Supervisor.Counts (n : ℕ) (ds : DeviceState) : Prop where
  disconnects : ds.outages.disconnectCount = Nat.count (s.EntersOffline exp deviceID turns) n
  balance : ds.outages.disconnectCount =
    ds.outages.rejoinCount + if ds.machine.state = .offline then 1 else 0
  entry : ds.machine.state = .offline → ∃ entry,
    Latest (s.EntersOffline exp deviceID turns) n entry ∧
      ds.outages.offlineMono = (turns entry).probe.mono

theorem Supervisor.deviceAt_counts (n : ℕ) :
    s.Counts exp deviceID turns n (s.deviceAt exp deviceID turns n) := by
  induction n with
  | zero =>
    refine ⟨rfl, rfl, fun hoff => ?_⟩
    simp [deviceAt, init, newLifecycleMachine] at hoff
  | succ n ih =>
    have henter := s.entersOffline_iff exp deviceID turns n
    obtain ⟨hcount, hbal, hentry⟩ := ih
    rcases s.deviceAt_edge exp deviceID turns n with
      ⟨hb, ha, ho⟩ | ⟨hb, ha, ho⟩ | ⟨hb, ha, ho⟩ | ⟨hb, ha, ho⟩
    · have hno : ¬ s.EntersOffline exp deviceID turns n := fun h => ha (henter.mp h).1
      rw [if_neg hb] at hbal
      refine ⟨?_, ?_, fun hoff => absurd hoff ha⟩
      · rw [ho, Nat.count_succ, if_neg hno, hcount, add_zero]
      · rw [ho, if_neg ha, hbal]
    · have hyes : s.EntersOffline exp deviceID turns n := henter.mpr ⟨ha, hb⟩
      rw [if_neg hb, add_zero] at hbal
      refine ⟨?_, ?_, fun _ => ⟨n, latest_succ_self hyes, by rw [ho]⟩⟩
      · rw [ho, Nat.count_succ, if_pos hyes, hcount]
      · rw [ho, if_pos ha, hbal]
    · have hno : ¬ s.EntersOffline exp deviceID turns n := fun h => (henter.mp h).2 hb
      obtain ⟨entry, hlatest, hmono⟩ := hentry hb
      rw [if_pos hb] at hbal
      refine ⟨?_, ?_, fun _ => ⟨entry, hlatest.succ hno, by rw [ho, hmono]⟩⟩
      · rw [ho, Nat.count_succ, if_neg hno, hcount, add_zero]
      · rw [ho, if_pos ha, hbal]
    · have hno : ¬ s.EntersOffline exp deviceID turns n := fun h => (henter.mp h).2 hb
      have hback : (s.deviceAt exp deviceID turns (n + 1)).machine.state ≠ .offline := by
        rw [ha]
        decide
      rw [if_pos hb] at hbal
      refine ⟨?_, ?_, fun hoff => absurd hoff hback⟩
      · rw [ho, Nat.count_succ, if_neg hno, hcount, add_zero]
      · rw [ho, if_neg hback, hbal]

/-- After every turn of every run with a clock that does not go back, the device's outages
are accounted for. -/
theorem Supervisor.accountsOutages
    (hclock : ∀ i j, i ≤ j → (turns i).probe.mono ≤ (turns j).probe.mono) (n : ℕ) :
    s.AccountsOutages exp deviceID turns n := by
  have htrack := s.deviceAt_tracks exp deviceID turns (n + 1)
  have hcounts := s.deviceAt_counts exp deviceID turns (n + 1)
  have hpub := s.publishedAt_eq_offline_iff exp deviceID turns
  have hbal : (s.relAt exp deviceID turns (n + 1)).disconnectCount =
      (s.relAt exp deviceID turns (n + 1)).rejoinCount +
        if (s.deviceAt exp deviceID turns (n + 1)).machine.state = .offline then 1 else 0 :=
    hcounts.balance
  refine ⟨htrack.wasOffline.trans (hpub (n + 1)).symm, ?_, hcounts.disconnects, fun hrej => ?_⟩
  · rw [hbal]
    by_cases hoff : (s.deviceAt exp deviceID turns (n + 1)).machine.state = .offline
    · rw [if_pos hoff, if_pos ((hpub (n + 1)).mpr hoff)]
      omega
    · rw [if_neg hoff, if_neg (fun h => hoff ((hpub (n + 1)).mp h))]
      omega
  · rcases s.deviceAt_edge exp deviceID turns n with
      ⟨-, -, ho⟩ | ⟨-, -, ho⟩ | ⟨-, -, ho⟩ | ⟨hb, ha, ho⟩
    · exact absurd (congrArg Outages.rejoinCount ho) hrej
    · exact absurd (congrArg Outages.rejoinCount ho) hrej
    · exact absurd (congrArg Outages.rejoinCount ho) hrej
    · obtain ⟨entry, hlatest, hmono⟩ := (s.deviceAt_counts exp deviceID turns n).entry hb
      have hrec : (s.relAt exp deviceID turns (n + 1)).lastRecoveryMs =
          milliseconds ((turns n).probe.mono - (turns entry).probe.mono) := by
        rw [← hmono]
        exact congrArg Outages.lastRecoveryMs ho
      refine ⟨(hpub n).mpr hb, ?_, entry, hlatest, hrec, ?_⟩
      · exact congrArg some ha
      · rw [hrec]
        have hle := hclock entry n hlatest.1.le
        exact_mod_cast milliseconds_nonneg (sub_nonneg.mpr hle)

end Runs

/-- A device that is gone at the second poll and back at the third. -/
def shortOutage (n : ℕ) : Turn := plainTurn (n == 1) .unsup n

theorem shortOutage_accounted :
    (∀ i j, i ≤ j → (shortOutage i).probe.mono ≤ (shortOutage j).probe.mono) ∧
      (smallSupervisor.relAt (fun _ => 1) "0" shortOutage 3).rejoinCount = 1 ∧
      smallSupervisor.AccountsOutages (fun _ => 1) "0" shortOutage 2 := by
  have hclock : ∀ i j, i ≤ j → (shortOutage i).probe.mono ≤ (shortOutage j).probe.mono := by
    intro i j hij
    simp only [shortOutage, plainTurn]
    omega
  exact ⟨hclock, by decide +kernel, Supervisor.accountsOutages _ _ _ _ hclock 2⟩

end GpuSidecar.Engine
