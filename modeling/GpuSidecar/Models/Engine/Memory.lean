import GpuSidecar.Models.Engine.Adapters
import GpuSidecar.Models.Engine.Outages
import GpuSidecar.Models.Lifecycle.FreeMemory

/-!
# Unknown memory

The free memory ratio of a sample is a bare number that stays zero where memory is
unknown. A poll that compares it with the threshold of the lifecycle machine therefore
takes unknown memory for no free memory, unless the threshold is negative. Everything else
that a poll reads of memory goes into reports: two runs that differ in their memory figures
only keep the same course, and publish the same states, as long as no poll with unknown
memory gets as far as the comparison.
-/

namespace GpuSidecar.Engine

open Lifecycle Run Text

/-! ### What a device holds for its readers only -/

/-- The events, the time series and the status of the last poll. -/
structure Reports where
  events : RingBuffer Event
  points : RingBuffer HistoryPoint
  lastStatus : Option DeviceStatus

def DeviceHistory.withReports (d : DeviceHistory) (r : Reports) : DeviceHistory :=
  { d with events := r.events, points := r.points }

theorem DeviceHistory.observeUncorr_withReports (d : DeviceHistory) (r : Reports) (cur : ℕ)
    (supported : Bool) :
    (d.withReports r).observeUncorr cur supported =
      ((d.observeUncorr cur supported).1.withReports r, (d.observeUncorr cur supported).2) := by
  exact observeUncorr_comm (·.withReports r) (fun _ => rfl) (fun _ => rfl) (fun _ _ _ => rfl) d cur
    supported

namespace DeviceState

def withReports (ds : DeviceState) (r : Reports) : DeviceState :=
  { ds with hist := ds.hist.withReports r, lastStatus := r.lastStatus }

def reports (ds : DeviceState) : Reports where
  events := ds.hist.events
  points := ds.hist.points
  lastStatus := ds.lastStatus

/-- Two devices that differ in their reports only, and agree on the process count of the last
poll. -/
structure SameCourse (ds ds' : DeviceState) : Prop where
  reports : ∃ r, ds' = ds.withReports r
  procs : ds'.lastProcs = ds.lastProcs

theorem SameCourse.refl (ds : DeviceState) : ds.SameCourse ds := ⟨⟨ds.reports, rfl⟩, rfl⟩

theorem SameCourse.symm {ds ds' : DeviceState} (h : ds.SameCourse ds') : ds'.SameCourse ds := by
  obtain ⟨⟨r, rfl⟩, hprocs⟩ := h
  exact ⟨⟨ds.reports, rfl⟩, hprocs.symm⟩

theorem SameCourse.machine {ds ds' : DeviceState} (h : ds.SameCourse ds') :
    ds'.machine = ds.machine := by
  obtain ⟨⟨r, rfl⟩, -⟩ := h
  rfl

theorem sameCourse_congruence : Congruence SameCourse where
  symm := SameCourse.symm
  machine := SameCourse.machine
  wasOffline := by
    rintro _ _ ⟨⟨r, rfl⟩, -⟩
    rfl
  offlineMono := by
    rintro _ _ ⟨⟨r, rfl⟩, -⟩
    rfl
  addEvent := by
    rintro _ _ ⟨⟨r, rfl⟩, hprocs⟩ e
    exact ⟨⟨{ r with events := r.events.push e }, rfl⟩, hprocs⟩
  setMachine := by
    rintro _ _ ⟨⟨r, rfl⟩, hprocs⟩ m
    exact ⟨⟨r, rfl⟩, hprocs⟩
  markDisconnect := by
    rintro _ _ ⟨⟨r, rfl⟩, hprocs⟩ mono
    exact ⟨⟨r, rfl⟩, hprocs⟩
  markRejoin := by
    rintro _ _ ⟨⟨r, rfl⟩, hprocs⟩ recMs
    exact ⟨⟨r, rfl⟩, hprocs⟩
  setThroughputVariance := by
    rintro _ _ ⟨⟨r, rfl⟩, hprocs⟩ cov
    exact ⟨⟨r, rfl⟩, hprocs⟩

/-! ### The stages of a poll -/

/-- The detection of workers reads the memory for an event only. -/
theorem SameCourse.detectWorkers {ds ds' : DeviceState} (h : ds.SameCourse ds')
    (health health' : Health) (hsample : health'.computeProcs = health.computeProcs)
    (mono wall : ℤ) :
    (ds.detectWorkers health mono wall).SameCourse (ds'.detectWorkers health' mono wall) := by
  obtain ⟨⟨r, rfl⟩, hprocs⟩ := h
  unfold DeviceState.detectWorkers
  rw [hsample, hprocs]
  simp only [DeviceHistory.markWorkerStart_iterate, DeviceHistory.markWorkerStop_iterate]
  split
  · exact ⟨⟨r, rfl⟩, hprocs⟩
  split
  · split
    · exact ⟨⟨{ r with events := r.events.push _ }, rfl⟩, hprocs⟩
    · exact ⟨⟨r, rfl⟩, hprocs⟩
  split
  · exact ⟨⟨{ r with events := r.events.push _ }, rfl⟩, hprocs⟩
  split
  · exact ⟨⟨{ r with events := r.events.push _ }, rfl⟩, hprocs⟩
  · exact ⟨⟨r, rfl⟩, hprocs⟩

theorem SameCourse.publish {ds ds' : DeviceState} (h : ds.SameCourse ds')
    (health health' : Health) (hvisible : health'.gpuVisible = health.gpuVisible)
    (haccessible : health'.gpuAccessible = health.gpuAccessible)
    (hsample : health'.computeProcs = health.computeProcs) (stab : StabilityScore)
    (mono wall : ℤ) :
    (ds.publish health stab mono wall).SameCourse (ds'.publish health' stab mono wall) := by
  obtain ⟨⟨r, rfl⟩, -⟩ := h
  refine ⟨⟨((ds.withReports r).publish health' stab mono wall).reports, ?_⟩, hsample⟩
  simp only [DeviceState.publish, hvisible, haccessible]
  rfl

/-- The score and the errors do not depend on reports. -/
theorem assess_withReports (exp : ℚ → ℚ) (ds : DeviceState) (r : Reports) (h : Health)
    (mono wall : ℤ) :
    (ds.withReports r).assess exp h mono wall =
      ((ds.assess exp h mono wall).1.withReports r, (ds.assess exp h mono wall).2) := by
  have hrecord : (ds.withReports r).hist.recordProbe (h.gpuVisible && h.gpuAccessible)
      h.probeLatencyMs mono wall = (ds.hist.recordProbe (h.gpuVisible && h.gpuAccessible)
        h.probeLatencyMs mono wall).withReports r := rfl
  simp only [assess, hrecord, DeviceHistory.observeUncorr_withReports]
  rfl

end DeviceState

/-! ### Polls that differ in their memory figures -/

/-- A probe whose sample has other memory figures. -/
def Probe.withMemory (p : Probe) (used free total : Field ℕ) (ratio : ℚ) : Probe :=
  { p with sample := { p.sample with
    memUsedBytes := used, memFreeBytes := free, memTotalBytes := total
    effectiveFreeMemRatio := ratio } }

namespace Supervisor

open DeviceState

section

variable (s : Supervisor) (exp : ℚ → ℚ) {ds ds' : DeviceState} (h : ds.SameCourse ds') (p : Probe)
  (used free total : Field ℕ) (ratio : ℚ)

include h

/-- The memory figures reach the machine as the ratio, and the score not at all. -/
theorem observation_withMemory :
    s.observation exp ds' (p.withMemory used free total ratio) =
        { s.observation exp ds p with freeMemRatio := ratio } ∧
      (ds'.assess exp (s.health (p.withMemory used free total ratio)) p.mono p.wall).2.1 =
        (ds.assess exp (s.health p) p.mono p.wall).2.1 := by
  obtain ⟨⟨r, rfl⟩, -⟩ := h
  have hassess : (ds.withReports r).assess exp
      (s.health (p.withMemory used free total ratio)) p.mono p.wall =
        ((ds.assess exp (s.health p) p.mono p.wall).1.withReports r,
          (ds.assess exp (s.health p) p.mono p.wall).2) :=
    assess_withReports exp ds r (s.health p) p.mono p.wall
  refine ⟨?_, by rw [hassess]⟩
  have hmono : (p.withMemory used free total ratio).mono = p.mono := rfl
  have hwall : (p.withMemory used free total ratio).wall = p.wall := rfl
  rw [observation, hmono, hwall, hassess]
  rfl

/-- Polls with different memory figures keep devices on the same course unless the ratios are
compared and the comparisons differ. -/
theorem pollDevice_withMemory
    (hcompare : ds.machine.ReachesMemory (s.observation exp ds p) →
      (ratio ≤ ds.machine.cfg.busyMemRatio ↔
        p.sample.effectiveFreeMemRatio ≤ ds.machine.cfg.busyMemRatio)) :
    (s.pollDevice exp ds p).SameCourse
      (s.pollDevice exp ds' (p.withMemory used free total ratio)) := by
  obtain ⟨hobs, hscore⟩ := s.observation_withMemory exp h p used free total ratio
  have hstep : ds'.machine.step (s.observation exp ds' (p.withMemory used free total ratio)) =
      ds.machine.step (s.observation exp ds p) := by
    rw [hobs, h.machine]
    exact LifecycleMachine.step_congr hcompare
  have hstepped : (s.stepped exp ds p).SameCourse
      (s.stepped exp ds' (p.withMemory used free total ratio)) := by
    obtain ⟨⟨r, rfl⟩, hprocs⟩ := h
    refine ⟨⟨r, ?_⟩, hprocs⟩
    rw [stepped, stepped, hstep]
    have hassess := assess_withReports exp ds r (s.health p) p.mono p.wall
    exact congrArg (fun a : DeviceState × StabilityScore × ℕ =>
      { a.1 with machine := (ds.machine.step (s.observation exp ds p)).1 }) hassess
  have hexamine : (s.examine exp ds p).1.SameCourse
      (s.examine exp ds' (p.withMemory used free total ratio)).1 :=
    examine_congr sameCourse_congruence s exp rfl rfl hstepped
  have hstab : (s.examine exp ds' (p.withMemory used free total ratio)).2 =
      (s.examine exp ds p).2 := hscore
  rw [pollDevice_eq, pollDevice_eq, hstab]
  have hworkers := hexamine.detectWorkers (s.health p)
    (s.health (p.withMemory used free total ratio)) rfl p.mono p.wall
  exact hworkers.publish (s.health p) (s.health (p.withMemory used free total ratio)) rfl rfl rfl
    _ _ _

end

/-- A poll names the memory exactly if it compares a ratio below the threshold. -/
theorem pollDevice_lowFreeMem (s : Supervisor) (exp : ℚ → ℚ) (ds : DeviceState) {p : Probe}
    (hp : p.sample.Sampled) :
    reasonLowFreeMem ∈ (info (s.pollDevice exp ds p).machine).reasonCodes ↔
      ds.machine.ReachesMemory (s.observation exp ds p) ∧
        p.sample.effectiveFreeMemRatio ≤ ds.machine.cfg.busyMemRatio := by
  have hinfo : ∀ m : LifecycleMachine,
      reasonLowFreeMem ∈ (info m).reasonCodes ↔ reasonLowFreeMem ∈ m.reasonCodes := by
    intro m
    by_cases hnil : m.reasonCodes = []
    · simp [info, hnil, reasonLowFreeMem, reasonHealthy]
    · simp [info, hnil]
  have hreason : (s.observation exp ds p).probeFailReason ≠ reasonLowFreeMem := by
    have hclass : (s.observation exp ds p).probeFailReason = (classifyFailure (s.health p)).2.2 :=
      rfl
    rw [hclass, classifyFailure]
    split
    · exact hp.reason
    · exact hp.reason
    · split <;> decide
  rw [hinfo, (s.pollDevice_outages exp ds p).1, LifecycleMachine.lowFreeMem_mem_step hreason]
  rfl

end Supervisor

/-! ### Runs over an adapter -/

/-- A sample without any memory figure. -/
def Health.withoutMemory (h : Health) : Health :=
  { h with
    memUsedBytes := .unsup
    memFreeBytes := .unsup
    memTotalBytes := .unsup
    effectiveFreeMemRatio := 0 }

/-- A probe without any memory figure. -/
def Probe.withoutMemory (p : Probe) : Probe := { p with sample := p.sample.withoutMemory }

/-- One turn of a device over an adapter. -/
structure AdapterPoll where
  calls : List OperatorCall
  mono : ℤ
  wall : ℤ
  out : ToolOutputs
  deriving DecidableEq, Repr

def Adapter.turn (lib : Library) (deviceID : String) (a : Adapter) (poll : AdapterPoll) : Turn where
  calls := poll.calls
  probe := a.probe lib deviceID poll.mono poll.wall poll.out

/-- A turn is the same, or its sample lost memory figures that were known and ample. -/
def Withholds (cfg : LifecycleConfig) (full poor : Turn) : Prop :=
  poor = full ∨
    (full.probe.sample.memoryKnown = true ∧
      cfg.busyMemRatio < full.probe.sample.effectiveFreeMemRatio ∧
      poor = { full with probe := full.probe.withoutMemory })

instance (cfg : LifecycleConfig) (full poor : Turn) : Decidable (Withholds cfg full poor) :=
  inferInstanceAs (Decidable (_ ∨ _))

namespace Supervisor

variable (s : Supervisor) (exp : ℚ → ℚ) (deviceID : String)

/-- The device as poll `n` of a run finds it. -/
def beforePoll (turns : ℕ → Turn) (n : ℕ) : DeviceState :=
  (turns n).calls.foldl DeviceState.call (s.deviceAt exp deviceID turns n)

theorem deviceAt_succ (turns : ℕ → Turn) (n : ℕ) :
    s.deviceAt exp deviceID turns (n + 1) =
      s.pollDevice exp (s.beforePoll exp deviceID turns n) (turns n).probe := rfl

/-- Poll `n` compares a ratio although the memory is unknown. -/
def ComparesUnknown (turns : ℕ → Turn) (n : ℕ) : Prop :=
  (s.beforePoll exp deviceID turns n).machine.ReachesMemory
      (s.observation exp (s.beforePoll exp deviceID turns n) (turns n).probe) ∧
    (turns n).probe.sample.memoryKnown = false ∧ 0 ≤ s.lifeCfg.busyMemRatio

/-- Every decision that names the memory is made on known memory, and the run publishes what
any run publishes from which it differs only by memory figures it lost. -/
structure MemoryNeutral (lib : Library) (a : Adapter) (polls : ℕ → AdapterPoll) : Prop where
  supported : ∀ n status,
    (s.deviceAt exp deviceID (fun k => a.turn lib deviceID (polls k)) (n + 1)).lastStatus =
        some status →
      reasonLowFreeMem ∈ status.lifecycle.reasonCodes →
        (a.sample lib deviceID (polls n).out).memoryKnown = true
  unchanged : ∀ full : ℕ → AdapterPoll,
    (∀ n, Withholds s.lifeCfg (a.turn lib deviceID (full n)) (a.turn lib deviceID (polls n))) →
      ∀ n, s.publishedAt exp deviceID (fun k => a.turn lib deviceID (polls k)) n =
        s.publishedAt exp deviceID (fun k => a.turn lib deviceID (full k)) n

theorem beforePoll_cfg (turns : ℕ → Turn) (n : ℕ) :
    (s.beforePoll exp deviceID turns n).machine.cfg = s.lifeCfg := by
  have hcfg : (s.deviceAt exp deviceID turns n).machine.cfg = s.lifeCfg := by
    refine stateAt_induction (P := fun _ (ds : DeviceState) => ds.machine.cfg = s.lifeCfg) rfl
      (fun k hk => ?_) n
    obtain ⟨d, o, hmachine⟩ := s.turn_machine exp (s.deviceAt exp deviceID turns k) (turns k)
    have hturn : (s.turn exp (s.deviceAt exp deviceID turns k) (turns k)).machine.cfg =
        s.lifeCfg := by
      rw [hmachine, LifecycleMachine.step_cfg]
      exact hk
    exact hturn
  obtain ⟨d, hd⟩ := (DeviceState.calls_outages (s.deviceAt exp deviceID turns n) (turns n).calls).2
  rw [beforePoll, hd]
  exact hcfg

/-- Runs that differ in known and ample memory figures only stay on the same course. -/
theorem deviceAt_sameCourse {full poor : ℕ → Turn}
    (hwithholds : ∀ n, Withholds s.lifeCfg (full n) (poor n))
    (hknown : ∀ n, ¬ s.ComparesUnknown exp deviceID poor n) (n : ℕ) :
    (s.deviceAt exp deviceID full n).SameCourse (s.deviceAt exp deviceID poor n) := by
  induction n with
  | zero => exact DeviceState.SameCourse.refl _
  | succ n ih =>
    have hcalls := DeviceState.sameCourse_congruence.calls ih (full n).calls
    have hcfg := s.beforePoll_cfg exp deviceID full n
    rcases hwithholds n with hsame | ⟨hmemory, hample, hpoor⟩
    · have hpoll := s.pollDevice_withMemory exp hcalls (full n).probe
        (full n).probe.sample.memUsedBytes (full n).probe.sample.memFreeBytes
        (full n).probe.sample.memTotalBytes (full n).probe.sample.effectiveFreeMemRatio
        fun _ => Iff.rfl
      rw [deviceAt_succ, deviceAt_succ, beforePoll, beforePoll, hsame]
      exact hpoll
    · have hpoll := s.pollDevice_withMemory exp hcalls (full n).probe .unsup .unsup .unsup 0 ?_
      · rw [deviceAt_succ, deviceAt_succ, beforePoll, beforePoll, hpoor]
        exact hpoll
      · intro hreaches
        have hunknown : ¬ 0 ≤ s.lifeCfg.busyMemRatio := by
          intro hratio
          apply hknown n
          obtain ⟨hobs, -⟩ := s.observation_withMemory exp hcalls (full n).probe .unsup .unsup
            .unsup 0
          have hbefore : s.beforePoll exp deviceID poor n =
              (full n).calls.foldl DeviceState.call (s.deviceAt exp deviceID poor n) := by
            rw [beforePoll, hpoor]
          have hprobe : (poor n).probe = (full n).probe.withMemory .unsup .unsup .unsup 0 := by
            rw [hpoor]
            rfl
          refine ⟨?_, by rw [hprobe]; rfl, hratio⟩
          rw [hbefore, hprobe, hobs, hcalls.machine]
          exact hreaches
        have hcfg' : ((full n).calls.foldl DeviceState.call
            (s.deviceAt exp deviceID full n)).machine.cfg = s.lifeCfg := hcfg
        rw [hcfg']
        exact iff_of_false hunknown (not_le.mpr hample)

/-- A run over an adapter is neutral to unknown memory if and only if no poll with unknown
memory compares the ratio with a threshold that is not negative. -/
theorem memoryNeutral_iff (lib : Library) (a : Adapter) (polls : ℕ → AdapterPoll) :
    s.MemoryNeutral exp deviceID lib a polls ↔
      ∀ n, ¬ s.ComparesUnknown exp deviceID (fun k => a.turn lib deviceID (polls k)) n := by
  have hnames : ∀ n, reasonLowFreeMem ∈ (info (s.deviceAt exp deviceID
        (fun k => a.turn lib deviceID (polls k)) (n + 1)).machine).reasonCodes ↔
      (s.beforePoll exp deviceID (fun k => a.turn lib deviceID (polls k)) n).machine.ReachesMemory
          (s.observation exp (s.beforePoll exp deviceID (fun k => a.turn lib deviceID (polls k)) n)
            (a.turn lib deviceID (polls n)).probe) ∧
        (a.sample lib deviceID (polls n).out).effectiveFreeMemRatio ≤ s.lifeCfg.busyMemRatio := by
    intro n
    have hcfg := s.beforePoll_cfg exp deviceID (fun k => a.turn lib deviceID (polls k)) n
    rw [← hcfg, deviceAt_succ]
    exact s.pollDevice_lowFreeMem exp _ (a.sampled lib deviceID (polls n).out)
  have hstatus : ∀ n, (s.deviceAt exp deviceID (fun k => a.turn lib deviceID (polls k))
      (n + 1)).lastStatus.map (fun status => status.lifecycle) = some (info (s.deviceAt exp deviceID
        (fun k => a.turn lib deviceID (polls k)) (n + 1)).machine) := fun n => rfl
  constructor
  · rintro h n ⟨hreaches, hunknown, hratio⟩
    have hsampled := (a.sampled lib deviceID (polls n).out).ratio hunknown
    obtain ⟨status, hlast, hlifecycle⟩ := Option.map_eq_some_iff.mp (hstatus n)
    have hknown := h.supported n status hlast
      (hlifecycle ▸ (hnames n).mpr ⟨hreaches, hsampled ▸ hratio⟩)
    exact absurd (hknown.symm.trans hunknown) (by decide)
  · intro h
    refine ⟨fun n status hlast hreason => ?_, fun full hwithholds n => ?_⟩
    · have hlifecycle := hstatus n
      rw [hlast, Option.map_some, Option.some_inj] at hlifecycle
      rw [hlifecycle] at hreason
      obtain ⟨hreaches, hratio⟩ := (hnames n).mp hreason
      by_contra hunknown
      have hunknown' := Bool.eq_false_iff.mpr hunknown
      have hsampled := (a.sampled lib deviceID (polls n).out).ratio hunknown'
      exact h n ⟨hreaches, hunknown', hsampled ▸ hratio⟩
    · have hcourse := s.deviceAt_sameCourse exp deviceID hwithholds h n
      cases n with
      | zero => rfl
      | succ n => exact congrArg (fun m : LifecycleMachine => some m.state) hcourse.machine

end Supervisor

/-! ### Memory columns that cannot be read -/

/-- The memory columns of a row that cannot be read withhold the memory figures and nothing
else. -/
theorem nvidiaHealth_withoutMemory (lib : Library) (f : List Chars) {s : Chars}
    (hs : (parseF lib s).2 = false) (latencyMs : ℚ) (procs : CommandResult) :
    nvidiaHealth lib (((f.set 4 s).set 5 s).set 6 s) latencyMs procs =
      (nvidiaHealth lib f latencyMs procs).withoutMemory := by
  have hmemory : ∀ i ∈ [4, 5, 6],
      mibToBytes lib (parseF lib ((((f.set 4 s).set 5 s).set 6 s).getD i [])) = .unsup := by
    intro i hi
    have hcolumn : (((f.set 4 s).set 5 s).set 6 s).getD i [] = s ∨
        (((f.set 4 s).set 5 s).set 6 s).getD i [] = [] := by
      simp only [List.mem_cons, List.not_mem_nil, or_false] at hi
      rcases hi with rfl | rfl | rfl <;> simp [List.getElem?_set] <;> split <;> simp
    rcases hcolumn with h | h
    · rw [h, mibToBytes, hs]
      rfl
    · rw [h]
      rfl
  have hother : ∀ i, i ∉ [4, 5, 6] →
      (((f.set 4 s).set 5 s).set 6 s).getD i [] = f.getD i [] := by
    intro i hi
    simp only [List.mem_cons, List.not_mem_nil, or_false, not_or] at hi
    obtain ⟨h4, h5, h6⟩ := hi
    simp [Ne.symm h4, Ne.symm h5, Ne.symm h6]
  simp only [nvidiaHealth, Health.withoutMemory, hmemory 4 (by decide), hmemory 5 (by decide),
    hmemory 6 (by decide), hother 7 (by decide), hother 8 (by decide), hother 13 (by decide),
    hother 14 (by decide)]
  rfl

/-- A tool that succeeds and prints a full row. -/
theorem nvidiaSample_of_row (lib : Library) (out : ToolOutputs) (hok : out.sample.failed = false)
    (hrow : 15 ≤ (splitCSV (firstLine out.sample.stdout)).length) :
    nvidiaSample lib true out =
      nvidiaHealth lib (splitCSV (firstLine out.sample.stdout)) out.latencyMs out.procs := by
  simp [nvidiaSample, hok, not_lt.mpr hrow]

/-- A row whose memory columns cannot be read withholds what the row with known and ample memory
reports, and nothing else. -/
theorem withholds_of_unreadable (cfg : LifecycleConfig) (lib : Library) (deviceID : String)
    {calls : List OperatorCall} {mono wall : ℤ} {out : ToolOutputs} {row : CommandResult}
    {s : Chars}
    (hfault : refresh deviceID out.fault = .none) (hok : out.sample.failed = false)
    (hrow : row.failed = false)
    (hlong : 15 ≤ (splitCSV (firstLine out.sample.stdout)).length)
    (hs : (parseF lib s).2 = false)
    (hcolumns : splitCSV (firstLine row.stdout) =
      (((splitCSV (firstLine out.sample.stdout)).set 4 s).set 5 s).set 6 s)
    (hknown : (nvidiaSample lib true out).memoryKnown = true)
    (hratio : cfg.busyMemRatio < (nvidiaSample lib true out).effectiveFreeMemRatio) :
    Withholds cfg ((Adapter.nvidia true).turn lib deviceID ⟨calls, mono, wall, out⟩)
      ((Adapter.nvidia true).turn lib deviceID
        ⟨calls, mono, wall, { out with sample := row }⟩) := by
  have hfull : (Adapter.nvidia true).sample lib deviceID out =
      nvidiaSample lib true out := by
    rw [Adapter.sample, hfault]
    rfl
  have hpoor : (Adapter.nvidia true).sample lib deviceID { out with sample := row } =
      (nvidiaSample lib true out).withoutMemory := by
    have hlong' : 15 ≤ (splitCSV (firstLine row.stdout)).length := by
      rw [hcolumns]
      simpa using hlong
    rw [nvidiaSample_of_row lib out hok hlong, ← nvidiaHealth_withoutMemory lib _ hs, ← hcolumns,
      Adapter.sample, hfault]
    exact nvidiaSample_of_row lib { out with sample := row } hrow hlong'
  refine Or.inr ⟨?_, ?_, ?_⟩
  · rw [← hfull] at hknown
    exact hknown
  · rw [← hfull] at hratio
    exact hratio
  · rw [Adapter.turn, Adapter.turn, Adapter.probe, Adapter.probe, hpoor, ← hfull]
    rfl

/-- A library that reads digits. -/
def digitLibrary : Library where
  parseFloat := fun s =>
    if s ≠ [] ∧ s.all Char.isDigit then
      some (s.foldl (fun v c => 10 * v + ((c.toNat - 48 : ℕ) : ℚ)) 0)
    else none
  parseUint := fun _ => none
  uint64 := fun v => v.floor.toNat
  toLower := id
  unmarshal := fun _ => none

/-- Turn `n` of an idle device with one poll a second, whose memory columns are given. -/
def rowTurn (memory : String) (n : ℕ) : Turn :=
  (Adapter.nvidia true).turn digitLibrary "0" {
    calls := []
    mono := n * 1000000000
    wall := n * 1000000000
    out := {
      fault := none
      sample := ⟨("0, GPU-a, H100, 580, " ++ memory ++ ", 0, 32, 67, 500, 345, 1593, 0, 0").toList,
        [], 0, false, false⟩
      latencyMs := 1
      procs := ⟨[], [], 0, false, false⟩
      ras := ⟨[], [], 0, false, false⟩
      access := ⟨[], [], 0, false, false⟩ } }

/-- An idle device with ample memory is ready at its second poll; the same device whose memory
columns are not available is busy for lack of free memory. -/
theorem unknownMemory_busy :
    (∀ n, n < 2 → Withholds smallSupervisor.lifeCfg (rowTurn "1, 8, 9" n)
        (rowTurn "[N/A], [N/A], [N/A]" n)) ∧
      smallSupervisor.publishedAt (fun _ => 1) "0" (rowTurn "1, 8, 9") 2 = some .ready ∧
      smallSupervisor.publishedAt (fun _ => 1) "0" (rowTurn "[N/A], [N/A], [N/A]") 2 = some .busy ∧
      (smallSupervisor.deviceAt (fun _ => 1) "0" (rowTurn "[N/A], [N/A], [N/A]")
        2).machine.reasonCodes = [reasonLowFreeMem] := by
  refine ⟨fun n _ => ?_, by decide +kernel, by decide +kernel, by decide +kernel⟩
  exact withholds_of_unreadable _ _ _ (s := "[N/A]".toList) (by decide) rfl rfl (by decide +kernel)
    (by decide +kernel) (by decide +kernel) (by decide +kernel) (by decide +kernel)

end GpuSidecar.Engine
