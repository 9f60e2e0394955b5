import GpuSidecar.Core.List.Distinct
import GpuSidecar.Models.Engine.Host
import GpuSidecar.Models.Engine.Memory

/-!
# Readiness

The embedding of `Readiness`, `DeviceReadiness`, `deviceReadinessLocked` and
`collectorStalled` of `internal/engine/supervisor.go`, and of the handler of `/readyz`
in `internal/api/server.go`. The evaluation looks at fields that the polls of all
devices have left behind. Over whole runs it comes down to the last polls: a device is
ready exactly if its last poll succeeded and is recent enough, and some device of the
host was sampled a short while ago.
-/

namespace GpuSidecar.Engine

open Distinct Lifecycle Run Time

/-- The bounds of an evaluation: the oldest telemetry that counts, and the interval of
polls. -/
structure ReadinessBounds where
  maxTelemetryAge : ℤ
  pollInterval : ℤ
  deriving DecidableEq, Repr

def defaultReadinessBounds : ReadinessBounds where
  maxTelemetryAge := 15 * 1000000000
  pollInterval := 2 * 1000000000

/-- How long the newest sample may lie back before the collector counts as stalled. -/
def ReadinessBounds.stallLimit (b : ReadinessBounds) : ℤ :=
  let limit := 3 * b.pollInterval
  if limit < 6 * 1000000000 then 6 * 1000000000 else limit

/-- The readiness of one device. Before the first poll it has no lifecycle state. -/
structure DeviceReadiness where
  deviceID : String
  ready : Bool
  lifecycleState : Option LifecycleState
  telemetryAgeMs : ℤ
  reasons : List String
  deriving DecidableEq, Repr

structure ReadinessResult where
  controlPlaneReady : Bool
  anyDeviceReady : Bool
  allDevicesReady : Bool
  readyDeviceCount : ℕ
  totalDeviceCount : ℕ
  reasons : List String
  details : List DeviceReadiness
  deriving DecidableEq, Repr

namespace Host

/-- The devices in order, with their ids. -/
def managedDevices (h : Host) : List (String × HostDevice) :=
  h.order.filterMap fun id => (h.devices id).map fun d => (id, d)

/-- The time of the newest sample of all devices. -/
def newest (h : Host) : Option ℤ := (h.managedDevices.filterMap fun e => e.2.sampledAt).max?

def collectorStalled (h : Host) (b : ReadinessBounds) (now : ℤ) : Bool :=
  match h.newest with
  | none => true
  | some t =>
    !h.managedDevices.any (fun e => e.2.state.collected) || decide (b.stallLimit < sub now t)

end Host

/-- The readiness of a device, with every reason against it. -/
def HostDevice.readiness (d : HostDevice) (b : ReadinessBounds) (deviceID : String) (now : ℤ)
    (collectorStalled : Bool) : DeviceReadiness :=
  let visible := (d.state.lastStatus.map fun st => st.health.gpuVisible).getD false
  let accessible := (d.state.lastStatus.map fun st => st.health.gpuAccessible).getD false
  let reasons :=
    (if d.state.collected then [] else ["NO_COLLECTION_YET"]) ++
    (if visible then [] else ["GPU_NOT_VISIBLE"]) ++
    (if accessible then [] else ["GPU_NOT_ACCESSIBLE"]) ++
    (if d.state.lastProbeOK then [] else ["LAST_PROBE_FAILED"]) ++
    (match d.state.lastSampleWall with
      | some wall => if b.maxTelemetryAge < sub now wall then ["TELEMETRY_STALE"] else []
      | none => ["NO_SUCCESSFUL_SAMPLE"]) ++
    (if d.state.published = some .offline then ["LIFECYCLE_OFFLINE"] else []) ++
    (if collectorStalled then ["COLLECTOR_STALLED"] else [])
  { deviceID := deviceID
    ready := reasons.isEmpty
    lifecycleState := d.state.published
    telemetryAgeMs :=
      match d.state.lastSampleWall with
      | some wall => milliseconds (sub now wall)
      | none => -1
    reasons := reasons }

namespace Host

/-- The readiness of one managed device. -/
def deviceReadiness (h : Host) (b : ReadinessBounds) (deviceID : String) (now : ℤ) :
    Option DeviceReadiness :=
  (h.devices deviceID).map fun d => d.readiness b deviceID now (h.collectorStalled b now)

def details (h : Host) (b : ReadinessBounds) (now : ℤ) : List DeviceReadiness :=
  h.managedDevices.map fun e => e.2.readiness b e.1 now (h.collectorStalled b now)

/-- The reasons of all devices, each listed once. A stalled collector comes first. -/
def collectedReasons (h : Host) (b : ReadinessBounds) (now : ℤ) : List String :=
  ((h.details b now).flatMap fun d => d.reasons).foldl insertNew
    (if h.collectorStalled b now then ["COLLECTOR_STALLED"] else [])

/-- The readiness of the host. -/
def readiness (h : Host) (b : ReadinessBounds) (now : ℤ) : ReadinessResult :=
  let details := h.details b now
  let count := details.countP fun d => d.ready
  let controlPlaneReady := decide (0 < count) && !h.collectorStalled b now
  let reasons := h.collectedReasons b now
  { controlPlaneReady := controlPlaneReady
    anyDeviceReady := decide (0 < count)
    allDevicesReady := decide (0 < h.order.length) && decide (count = h.order.length)
    readyDeviceCount := count
    totalDeviceCount := h.order.length
    reasons :=
      if controlPlaneReady then []
      else if reasons = [] then ["NO_READY_DEVICES"] else reasons
    details := details }

end Host

/-- The body of a reply of `/readyz`. -/
inductive ReadyzBody where
  | host (res : ReadinessResult)
  | device (dr : DeviceReadiness)
  | unmanaged (dev : String)
  deriving DecidableEq, Repr

/-- The handler of `/readyz` with its device parameter, which may be empty. -/
def Host.readyz (h : Host) (b : ReadinessBounds) (now : ℤ) (dev : String) : ℕ × ReadyzBody :=
  if dev ≠ "" then
    match h.deviceReadiness b dev now with
    | none => (404, .unmanaged dev)
    | some dr => (if dr.ready then 200 else 503, .device dr)
  else
    let res := h.readiness b now
    (if res.controlPlaneReady then 200 else 503, .host res)

/-! ### What the polls leave behind -/

/-- The last poll of a device, with the time of its sample. -/
def lastPoll (as : List DeviceAction) : Option (Probe × ℤ) :=
  (as.filterMap fun
    | .poll p timestamp => some (p, timestamp)
    | .call _ => none).getLast?

@[simp] theorem lastPoll_concat_poll (as : List DeviceAction) (p : Probe) (timestamp : ℤ) :
    lastPoll (as ++ [.poll p timestamp]) = some (p, timestamp) := by
  simp [lastPoll]

@[simp] theorem lastPoll_concat_call (as : List DeviceAction) (c : OperatorCall) :
    lastPoll (as ++ [.call c]) = lastPoll as := by
  simp [lastPoll]

/-- The sample of a failure shows no device. -/
def Health.FailsUnseen (h : Health) : Prop :=
  h.probeFailure.failureClass ≠ .none → h.gpuVisible = false

/-- A poll that succeeds and whose sample classifies no failure is healthy. -/
theorem Supervisor.observation_healthy (s : Supervisor) (exp : ℚ → ℚ) (ds : DeviceState)
    {p : Probe} (hok : s.probeOK p = true) (hp : p.sample.FailsUnseen) :
    (s.observation exp ds p).hard = false ∧ (s.observation exp ds p).soft = false := by
  obtain ⟨hvisible, haccess⟩ := Bool.and_eq_true_iff.mp hok
  have hclass : p.sample.probeFailure.failureClass = .none := by
    by_contra hne
    rw [hp hne] at hvisible
    cases hvisible
  have hobs : ∀ score errors, let o := lifecycleObservation (s.health p) score errors p.mono
      o.hard = false ∧ o.soft = false := by
    intro score errors
    simp [lifecycleObservation, classifyFailure, Supervisor.health, hclass, haccess, hvisible,
      LifecycleObservation.hard, LifecycleObservation.soft]
  exact hobs _ _

/-- What a device remembers of its last poll. -/
structure HostDevice.Remembers (s : Supervisor) (d : HostDevice) (last : Option (Probe × ℤ)) :
    Prop where
  latched : d.state.machine.WellLatched
  collected : d.state.collected = last.isSome
  health : d.state.lastStatus.map (·.health) = last.map fun e => s.health e.1
  probeOK : d.state.lastProbeOK = last.any fun e => s.probeOK e.1
  sampledAt : d.sampledAt = last.map Prod.snd
  succeeded : ∀ e, last = some e → s.probeOK e.1 = true →
    d.state.lastSampleWall = some e.1.wall ∧
      (e.1.sample.FailsUnseen → d.state.published ≠ some .offline)

/-- A call of an operator leaves alone what the polls have left behind. -/
theorem DeviceState.call_readings (ds : DeviceState) (c : OperatorCall) :
    (ds.call c).collected = ds.collected ∧ (ds.call c).lastStatus = ds.lastStatus ∧
      (ds.call c).lastProbeOK = ds.lastProbeOK ∧
      (ds.call c).lastSampleWall = ds.lastSampleWall := by
  cases c with
  | setDraining d source now =>
    simp only [call, setDraining]
    split <;> exact ⟨rfl, rfl, rfl, rfl⟩
  | setThroughputVariance cov => exact ⟨rfl, rfl, rfl, rfl⟩

theorem HostDevice.Remembers.call {s : Supervisor} {d : HostDevice} {last : Option (Probe × ℤ)}
    (h : d.Remembers s last) (exp : ℚ → ℚ) (c : OperatorCall) :
    (s.act exp d (.call c)).Remembers s last := by
  obtain ⟨hcollected, hstatus, hok, hwall⟩ := d.state.call_readings c
  obtain ⟨-, drain, hm⟩ := DeviceState.call_outages d.state c
  refine ⟨?_, hcollected.trans h.collected, ?_, hok.trans h.probeOK, h.sampledAt, ?_⟩
  · have hmachine : (s.act exp d (.call c)).state.machine = d.state.machine.setDraining drain := hm
    rw [hmachine]
    exact h.latched.setDraining drain
  · rw [← h.health]
    exact congrArg (Option.map _) hstatus
  · intro e he hprobe
    obtain ⟨hsample, hoffline⟩ := h.succeeded e he hprobe
    refine ⟨hwall.trans hsample, fun hunseen => ?_⟩
    have hpublished : (s.act exp d (.call c)).state.published = d.state.published :=
      congrArg (Option.map _) hstatus
    rw [hpublished]
    exact hoffline hunseen

theorem DeviceState.publish_readings (ds : DeviceState) (h : Health) (stab : StabilityScore)
    (mono wall : ℤ) :
    (ds.publish h stab mono wall).collected = true ∧
      (ds.publish h stab mono wall).lastStatus.map (·.health) = some h ∧
      (ds.publish h stab mono wall).lastProbeOK = (h.gpuVisible && h.gpuAccessible) ∧
      ((h.gpuVisible && h.gpuAccessible) = true →
        (ds.publish h stab mono wall).lastSampleWall = some wall) :=
  ⟨rfl, rfl, rfl, fun hok => if_pos hok⟩

/-- What a poll leaves behind for the evaluation. -/
theorem Supervisor.pollDevice_readings (s : Supervisor) (exp : ℚ → ℚ) (ds : DeviceState)
    (p : Probe) :
    (s.pollDevice exp ds p).collected = true ∧
      (s.pollDevice exp ds p).lastStatus.map (·.health) = some (s.health p) ∧
      (s.pollDevice exp ds p).lastProbeOK = s.probeOK p ∧
      (s.probeOK p = true → (s.pollDevice exp ds p).lastSampleWall = some p.wall) := by
  rw [pollDevice_eq]
  exact DeviceState.publish_readings _ (s.health p) (s.examine exp ds p).2 p.mono p.wall

theorem HostDevice.Remembers.poll {s : Supervisor} {d : HostDevice} {last : Option (Probe × ℤ)}
    (h : d.Remembers s last) (exp : ℚ → ℚ) (p : Probe) (timestamp : ℤ) :
    (s.act exp d (.poll p timestamp)).Remembers s (some (p, timestamp)) := by
  have hm := (s.pollDevice_outages exp d.state p).1
  have hpublished := s.pollDevice_published exp d.state p
  obtain ⟨hcollected, hhealth, hprobe, hwall⟩ := s.pollDevice_readings exp d.state p
  obtain ⟨hcontrol, hlatched⟩ :=
    LifecycleMachine.step_control h.latched (s.observation exp d.state p)
  rw [← hm] at hcontrol hlatched
  refine ⟨hlatched, hcollected, hhealth, hprobe, rfl, ?_⟩
  rintro e ⟨⟩ hok
  refine ⟨hwall hok, fun hunseen hoffline => ?_⟩
  -- the control sees a healthy observation, which never leads to an outage
  obtain ⟨hhard, hsoft⟩ := s.observation_healthy exp d.state hok hunseen
  have hstate : (s.pollDevice exp d.state p).machine.state = .offline :=
    Option.some.inj (hpublished.symm.trans hoffline)
  have hphase := (LifecycleMachine.phase_eq_offline_iff _).mpr hstate
  have hstep := congrArg Control.phase hcontrol
  rw [show (s.pollDevice exp d.state p).machine.control.phase = _ from hphase] at hstep
  have htrigger := (Control.step_offline_iff _ _ _).mp hstep.symm
  rw [hhard, hsoft] at htrigger
  simp at htrigger

/-- After every run a device remembers its last poll. -/
theorem Supervisor.deviceAfter_remembers (s : Supervisor) (exp : ℚ → ℚ) (deviceID : String)
    (as : List DeviceAction) : (s.deviceAfter exp deviceID as).Remembers s (lastPoll as) := by
  induction as using List.reverseRecOn with
  | nil =>
    refine ⟨(s.init_tracks deviceID).latched, rfl, rfl, rfl, rfl, fun e he => ?_⟩
    simp [lastPoll] at he
  | append_singleton as a ih =>
    have hlast : s.deviceAfter exp deviceID (as ++ [a]) =
        s.act exp (s.deviceAfter exp deviceID as) a := by
      rw [deviceAfter, List.foldl_append]
      rfl
    rw [hlast]
    cases a with
    | call c =>
      rw [lastPoll_concat_call]
      exact ih.call exp c
    | poll p timestamp =>
      rw [lastPoll_concat_poll]
      exact ih.poll exp p timestamp

/-! ### Samples of the adapters -/

theorem Adapter.failsUnseen (lib : Library) (deviceID : String) (a : Adapter)
    (out : ToolOutputs) : (a.sample lib deviceID out).FailsUnseen := by
  have hfailed : ∀ latencyMs note failure, (failedSample latencyMs note failure).FailsUnseen :=
    fun _ _ _ _ => rfl
  unfold sample
  cases refresh deviceID out.fault with
  | soft => exact hfailed _ _ _
  | hard => exact hfailed _ _ _
  | none =>
    cases a with
    | nvidia hasSMI =>
      simp only [vendorSample, nvidiaSample]
      split_ifs
      · exact hfailed _ _ _
      · exact hfailed _ _ _
      · exact hfailed _ _ _
      · exact fun hclass => absurd rfl hclass
    | amd hasROCm =>
      simp only [vendorSample, amdSample]
      split_ifs
      · exact hfailed _ _ _
      · exact hfailed _ _ _
      · cases lib.unmarshal out.sample.stdout with
        | none => exact hfailed _ _ _
        | some m =>
          cases hcard : m.lookup (cardKey deviceID) with
          | none =>
            simp only [hcard]
            exact hfailed _ _ _
          | some card =>
            simp only [hcard]
            exact fun hclass => absurd rfl hclass
    | generic => exact fun _ => rfl

/-- All polls of a run read their device through the host's adapter. -/
def Adapter.Polls (a : Adapter) (lib : Library) (as : List (String × DeviceAction)) : Prop :=
  ∀ id p timestamp, (id, .poll p timestamp) ∈ as → ∃ mono wall out, p = a.probe lib id mono wall out

theorem mem_of_lastPoll {as : List (String × DeviceAction)} {id : String} {e : Probe × ℤ}
    (h : lastPoll (actionsOf id as) = some e) : (id, .poll e.1 e.2) ∈ as := by
  obtain ⟨a, ha, hpoll⟩ := List.mem_filterMap.mp (List.mem_of_getLast? h)
  cases a with
  | call c => cases hpoll
  | poll p timestamp =>
    cases hpoll
    obtain ⟨⟨id', a'⟩, hmem, hsel⟩ := List.mem_filterMap.mp ha
    split at hsel
    · rename_i hid
      cases hid
      cases hsel
      exact hmem
    · cases hsel

/-! ### Readiness over runs -/

/-- The last poll of a device succeeded, and is recent enough. -/
def Supervisor.FreshSuccess (s : Supervisor) (b : ReadinessBounds) (now : ℤ)
    (as : List DeviceAction) : Prop :=
  ∃ e, lastPoll as = some e ∧ s.probeOK e.1 = true ∧ sub now e.1.wall ≤ b.maxTelemetryAge

/-- Some device was sampled within the limit. -/
def CollectorAlive (b : ReadinessBounds) (now : ℤ) (ids : List String)
    (as : List (String × DeviceAction)) : Prop :=
  ∃ id ∈ ids, ∃ e, lastPoll (actionsOf id as) = some e ∧ sub now e.2 ≤ b.stallLimit

/-- A device is ready if nothing speaks against it. -/
theorem HostDevice.readiness_ready_iff (d : HostDevice) (b : ReadinessBounds)
    (deviceID : String) (now : ℤ) (stalled : Bool) :
    (d.readiness b deviceID now stalled).ready = true ↔
      d.state.collected = true ∧
      (d.state.lastStatus.map fun st => st.health.gpuVisible).getD false = true ∧
      (d.state.lastStatus.map fun st => st.health.gpuAccessible).getD false = true ∧
      d.state.lastProbeOK = true ∧
      (∃ wall, d.state.lastSampleWall = some wall ∧ sub now wall ≤ b.maxTelemetryAge) ∧
      d.state.published ≠ some .offline ∧ stalled = false := by
  cases hwall : d.state.lastSampleWall <;> simp [readiness, hwall]

theorem HostDevice.offline_mem_reasons (d : HostDevice) (b : ReadinessBounds)
    (deviceID : String) (now : ℤ) (stalled : Bool) :
    "LIFECYCLE_OFFLINE" ∈ (d.readiness b deviceID now stalled).reasons ↔
      d.state.published = some .offline := by
  cases hwall : d.state.lastSampleWall with
  | none => simp [readiness, hwall]
  | some wall =>
    have hstale : "LIFECYCLE_OFFLINE" ∉
        (if b.maxTelemetryAge < sub now wall then ["TELEMETRY_STALE"] else []) := by
      split <;> simp
    simp [readiness, hwall, hstale]

/-- A device whose failures are unseen is ready exactly if its last poll was a fresh success
and the collector runs. -/
theorem Supervisor.deviceAfter_ready_iff (s : Supervisor) (exp : ℚ → ℚ) (b : ReadinessBounds)
    (deviceID : String) (now : ℤ) (stalled : Bool) {as : List DeviceAction}
    (hunseen : ∀ e, lastPoll as = some e → e.1.sample.FailsUnseen) :
    ((s.deviceAfter exp deviceID as).readiness b deviceID now stalled).ready = true ↔
      s.FreshSuccess b now as ∧ stalled = false := by
  have hmem := s.deviceAfter_remembers exp deviceID as
  rw [HostDevice.readiness_ready_iff, hmem.collected, hmem.probeOK, FreshSuccess]
  cases hlast : lastPoll as with
  | none => simp
  | some e =>
    rw [hlast] at hmem
    have hhealth := hmem.health
    rw [Option.map_some] at hhealth
    obtain ⟨st, hst, hsth⟩ := Option.map_eq_some_iff.mp hhealth
    simp only [hst, Option.map_some, Option.getD_some, hsth, Option.isSome_some, Option.any_some,
      true_and, Option.some.injEq, exists_eq_left']
    constructor
    · rintro ⟨-, -, hok, ⟨wall, hwall, hage⟩, -, hstalled⟩
      rw [(hmem.succeeded e rfl hok).1, Option.some.injEq] at hwall
      exact ⟨⟨hok, hwall ▸ hage⟩, hstalled⟩
    · rintro ⟨⟨hok, hage⟩, hstalled⟩
      obtain ⟨hwall, hoffline⟩ := hmem.succeeded e rfl hok
      obtain ⟨hvisible, haccess⟩ := Bool.and_eq_true_iff.mp hok
      exact ⟨hvisible, haccess, hok, ⟨e.1.wall, hwall, hage⟩, hoffline (hunseen e hlast), hstalled⟩

section

variable (s : Supervisor) (exp : ℚ → ℚ) (b : ReadinessBounds) (now : ℤ)
  (deviceFilter discovered : List String) (as : List (String × DeviceAction))

theorem Supervisor.mem_managedDevices {id : String} {d : HostDevice} :
    (id, d) ∈ (s.hostAfter exp deviceFilter discovered as).managedDevices ↔
      id ∈ managed deviceFilter discovered ∧ d = s.deviceAfter exp id (actionsOf id as) := by
  rw [Host.managedDevices, s.hostAfter_order]
  simp only [List.mem_filterMap, s.hostAfter_devices]
  constructor
  · rintro ⟨id', hid, he⟩
    rw [if_pos hid, Option.map_some, Option.some.injEq, Prod.mk.injEq] at he
    obtain ⟨rfl, rfl⟩ := he
    exact ⟨hid, rfl⟩
  · rintro ⟨hid, rfl⟩
    exact ⟨id, hid, by rw [if_pos hid, Option.map_some]⟩

/-- The collector counts as stalled unless some device was sampled within the limit. -/
theorem Supervisor.collectorStalled_hostAfter :
    (s.hostAfter exp deviceFilter discovered as).collectorStalled b now = false ↔
      CollectorAlive b now (managed deviceFilter discovered) as := by
  have hsampled : ∀ t, t ∈ ((s.hostAfter exp deviceFilter discovered as).managedDevices.filterMap
      fun e => e.2.sampledAt) ↔ ∃ id ∈ managed deviceFilter discovered,
        ∃ p, lastPoll (actionsOf id as) = some (p, t) := by
    intro t
    simp only [List.mem_filterMap, Prod.exists, s.mem_managedDevices]
    constructor
    · rintro ⟨id, d, ⟨hid, rfl⟩, ht⟩
      rw [(s.deviceAfter_remembers exp id _).sampledAt] at ht
      obtain ⟨⟨p, t'⟩, he, rfl⟩ := Option.map_eq_some_iff.mp ht
      exact ⟨id, hid, p, he⟩
    · rintro ⟨id, hid, p, he⟩
      refine ⟨id, _, ⟨hid, rfl⟩, ?_⟩
      rw [(s.deviceAfter_remembers exp id _).sampledAt, he]
      rfl
  rw [Host.collectorStalled, Host.newest]
  cases hmax : ((s.hostAfter exp deviceFilter discovered as).managedDevices.filterMap
      fun e => e.2.sampledAt).max? with
  | none =>
    rw [List.max?_eq_none_iff] at hmax
    refine iff_of_false (by simp) ?_
    rintro ⟨id, hid, e, he, -⟩
    have hnone := (hsampled e.2).mpr ⟨id, hid, e.1, he⟩
    rw [hmax] at hnone
    cases hnone
  | some t =>
    obtain ⟨ht, hle⟩ := List.max?_eq_some_iff.mp hmax
    obtain ⟨id, hid, p, hlast⟩ := (hsampled t).mp ht
    have hcollected : (s.hostAfter exp deviceFilter discovered as).managedDevices.any
        (fun e => e.2.state.collected) = true := by
      refine List.any_eq_true.mpr ⟨(id, _), (s.mem_managedDevices exp _ _ _).mpr ⟨hid, rfl⟩, ?_⟩
      rw [(s.deviceAfter_remembers exp id _).collected, hlast]
      rfl
    simp only [hcollected, Bool.not_true, Bool.false_or, decide_eq_false_iff_not, not_lt]
    constructor
    · intro hage
      exact ⟨id, hid, (p, t), hlast, hage⟩
    · rintro ⟨id', hid', e, he, hage⟩
      -- the newest sample is at least as recent as this one
      exact (sub_anti (hle e.2 ((hsampled e.2).mpr ⟨id', hid', e.1, he⟩)) now).trans hage

variable {as} in
/-- A managed device of a host is ready exactly if its last poll was a fresh success and the
collector runs. -/
theorem Supervisor.ready_hostAfter_iff {lib : Library} {a : Adapter} (hpolls : a.Polls lib as)
    (id : String) :
    ((s.deviceAfter exp id (actionsOf id as)).readiness b id now
        ((s.hostAfter exp deviceFilter discovered as).collectorStalled b now)).ready = true ↔
      s.FreshSuccess b now (actionsOf id as) ∧
        CollectorAlive b now (managed deviceFilter discovered) as := by
  rw [deviceAfter_ready_iff, collectorStalled_hostAfter]
  intro e he
  obtain ⟨mono, wall, out, hp⟩ := hpolls id e.1 e.2 (mem_of_lastPoll he)
  rw [hp]
  exact Adapter.failsUnseen lib id a out

variable {as} in
/-- For every interleaving of polls and operator calls of a host whose samples come from its
adapter, `/readyz` answers 404 for an unmanaged device, 200 for a managed one whose last
poll succeeded and is recent enough while some device of the host was sampled within the
stall limit, and 503 for any other. -/
theorem Supervisor.readyz_device {lib : Library} {a : Adapter} (hpolls : a.Polls lib as)
    {dev : String} (hdev : dev ≠ "") :
    let code := ((s.hostAfter exp deviceFilter discovered as).readyz b now dev).1
    let good := s.FreshSuccess b now (actionsOf dev as) ∧
      CollectorAlive b now (managed deviceFilter discovered) as
    (code = 404 ↔ dev ∉ managed deviceFilter discovered) ∧
      (code = 200 ↔ dev ∈ managed deviceFilter discovered ∧ good) ∧
      (code = 503 ↔ dev ∈ managed deviceFilter discovered ∧ ¬ good) := by
  intro code good
  have hready := s.ready_hostAfter_iff exp b now deviceFilter discovered hpolls dev
  have hcode : code = if dev ∈ managed deviceFilter discovered then
      (if ((s.deviceAfter exp dev (actionsOf dev as)).readiness b dev now
        ((s.hostAfter exp deviceFilter discovered as).collectorStalled b now)).ready
          then 200 else 503) else 404 := by
    simp only [code, Host.readyz, if_pos hdev, Host.deviceReadiness, s.hostAfter_devices]
    by_cases hmem : dev ∈ managed deviceFilter discovered
    · simp only [if_pos hmem, Option.map_some]
    · simp only [if_neg hmem, Option.map_none]
  rw [hcode]
  by_cases hmem : dev ∈ managed deviceFilter discovered
  · by_cases hgood : good
    · rw [if_pos hmem, if_pos (hready.mpr hgood)]
      simp [hmem, hgood]
    · rw [if_pos hmem, if_neg fun h => hgood (hready.mp h)]
      simp [hmem, hgood]
  · rw [if_neg hmem]
    simp [hmem]

end

/-- Two devices of which only the first has been polled, the last time after one second. -/
def firstPolled : List (String × DeviceAction) :=
  [("0", .poll (rowTurn "1, 8, 9" 0).probe 0), ("0", .poll (rowTurn "1, 8, 9" 1).probe 1000000000)]

theorem firstPolled_polls : (Adapter.nvidia true).Polls digitLibrary firstPolled := by
  intro id p timestamp hmem
  simp only [firstPolled, List.mem_cons, Prod.mk.injEq, DeviceAction.poll.injEq, List.not_mem_nil,
    or_false] at hmem
  obtain ⟨rfl, rfl, -⟩ | ⟨rfl, rfl, -⟩ := hmem <;> exact ⟨_, _, _, rfl⟩

/-- After three seconds the polled device is ready and the other one is not. Nine seconds later
the polled one has become unready, although its telemetry is fresh enough. -/
theorem firstPolled_readyz :
    let h := smallSupervisor.hostAfter (fun _ => 1) [] ["0", "1"] firstPolled
    (h.readyz defaultReadinessBounds 3000000000 "0").1 = 200 ∧
      (h.readyz defaultReadinessBounds 3000000000 "1").1 = 503 ∧
      (h.readyz defaultReadinessBounds 3000000000 "2").1 = 404 ∧
      (h.readyz defaultReadinessBounds 12000000000 "0").1 = 503 := by
  intro h
  have hcodes := fun (now : ℤ) {dev : String} (hdev : dev ≠ "") =>
    smallSupervisor.readyz_device (fun _ => 1) defaultReadinessBounds now [] ["0", "1"]
      firstPolled_polls hdev
  have hlast : lastPoll (actionsOf "0" firstPolled) =
      some ((rowTurn "1, 8, 9" 1).probe, 1000000000) := rfl
  refine ⟨(hcodes _ (by decide)).2.1.mpr ⟨by decide, ⟨_, hlast, by decide +kernel, by decide⟩,
      "0", by decide, _, hlast, by decide⟩,
    (hcodes _ (by decide)).2.2.mpr ⟨by decide, ?_⟩, (hcodes _ (by decide)).1.mpr (by decide),
    (hcodes _ (by decide)).2.2.mpr ⟨by decide, ?_⟩⟩
  · rintro ⟨⟨e, he, -⟩, -⟩
    cases he
  · rintro ⟨-, id, hid, e, he, hage⟩
    obtain rfl | rfl : id = "0" ∨ id = "1" := by simpa [managed] using hid
    · cases hlast.symm.trans he
      revert hage
      decide
    · cases he

/-! ### The host -/

section

variable (s : Supervisor) (exp : ℚ → ℚ) (b : ReadinessBounds) (now : ℤ)
  (deviceFilter discovered : List String) (as : List (String × DeviceAction))

theorem Supervisor.mem_details {dr : DeviceReadiness} :
    dr ∈ (s.hostAfter exp deviceFilter discovered as).details b now ↔
      ∃ id ∈ managed deviceFilter discovered,
        (s.deviceAfter exp id (actionsOf id as)).readiness b id now
          ((s.hostAfter exp deviceFilter discovered as).collectorStalled b now) = dr := by
  rw [Host.details]
  simp only [List.mem_map, Prod.exists, s.mem_managedDevices]
  constructor
  · rintro ⟨id, d, ⟨hid, rfl⟩, rfl⟩
    exact ⟨id, hid, rfl⟩
  · rintro ⟨id, hid, rfl⟩
    exact ⟨id, _, ⟨hid, rfl⟩, rfl⟩

/-- A device is ready exactly if it gives no reason against it, names a stall of the collector,
and never names the host's last resort. -/
theorem HostDevice.readiness_reasons (d : HostDevice) (b : ReadinessBounds) (deviceID : String)
    (now : ℤ) (stalled : Bool) :
    ((d.readiness b deviceID now stalled).ready = true ↔
        (d.readiness b deviceID now stalled).reasons = []) ∧
      (stalled = true → "COLLECTOR_STALLED" ∈ (d.readiness b deviceID now stalled).reasons) ∧
      "NO_READY_DEVICES" ∉ (d.readiness b deviceID now stalled).reasons := by
  refine ⟨List.isEmpty_iff, fun hstalled => by simp [readiness, hstalled], ?_⟩
  cases hwall : d.state.lastSampleWall with
  | none => simp [readiness, hwall]
  | some wall =>
    simp only [readiness, hwall]
    split_ifs <;> simp

variable {as} in
/-- The control plane is ready exactly if the collector runs and the last poll of some device
was a fresh success. -/
theorem Supervisor.controlPlaneReady_iff {lib : Library} {a : Adapter}
    (hpolls : a.Polls lib as) :
    ((s.hostAfter exp deviceFilter discovered as).readiness b now).controlPlaneReady = true ↔
      CollectorAlive b now (managed deviceFilter discovered) as ∧
        ∃ id ∈ managed deviceFilter discovered, s.FreshSuccess b now (actionsOf id as) := by
  have hstalled := s.collectorStalled_hostAfter exp b now deviceFilter discovered as
  have hready := s.ready_hostAfter_iff exp b now deviceFilter discovered hpolls
  have hcount : 0 < ((s.hostAfter exp deviceFilter discovered as).details b now).countP
      (fun d => d.ready) ↔ ∃ id ∈ managed deviceFilter discovered,
        s.FreshSuccess b now (actionsOf id as) ∧
          CollectorAlive b now (managed deviceFilter discovered) as := by
    rw [List.countP_pos_iff]
    constructor
    · rintro ⟨dr, hdr, hr⟩
      obtain ⟨id, hid, rfl⟩ := (s.mem_details exp b now _ _ _).mp hdr
      exact ⟨id, hid, (hready id).mp hr⟩
    · rintro ⟨id, hid, hgood⟩
      exact ⟨_, (s.mem_details exp b now _ _ _).mpr ⟨id, hid, rfl⟩, (hready id).mpr hgood⟩
  rw [Host.readiness, Bool.and_eq_true, decide_eq_true_iff, Bool.not_eq_true', hcount, hstalled]
  constructor
  · rintro ⟨⟨id, hid, hfresh, -⟩, halive⟩
    exact ⟨halive, id, hid, hfresh⟩
  · rintro ⟨halive, id, hid, hfresh⟩
    exact ⟨⟨id, hid, hfresh, halive⟩, halive⟩

/-- Without devices no sample can be recent. -/
theorem Supervisor.collectorStalled_of_managed_nil (h : managed deviceFilter discovered = []) :
    (s.hostAfter exp deviceFilter discovered as).collectorStalled b now = true := by
  by_contra hrun
  obtain ⟨id, hid, -⟩ := (s.collectorStalled_hostAfter exp b now deviceFilter discovered as).mp
    (Bool.eq_false_of_not_eq_true hrun)
  rw [h] at hid
  cases hid

/-- The collected reasons are those of the devices. Only a host without devices adds one. -/
theorem Supervisor.mem_collectedReasons {r : String} :
    r ∈ (s.hostAfter exp deviceFilter discovered as).collectedReasons b now ↔
      (∃ dr ∈ (s.hostAfter exp deviceFilter discovered as).details b now, r ∈ dr.reasons) ∨
        (r = "COLLECTOR_STALLED" ∧ managed deviceFilter discovered = []) := by
  rw [Host.collectedReasons, mem_foldl_insertNew, List.mem_flatMap]
  constructor
  · rintro (hr | hr)
    · split at hr
      · rename_i hstalled
        obtain rfl := List.mem_singleton.mp hr
        cases hm : managed deviceFilter discovered with
        | nil => exact .inr ⟨rfl, rfl⟩
        | cons id ids =>
          -- every device repeats the stall of the collector
          refine .inl ⟨_, (s.mem_details exp b now _ _ _).mpr ⟨id, ?_, rfl⟩,
            (HostDevice.readiness_reasons _ b id now _).2.1 hstalled⟩
          rw [hm]
          exact List.mem_cons_self
      · cases hr
    · exact .inl hr
  · rintro (hr | ⟨rfl, hnil⟩)
    · exact .inr hr
    · rw [if_pos (s.collectorStalled_of_managed_nil exp b now _ _ as hnil)]
      exact .inl (List.mem_singleton_self _)

/-- If no reason is collected, there is a device, it is ready, and so is the host. -/
theorem Supervisor.controlPlaneReady_of_collectedReasons_nil
    (h : (s.hostAfter exp deviceFilter discovered as).collectedReasons b now = []) :
    ((s.hostAfter exp deviceFilter discovered as).readiness b now).controlPlaneReady = true := by
  have hmem := fun r => s.mem_collectedReasons exp b now deviceFilter discovered as (r := r)
  rw [h] at hmem
  cases hm : managed deviceFilter discovered with
  | nil => exact absurd ((hmem "COLLECTOR_STALLED").mpr (.inr ⟨rfl, hm⟩)) List.not_mem_nil
  | cons id ids =>
    have hdr := (s.mem_details exp b now deviceFilter discovered as).mpr
      ⟨id, hm ▸ List.mem_cons_self, rfl⟩
    obtain ⟨hready, hstalled, -⟩ := HostDevice.readiness_reasons
      (s.deviceAfter exp id (actionsOf id as)) b id now
      ((s.hostAfter exp deviceFilter discovered as).collectorStalled b now)
    have hnone := List.eq_nil_iff_forall_not_mem.mpr fun r hr =>
      List.not_mem_nil ((hmem r).mpr (.inl ⟨_, hdr, hr⟩))
    rw [hnone] at hstalled
    rw [Host.readiness, Bool.and_eq_true, decide_eq_true_iff, Bool.not_eq_true']
    exact ⟨List.countP_pos_iff.mpr ⟨_, hdr, hready.mpr hnone⟩,
      Bool.eq_false_of_not_eq_true fun h => List.not_mem_nil (hstalled h)⟩

/-- An unready host has the reasons of its devices, each once, and never needs the last
resort. -/
theorem Supervisor.readiness_reasons
    (h : ((s.hostAfter exp deviceFilter discovered as).readiness b now).controlPlaneReady
      = false) :
    let res := (s.hostAfter exp deviceFilter discovered as).readiness b now
    res.reasons ≠ [] ∧ res.reasons.Nodup ∧ "NO_READY_DEVICES" ∉ res.reasons ∧
      ∀ r, r ∈ res.reasons ↔ (∃ dr ∈ res.details, r ∈ dr.reasons) ∨
        (r = "COLLECTOR_STALLED" ∧ managed deviceFilter discovered = []) := by
  intro res
  have hne : (s.hostAfter exp deviceFilter discovered as).collectedReasons b now ≠ [] := by
    intro hnil
    rw [s.controlPlaneReady_of_collectedReasons_nil exp b now _ _ as hnil] at h
    cases h
  have hres : res.reasons = (s.hostAfter exp deviceFilter discovered as).collectedReasons b now :=
    (if_neg (Bool.not_eq_true _ ▸ h)).trans (if_neg hne)
  rw [hres]
  refine ⟨hne, nodup_foldl_insertNew ?_ _, fun hr => ?_,
    fun r => s.mem_collectedReasons exp b now _ _ as⟩
  · split
    · exact List.nodup_singleton _
    · exact List.nodup_nil
  · obtain ⟨dr, hdr, hr⟩ | ⟨hr, -⟩ := (s.mem_collectedReasons exp b now _ _ as).mp hr
    · obtain ⟨id, -, rfl⟩ := (s.mem_details exp b now _ _ _).mp hdr
      exact (HostDevice.readiness_reasons _ b id now _).2.2 hr
    · exact absurd hr (by decide)

variable {as} in
/-- For every interleaving of polls and operator calls of a host whose samples come from its
adapter, `/readyz` without a device answers 200 if some device was sampled within the stall
limit and the last poll of some device is a fresh success, and 503 otherwise. A reply of 503
lists the reasons of the devices, each once, and only a host without devices gives a reason of
its own. -/
theorem Supervisor.readyz_host {lib : Library} {a : Adapter} (hpolls : a.Polls lib as) :
    ∃ res, (s.hostAfter exp deviceFilter discovered as).readyz b now "" =
        (if res.controlPlaneReady then 200 else 503, .host res) ∧
      (res.controlPlaneReady = true ↔
        CollectorAlive b now (managed deviceFilter discovered) as ∧
          ∃ id ∈ managed deviceFilter discovered, s.FreshSuccess b now (actionsOf id as)) ∧
      (res.controlPlaneReady = true → res.reasons = []) ∧
      (res.controlPlaneReady = false →
        res.reasons ≠ [] ∧ res.reasons.Nodup ∧ "NO_READY_DEVICES" ∉ res.reasons ∧
          ∀ r, r ∈ res.reasons ↔ (∃ dr ∈ res.details, r ∈ dr.reasons) ∨
            (r = "COLLECTOR_STALLED" ∧ managed deviceFilter discovered = [])) := by
  refine ⟨_, if_neg (not_not.mpr rfl), s.controlPlaneReady_iff exp b now _ _ hpolls,
    fun hready => ?_, fun hunready => s.readiness_reasons exp b now _ _ as hunready⟩
  rw [Host.readiness] at hready ⊢
  exact if_pos hready

end

/-- Nine seconds after the host was ready, both devices name the stalled collector, and the host
lists it once. -/
theorem firstPolled_host :
    let h := smallSupervisor.hostAfter (fun _ => 1) [] ["0", "1"] firstPolled
    (h.readyz defaultReadinessBounds 3000000000 "").1 = 200 ∧
      (h.readyz defaultReadinessBounds 12000000000 "").1 = 503 ∧
      "COLLECTOR_STALLED" ∈ (h.readiness defaultReadinessBounds 12000000000).reasons := by
  intro h
  obtain ⟨early, hearly, hready, -⟩ := smallSupervisor.readyz_host (fun _ => 1)
    defaultReadinessBounds 3000000000 [] ["0", "1"] firstPolled_polls
  have hlast : lastPoll (actionsOf "0" firstPolled) =
      some ((rowTurn "1, 8, 9" 1).probe, 1000000000) := rfl
  refine ⟨?_, by decide +kernel, by decide +kernel⟩
  rw [hearly, hready.mpr ⟨⟨"0", by decide, _, hlast, by decide⟩, "0", by decide, _, hlast,
    by decide +kernel, by decide⟩]
  rfl

end GpuSidecar.Engine
