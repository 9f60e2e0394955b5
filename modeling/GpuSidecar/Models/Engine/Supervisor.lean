import GpuSidecar.Core.Run.Indexed
import GpuSidecar.Core.Word.Int64
import GpuSidecar.Models.Engine.History
import GpuSidecar.Models.Engine.Stability
import GpuSidecar.Models.Engine.WorkerLog

/-!
# The supervisor's poll of one device

The embedding of `pollDevice`, `detectWorkers` and the operator's calls of
`internal/engine/supervisor.go`. A poll touches the state of its own device only, so
the model is of one device. The clocks, the adapter's sample and the answer of the
access probe are the inputs of a poll; between two polls an operator may drain the
device, undrain it or report a throughput variance. `pollDevice` is one function in
the source and is cut here where its comments cut it.
-/

namespace GpuSidecar.Engine

open Lifecycle Run Time Word

/-- Why a telemetry sample failed. -/
structure ProbeFailure where
  failureClass : FailureClass
  reason : String
  deriving DecidableEq, Repr

/-- The snapshot of one device that an adapter samples. -/
structure Health where
  heartbeatOK : Bool
  gpuVisible : Bool
  gpuAccessible : Bool
  utilizationGPU : Field ℚ
  memUsedBytes : Field ℕ
  memFreeBytes : Field ℕ
  memTotalBytes : Field ℕ
  temperatureC : Field ℚ
  computeProcs : Field ℤ
  effectiveFreeMemRatio : ℚ
  probeLatencyMs : ℚ
  probeFailure : ProbeFailure
  eccUncorrectable : Field ℕ
  rasUncorrectable : Field ℕ
  unsupportedFields : List String
  deriving DecidableEq, Repr

/-- Why a device is in its lifecycle state, for auditing. -/
structure LifecycleInfo where
  state : LifecycleState
  reasonCodes : List String
  consecutiveSoftFailures : ℕ
  offlineFailureThreshold : ℤ
  healthyStreak : ℕ
  recoveryStreakRequired : ℤ
  hardOffline : Bool
  recoveryLatched : Bool
  recoveryHealthyStreak : ℕ
  deriving DecidableEq, Repr

def info (m : LifecycleMachine) : LifecycleInfo where
  state := m.state
  reasonCodes := if m.reasonCodes = [] then [reasonHealthy] else m.reasonCodes
  consecutiveSoftFailures := m.softFailures
  offlineFailureThreshold := m.cfg.offlineFailures
  healthyStreak := m.healthyStreak
  recoveryStreakRequired := m.cfg.recoveryStreak
  hardOffline := m.hardOffline
  recoveryLatched := m.recoveryLatched
  recoveryHealthyStreak := m.recoveryHealthyStreak

/-- The heuristic host capacity hint. -/
structure CapacityHint where
  hostCapacityHint : ℚ
  capacitySemantics : String
  components : List (String × ℚ)
  runtimeServingCapacitySupported : Bool
  deriving DecidableEq, Repr

def computeCapacityHint (h : Health) (stability : ℚ) : CapacityHint :=
  let freeRatio := h.effectiveFreeMemRatio
  let utilHeadroom :=
    if h.utilizationGPU.supported then 1 - h.utilizationGPU.value / 100 else 1
  { hostCapacityHint := clamp01 (freeRatio * utilHeadroom * stability)
    capacitySemantics := "heuristic_host_derived"
    components := [
      ("free_memory_ratio", clamp01 freeRatio),
      ("utilization_headroom", clamp01 utilHeadroom),
      ("stability_score", clamp01 stability)]
    runtimeServingCapacitySupported := false }

/-- The published status of a device. -/
structure DeviceStatus where
  health : Health
  lifecycleState : LifecycleState
  lifecycle : LifecycleInfo
  reliability : Reliability
  stability : StabilityScore
  capacity : CapacityHint
  deriving DecidableEq, Repr

/-- The runtime objects of one device. -/
structure DeviceState where
  deviceID : String
  machine : LifecycleMachine
  stab : StabilityCalc
  hist : DeviceHistory
  wasOffline : Bool
  offlineMono : ℤ
  /-- The status of the last poll; before the first one the source holds a zero value. -/
  lastStatus : Option DeviceStatus
  collected : Bool
  lastProbeOK : Bool
  lastSampleWall : Option ℤ
  lastSampleMono : ℤ
  workerSeen : Bool
  workerEvents : WorkerEventLog

/-- The supervisor's parameters that reach a device. -/
structure Supervisor where
  lifeCfg : LifecycleConfig
  stabCfg : StabilityConfig
  winSec : ℚ
  probeRingCap : ℕ+
  pointRingCap : ℕ+
  eventRingCap : ℕ+
  /-- Whether each poll runs the access probe. -/
  accessEach : Bool

/-- The state of a newly discovered device. -/
def Supervisor.init (s : Supervisor) (deviceID : String) : DeviceState where
  deviceID := deviceID
  machine := newLifecycleMachine s.lifeCfg
  stab := newStabilityCalc s.stabCfg
  hist :=
    (newDeviceHistory s.probeRingCap s.pointRingCap s.eventRingCap s.winSec).markSidecarStart
  wasOffline := false
  offlineMono := 0
  lastStatus := none
  collected := false
  lastProbeOK := false
  lastSampleWall := none
  lastSampleMono := 0
  workerSeen := false
  workerEvents := newWorkerEventLog s.winSec s.eventRingCap

/-- What one poll reads: the clocks, the adapter's sample and what its access probe
answers if it is asked. -/
structure Probe where
  mono : ℤ
  wall : ℤ
  sample : Health
  accessProbe : Bool
  deriving DecidableEq, Repr

/-- Whether the device counts as accessible. -/
def Supervisor.access (s : Supervisor) (p : Probe) : Bool :=
  if s.accessEach then p.accessProbe else p.sample.gpuVisible

/-- The sample as the poll publishes it. -/
def Supervisor.health (s : Supervisor) (p : Probe) : Health :=
  { p.sample with gpuAccessible := s.access p, heartbeatOK := true }

def Supervisor.probeOK (s : Supervisor) (p : Probe) : Bool := p.sample.gpuVisible && s.access p

/-- Hard evidence, a soft failure and the reason of either. -/
def classifyFailure (h : Health) : Bool × Bool × String :=
  match h.probeFailure.failureClass with
  | .hard => (true, false, h.probeFailure.reason)
  | .soft => (false, true, h.probeFailure.reason)
  | .none => if h.gpuAccessible then (false, false, "") else (false, true, reasonGPUAccessProbeFail)

/-- The counter of uncorrectable errors and whether there is one. -/
def uncorrectable (h : Health) : ℕ × Bool :=
  if h.eccUncorrectable.supported then (h.eccUncorrectable.value, true)
  else if h.rasUncorrectable.supported then (h.rasUncorrectable.value, true)
  else (0, false)

def stabilityInputs (hist : DeviceHistory) (newUncorr disappeared rapid : ℕ) (mono : ℤ) :
    StabilityInputs where
  recentAvailability := hist.rel.recentAvailability
  consecutiveFailures := hist.rel.consecutiveFailures
  disconnectsInWindow := hist.disconnectsInWindow mono
  lastRecoveryMs := hist.rel.lastRecoveryMs
  errorCountDelta := newUncorr
  latencyP50Ms := hist.rel.probeLatencyP50Ms
  latencyP95Ms := hist.rel.probeLatencyP95Ms
  throughputVariance :=
    if hist.rel.throughputVariance.supported then hist.rel.throughputVariance.value else -1
  workerDisappearancesObserved := disappeared
  rapidRestartEvents := rapid

def lifecycleObservation (h : Health) (stabilityScore : ℚ) (newUncorr : ℕ) (mono : ℤ) :
    LifecycleObservation :=
  let (hardEvidence, softFailure, failReason) := classifyFailure h
  { probeOK := h.gpuVisible && h.gpuAccessible
    gpuVisible := h.gpuVisible
    gpuAccessible := h.gpuAccessible
    hardOfflineEvidence := hardEvidence
    softFailure := softFailure
    probeFailReason := failReason
    utilPct := h.utilizationGPU.value
    utilSupported := h.utilizationGPU.supported
    freeMemRatio := h.effectiveFreeMemRatio
    stabilityScore := stabilityScore
    newUncorrErrors := newUncorr
    mono := mono }

/-- A short human detail from reason codes. -/
def joinReasons (codes : List String) : String :=
  match codes with
  | [] => "healthy"
  | c :: cs => cs.foldl (fun out c => out ++ "," ++ c) c

def probeFailDetail (h : Health) : String := h.unsupportedFields.getLastD "probe failed"

namespace DeviceState

def addEvent (ds : DeviceState) (e : Event) : DeviceState := { ds with hist := ds.hist.addEvent e }

/-- Records the probe and folds it into the stability score; also returns the published
score and the new uncorrectable errors. -/
def assess (exp : ℚ → ℚ) (ds : DeviceState) (h : Health) (mono wall : ℤ) :
    DeviceState × StabilityScore × ℕ :=
  let hist := ds.hist.recordProbe (h.gpuVisible && h.gpuAccessible) h.probeLatencyMs mono wall
  let (hist, newUncorr) := hist.observeUncorr (uncorrectable h).1 (uncorrectable h).2
  let (log, disappeared) := ds.workerEvents.disappearancesInWindow mono
  let (log, rapid) := log.rapidRestartEvents mono rapidRestartSec
  let (stab, score) :=
    ds.stab.update exp (stabilityInputs hist newUncorr disappeared rapid mono) wall
  ({ ds with hist := hist, stab := stab, workerEvents := log }, score, newUncorr)

/-- The first poll that finds the device offline counts a disconnect. -/
def detectDisconnect (ds : DeviceState) (mono wall : ℤ) : DeviceState :=
  if ds.machine.state = .offline ∧ ds.wasOffline = false then
    let lifeInfo := info ds.machine
    { ds with
      wasOffline := true
      offlineMono := mono
      hist := (ds.hist.markDisconnect mono).addEvent {
        timestamp := wall, deviceID := ds.deviceID, kind := .disconnect
        detail := "device entered OFFLINE"
        reasonCodes := lifeInfo.reasonCodes
        evidence := [("hard_offline", .flag lifeInfo.hardOffline),
          ("consecutive_soft_failures", .count lifeInfo.consecutiveSoftFailures)] } }
  else ds

/-- The first poll after an outage that finds the device recovering counts a rejoin and
measures the outage. -/
def detectRejoin (ds : DeviceState) (mono wall : ℤ) : DeviceState :=
  if ds.wasOffline = true ∧ ds.machine.state = .recovering then
    let recMs : ℚ := milliseconds (mono - ds.offlineMono)
    { ds with
      wasOffline := false
      hist := (ds.hist.markRejoin recMs).addEvent {
        timestamp := wall, deviceID := ds.deviceID, kind := .rejoin
        detail := "probe recovered, entering RECOVERING"
        toState := some .recovering
        evidence := [("recovery_duration_ms", .measure recMs)] } }
  else ds

/-- The events of a transition and of a failed probe. -/
def reportPoll (ds : DeviceState) (h : Health) (prevState : LifecycleState) (transitioned : Bool)
    (wall : ℤ) : DeviceState :=
  let lifeInfo := info ds.machine
  let ds := if transitioned then
      ds.addEvent {
        timestamp := wall, deviceID := ds.deviceID, kind := .stateTransition
        fromState := some prevState, toState := some ds.machine.state
        detail := joinReasons lifeInfo.reasonCodes, reasonCodes := lifeInfo.reasonCodes }
    else ds
  if h.gpuVisible && h.gpuAccessible then ds
  else ds.addEvent {
    timestamp := wall, deviceID := ds.deviceID, kind := .probeFailure
    detail := probeFailDetail h, reasonCodes := [(classifyFailure h).2.2]
    evidence := [("class", .failure h.probeFailure.failureClass)] }

/-- The process count of the last poll. -/
def lastProcs (ds : DeviceState) : Field ℤ :=
  match ds.lastStatus with
  | some status => status.health.computeProcs
  | none => .unsup

/-- The used memory of the last poll. -/
def lastMemUsed (ds : DeviceState) : Field ℕ :=
  match ds.lastStatus with
  | some status => status.health.memUsedBytes
  | none => .unsup

/-- The lifecycle state that the last poll published. -/
def published (ds : DeviceState) : Option LifecycleState :=
  ds.lastStatus.map fun status => status.lifecycleState

/-- The stability score that the last poll published. -/
def publishedScore (ds : DeviceState) : Option ℚ :=
  ds.lastStatus.map fun status => status.stability.score

/-- Compares the process count with the one of the last poll and records the difference
as starts or stops, with one event. -/
def detectWorkers (ds : DeviceState) (h : Health) (mono wall : ℤ) : DeviceState :=
  let cur := h.computeProcs
  let prev := ds.lastProcs
  if cur.supported = false then ds
  else if prev.supported = false then
    if 0 < cur.value then
      { ds with
        workerSeen := true
        hist := ds.hist.addEvent {
          timestamp := wall, deviceID := ds.deviceID, kind := .workerObserved
          detail := "compute process present"
          evidence := [("process_count", .count cur.value)] } }
    else ds
  else
    let memReleased : ℤ :=
      if cur.value < prev.value ∧ ds.lastMemUsed.supported ∧ h.memUsedBytes.supported then
        int64 (int64 ds.lastMemUsed.value - int64 h.memUsedBytes.value)
      else 0
    if prev.value < cur.value then
      { ds with
        workerSeen := true
        workerEvents := ds.workerEvents.recordAppearance mono
        hist := (DeviceHistory.markWorkerStart^[(cur.value - prev.value).toNat] ds.hist).addEvent {
          timestamp := wall, deviceID := ds.deviceID, kind := .workerStarted
          detail := "compute process count increased"
          evidence := [("previous_process_count", .count prev.value),
            ("current_process_count", .count cur.value)] } }
    else if cur.value < prev.value then
      { ds with
        workerEvents := ds.workerEvents.recordDisappearance mono
        hist := (DeviceHistory.markWorkerStop^[(prev.value - cur.value).toNat] ds.hist).addEvent {
          timestamp := wall, deviceID := ds.deviceID, kind := .workerDisappeared
          detail :=
            "compute process count decreased (cause NOT observable from host signals — neutral)"
          terminationCause := some .unknown, groundTruthSource := ""
          evidence := [("previous_process_count", .count prev.value),
            ("current_process_count", .count cur.value),
            ("memory_released_bytes", .count memReleased)] } }
    else ds

/-- Publishes the status, adds a point to the time series and notes a successful sample. -/
def publish (ds : DeviceState) (h : Health) (stab : StabilityScore) (mono wall : ℤ) :
    DeviceState :=
  let probeOK := h.gpuVisible && h.gpuAccessible
  { ds with
    lastStatus := some {
      health := h
      lifecycleState := ds.machine.state
      lifecycle := info ds.machine
      reliability := ds.hist.rel
      stability := stab
      capacity := computeCapacityHint h stab.score }
    hist := ds.hist.addPoint {
      timestamp := wall, deviceID := ds.deviceID, lifecycleState := ds.machine.state
      stabilityScore := stab.score, utilGPU := h.utilizationGPU.value
      memUsedBytes := h.memUsedBytes.value, temperatureC := h.temperatureC.value
      probeOK := probeOK, probeLatencyMs := h.probeLatencyMs }
    collected := true
    lastProbeOK := probeOK
    lastSampleWall := if probeOK then some wall else ds.lastSampleWall
    lastSampleMono := if probeOK then mono else ds.lastSampleMono }

end DeviceState

/-- What a poll tells the lifecycle machine. -/
def Supervisor.observation (s : Supervisor) (exp : ℚ → ℚ) (ds : DeviceState) (p : Probe) :
    LifecycleObservation :=
  let (_, stab, newUncorr) := ds.assess exp (s.health p) p.mono p.wall
  lifecycleObservation (s.health p) stab.score newUncorr p.mono

/-- A poll up to the detection of workers: the score, the lifecycle step, the edges of an
outage and their events. -/
def Supervisor.examine (s : Supervisor) (exp : ℚ → ℚ) (ds : DeviceState) (p : Probe) :
    DeviceState × StabilityScore :=
  let h := s.health p
  let o := s.observation exp ds p
  let (ds, stab, _) := ds.assess exp h p.mono p.wall
  let prevState := ds.machine.state
  let (machine, transitioned) := ds.machine.step o
  let ds := { ds with machine := machine }
  let ds := ds.detectDisconnect p.mono p.wall
  let ds := ds.detectRejoin p.mono p.wall
  (ds.reportPoll h prevState transitioned p.wall, stab)

/-- One poll of a device. -/
def Supervisor.pollDevice (s : Supervisor) (exp : ℚ → ℚ) (ds : DeviceState) (p : Probe) :
    DeviceState :=
  let h := s.health p
  let (ds, stab) := s.examine exp ds p
  (ds.detectWorkers h p.mono p.wall).publish h stab p.mono p.wall

/-- What an operator may do to a device between two polls. -/
inductive OperatorCall where
  | setDraining (d : Bool) (source : String) (now : ℤ)
  | setThroughputVariance (cov : ℚ)
  deriving DecidableEq, Repr

namespace DeviceState

/-- A change of the drain flag is recorded as an event; a repeated request does nothing. -/
def setDraining (ds : DeviceState) (d : Bool) (source : String) (now : ℤ) : DeviceState :=
  let (machine, prevState, changed) := ds.machine.setDrainingChecked d
  let ds := { ds with machine := machine }
  if changed then
    ds.addEvent {
      timestamp := now, deviceID := ds.deviceID, kind := .stateTransition
      fromState := some prevState, toState := some prevState
      detail := "operator drain change"
      reasonCodes := [reasonOperatorDrain]
      evidence := [("draining_previous", .flag !d), ("draining_new", .flag d),
        ("request_source", .text source)] }
  else ds

def call (ds : DeviceState) : OperatorCall → DeviceState
  | .setDraining d source now => ds.setDraining d source now
  | .setThroughputVariance cov => { ds with hist := ds.hist.setThroughputVariance cov }

end DeviceState

/-- One turn of a device: the operator's calls since the last poll, then the poll. -/
structure Turn where
  calls : List OperatorCall
  probe : Probe
  deriving DecidableEq, Repr

def Supervisor.turn (s : Supervisor) (exp : ℚ → ℚ) (ds : DeviceState) (t : Turn) : DeviceState :=
  s.pollDevice exp (t.calls.foldl DeviceState.call ds) t.probe

/-- The device before turn `n` of a run. -/
def Supervisor.deviceAt (s : Supervisor) (exp : ℚ → ℚ) (deviceID : String) (turns : ℕ → Turn)
    (n : ℕ) : DeviceState :=
  stateAt (s.turn exp) (s.init deviceID) turns n

/-- A supervisor with the default thresholds and short rings. -/
def smallSupervisor : Supervisor where
  lifeCfg := defaultLifecycleConfig
  stabCfg := defaultStabilityConfig
  winSec := 120
  probeRingCap := ⟨4, by decide⟩
  pointRingCap := ⟨4, by decide⟩
  eventRingCap := ⟨8, by decide⟩
  accessEach := false

/-- The sample of an idle device, or of one that is gone, with a process count. -/
def plainSample (gone : Bool) (computeProcs : Field ℤ) : Health where
  heartbeatOK := false
  gpuVisible := !gone
  gpuAccessible := false
  utilizationGPU := .sup 0
  memUsedBytes := .unsup
  memFreeBytes := .sup 1024
  memTotalBytes := .sup 1024
  temperatureC := .unsup
  computeProcs := computeProcs
  effectiveFreeMemRatio := 1
  probeLatencyMs := 1
  probeFailure := ⟨if gone then .hard else .none, ""⟩
  eccUncorrectable := .unsup
  rasUncorrectable := .unsup
  unsupportedFields := []

/-- Turn `n` of a run with one poll a second and no operator. -/
def plainTurn (gone : Bool) (computeProcs : Field ℤ) (n : ℕ) : Turn where
  calls := []
  probe := {
    mono := n * 1000000000, wall := n * 1000000000
    sample := plainSample gone computeProcs, accessProbe := false }

end GpuSidecar.Engine
