import GpuSidecar.Core.Time.Duration

/-!
# The device lifecycle machine

The embedding of `internal/core/lifecycle.go`. Every method of the source takes
the machine's mutex for its whole body, so each is one function on the state.
Readings of the monotonic clock are integer nanoseconds and the configuration's
thresholds and scores are exact rationals. Reason codes stay strings, because an
adapter may report any text of its own as the reason of a failed probe.
-/

namespace GpuSidecar.Lifecycle

open Time

/-- The states of one device (`core.LifecycleState`). -/
inductive LifecycleState where
  | unknown | ready | busy | degraded | draining | offline | recovering
  deriving DecidableEq, Repr

def reasonHealthy : String := "HEALTHY"
def reasonGPUNotVisible : String := "GPU_NOT_VISIBLE"
def reasonGPUAccessProbeFail : String := "GPU_ACCESS_PROBE_FAILED"
def reasonProbeFailure : String := "PROBE_FAILURE"
def reasonOfflineThreshold : String := "OFFLINE_FAILURE_THRESHOLD_REACHED"
def reasonDeviceDisappeared : String := "DEVICE_DISAPPEARED"
def reasonLowStability : String := "LOW_STABILITY_SCORE"
def reasonUncorrErrors : String := "UNCORRECTABLE_ERRORS"
def reasonHighUtil : String := "HIGH_UTILIZATION"
def reasonLowFreeMem : String := "LOW_FREE_MEMORY"
def reasonOperatorDrain : String := "OPERATOR_DRAIN"
def reasonRecoveryHold : String := "RECOVERY_HOLD"
def reasonRecoveryStreakMet : String := "RECOVERY_STREAK_MET"

/-- The parameters of the machine. Counts are Go `int`s and may be negative. -/
structure LifecycleConfig where
  busyUtilPct : ℚ
  busyMemRatio : ℚ
  degradedScore : ℚ
  /-- Consecutive soft failures required to declare the device offline. -/
  offlineFailures : ℤ
  /-- Consecutive samples that confirm a change of healthy state. -/
  confirmSamples : ℤ
  /-- Minimum seconds in recovery. -/
  recoveringHoldSec : ℚ
  /-- Minimum consecutive healthy probes in recovery. -/
  recoveryStreak : ℤ
  deriving DecidableEq, Repr

def defaultLifecycleConfig : LifecycleConfig where
  busyUtilPct := 80
  busyMemRatio := 1 / 10
  degradedScore := 55 / 100
  offlineFailures := 3
  confirmSamples := 2
  recoveringHoldSec := 5
  recoveryStreak := 3

/-- The machine's fields, in the order of the source. -/
structure LifecycleMachine where
  cfg : LifecycleConfig
  state : LifecycleState
  pending : LifecycleState
  pendingCount : ℕ
  draining : Bool
  softFailures : ℕ
  healthyStreak : ℕ
  /-- Whether the current outage was entered on hard evidence. -/
  hardOffline : Bool
  recoveryLatched : Bool
  recoveryStartedAt : ℤ
  recoveryHealthyStreak : ℕ
  offlineSince : ℤ
  recoverStart : ℤ
  hasBeenOffline : Bool
  reasonCodes : List String
  deriving DecidableEq, Repr

def newLifecycleMachine (cfg : LifecycleConfig) : LifecycleMachine where
  cfg := cfg
  state := .unknown
  pending := .unknown
  pendingCount := 0
  draining := false
  softFailures := 0
  healthyStreak := 0
  hardOffline := false
  recoveryLatched := false
  recoveryStartedAt := 0
  recoveryHealthyStreak := 0
  offlineSince := 0
  recoverStart := 0
  hasBeenOffline := false
  reasonCodes := []

/-- One poll's input. `mono` is a reading of the monotonic clock in nanoseconds. -/
structure LifecycleObservation where
  probeOK : Bool
  gpuVisible : Bool
  gpuAccessible : Bool
  hardOfflineEvidence : Bool
  softFailure : Bool
  utilPct : ℚ
  utilSupported : Bool
  freeMemRatio : ℚ
  stabilityScore : ℚ
  newUncorrErrors : ℕ
  mono : ℤ
  probeFailReason : String
  deriving DecidableEq, Repr

/-- Definitive evidence that the device is gone. An explicit soft classification
takes precedence over invisibility. -/
def LifecycleObservation.hard (o : LifecycleObservation) : Bool :=
  o.hardOfflineEvidence || (!o.gpuVisible && !o.softFailure)

/-- A transient failure. -/
def LifecycleObservation.soft (o : LifecycleObservation) : Bool :=
  !o.hard && (o.softFailure || !o.gpuAccessible || !o.probeOK)

/-- Neither kind of failure. -/
def LifecycleObservation.healthy (o : LifecycleObservation) : Bool :=
  !o.hard && !o.soft

namespace LifecycleMachine

def setDraining (m : LifecycleMachine) (d : Bool) : LifecycleMachine :=
  { m with draining := d }

/-- Sets the flag and reports the previous state and whether the flag changed. -/
def setDrainingChecked (m : LifecycleMachine) (d : Bool) :
    LifecycleMachine × LifecycleState × Bool :=
  if m.draining = d then (m, m.state, false) else ({ m with draining := d }, m.state, true)

/-- The state a probe without failures asks for, with its reasons. -/
def classifyHealthy (m : LifecycleMachine) (o : LifecycleObservation) :
    LifecycleState × List String :=
  if m.draining then (.draining, [reasonOperatorDrain])
  else if o.stabilityScore < m.cfg.degradedScore then (.degraded, [reasonLowStability])
  else if 0 < o.newUncorrErrors then (.degraded, [reasonUncorrErrors])
  else if o.utilSupported ∧ m.cfg.busyUtilPct ≤ o.utilPct then (.busy, [reasonHighUtil])
  else if o.freeMemRatio ≤ m.cfg.busyMemRatio then (.busy, [reasonLowFreeMem])
  else (.ready, [reasonHealthy])

def hardReasons (o : LifecycleObservation) : List String :=
  let r := if o.gpuVisible then [] else [reasonGPUNotVisible]
  let r := if o.hardOfflineEvidence then
      r ++ [if o.probeFailReason ≠ "" then o.probeFailReason else reasonDeviceDisappeared]
    else r
  if r = [] then [reasonDeviceDisappeared] else r

def softReason (o : LifecycleObservation) : String :=
  if o.probeFailReason ≠ "" then o.probeFailReason
  else if o.gpuAccessible then reasonProbeFailure
  else reasonGPUAccessProbeFail

/-- The offline entry shared by hard evidence and the soft-failure threshold: the
outage starts now unless one is already running, and recovery is latched. -/
def enterOffline (m : LifecycleMachine) (o : LifecycleObservation) (hard : Bool)
    (reasons : List String) : LifecycleMachine :=
  { m with
    reasonCodes := reasons
    offlineSince := if m.state = .offline then m.offlineSince else o.mono
    hasBeenOffline := if m.state = .offline then m.hasBeenOffline else true
    hardOffline := hard
    recoveryLatched := true
    state := .offline, pending := .offline, pendingCount := 0 }

/-- `Step` on hard evidence. -/
def stepHard (m : LifecycleMachine) (o : LifecycleObservation) : LifecycleMachine × Bool :=
  let prev := m.state
  let m := enterOffline
    { m with softFailures := 0, healthyStreak := 0, recoveryHealthyStreak := 0 }
    o true (hardReasons o)
  (m, prev != m.state)

/-- `Step` on a transient failure. -/
def stepSoft (m : LifecycleMachine) (o : LifecycleObservation) : LifecycleMachine × Bool :=
  let prev := m.state
  let m := { m with
    softFailures := m.softFailures + 1, healthyStreak := 0, recoveryHealthyStreak := 0 }
  if m.cfg.offlineFailures ≤ m.softFailures then
    let m := enterOffline m o false [reasonOfflineThreshold, softReason o]
    (m, prev != m.state)
  else if m.state = .offline then
    ({ m with reasonCodes := [softReason o] }, false)
  else if m.recoveryLatched then
    let m := { m with
      state := .recovering, reasonCodes := [reasonRecoveryHold, softReason o] }
    (m, prev != m.state)
  else
    ({ m with
      reasonCodes := [softReason o]
      state := .degraded, pending := .degraded, pendingCount := 0 }, m.state != .degraded)

/-- `Step` on a healthy probe of an offline device. -/
def beginRecovery (m : LifecycleMachine) (o : LifecycleObservation) : LifecycleMachine × Bool :=
  ({ m with
    state := .recovering
    recoverStart := o.mono, recoveryStartedAt := o.mono, recoveryHealthyStreak := 1
    pending := .recovering, pendingCount := 0
    reasonCodes := [reasonRecoveryHold] }, true)

/-- `Step` on a healthy probe while the recovery latch is engaged. -/
def stepLatched (m : LifecycleMachine) (o : LifecycleObservation) : LifecycleMachine × Bool :=
  let prev := m.state
  let m := { m with recoveryHealthyStreak := m.recoveryHealthyStreak + 1 }
  let held := seconds (o.mono - m.recoveryStartedAt)
  let (target, reasons) := m.classifyHealthy o
  if m.cfg.recoveringHoldSec ≤ held ∧ m.cfg.recoveryStreak ≤ m.recoveryHealthyStreak then
    let m := { m with
      recoveryLatched := false
      state := target, pending := target, pendingCount := 0
      reasonCodes := reasonRecoveryStreakMet :: reasons }
    (m, prev != m.state)
  else
    let m := { m with
      state := .recovering
      reasonCodes := if target = .degraded ∨ target = .busy then reasonRecoveryHold :: reasons
        else [reasonRecoveryHold] }
    (m, prev != m.state)

/-- `Step` on a healthy probe with no latch: the confirmation hysteresis. -/
def stepConfirm (m : LifecycleMachine) (o : LifecycleObservation) : LifecycleMachine × Bool :=
  let (target, reasons) := m.classifyHealthy o
  if target = m.state then
    ({ m with pending := target, pendingCount := 0, reasonCodes := reasons }, false)
  else if m.state = .degraded ∧ (target = .ready ∨ target = .busy) then
    ({ m with state := target, pending := target, pendingCount := 0, reasonCodes := reasons },
      true)
  else
    let m := if target = m.pending then { m with pendingCount := m.pendingCount + 1 }
      else { m with pending := target, pendingCount := 1 }
    let need : ℤ := if target = .degraded ∨ target = .draining then 1 else m.cfg.confirmSamples
    if need ≤ m.pendingCount then
      ({ m with state := target, pendingCount := 0, reasonCodes := reasons }, true)
    else ({ m with reasonCodes := reasons }, false)

/-- `Step` on a probe without failures. -/
def stepHealthy (m : LifecycleMachine) (o : LifecycleObservation) : LifecycleMachine × Bool :=
  let m := { m with softFailures := 0, healthyStreak := m.healthyStreak + 1 }
  if m.state = .offline then m.beginRecovery o
  else if m.recoveryLatched then m.stepLatched o
  else m.stepConfirm o

/-- Advances the machine by one observation; the boolean reports a transition. -/
def step (m : LifecycleMachine) (o : LifecycleObservation) : LifecycleMachine × Bool :=
  if o.hard then m.stepHard o
  else if o.soft then m.stepSoft o
  else m.stepHealthy o

end LifecycleMachine

end GpuSidecar.Lifecycle
