import GpuSidecar.Core.Ring.Buffer
import GpuSidecar.Core.Time.Duration
import GpuSidecar.Models.Lifecycle.Machine
import Mathlib.Data.List.Sort

/-!
# Device history

The embedding of `internal/core/history.go` with the records of
`internal/core/model.go` that it keeps: the probes, time-series points and events
of one device in ring buffers, and the reliability figures derived from them.
Each method of the source takes the history's mutex for its whole body, so each is
one function on the state. A capacity is positive, because the source panics on
the first push into a ring without slots. Wall and monotonic clock readings are
integer nanoseconds, and floating-point figures are exact rationals.
-/

namespace GpuSidecar.Engine

open Lifecycle Time

/-- A reading that the vendor's tool may not support. -/
structure Field (α : Type*) where
  value : α
  supported : Bool
  deriving DecidableEq, Repr, Inhabited

namespace Field

def sup {α : Type*} (v : α) : Field α := ⟨v, true⟩

/-- An unsupported reading carries the zero value. -/
def unsup {α : Type*} [Inhabited α] : Field α := ⟨default, false⟩

end Field

/-- The kinds of event that a host sidecar records. -/
inductive EventKind where
  | stateTransition | probeFailure | disconnect | rejoin
  | workerObserved | workerStarted | workerDisappeared
  deriving DecidableEq, Repr, Inhabited

/-- What is known about the end of a worker: never anything (`core.CauseUnknown`). -/
inductive TerminationCause where
  | unknown
  deriving DecidableEq, Repr

/-- A class of failed telemetry samples (`core.ProbeFailure.Class`). -/
inductive FailureClass where
  | none | hard | soft
  deriving DecidableEq, Repr, Inhabited

/-- A raw observed fact. -/
inductive Evidence where
  | flag (b : Bool)
  | count (n : ℤ)
  | measure (q : ℚ)
  | failure (c : FailureClass)
  | text (s : String)
  deriving DecidableEq, Repr

instance : Inhabited LifecycleState := ⟨.unknown⟩

/-- A transition or failure event. An omitted field has the source's zero value. -/
structure Event where
  timestamp : ℤ
  deviceID : String
  kind : EventKind
  fromState : Option LifecycleState := none
  toState : Option LifecycleState := none
  detail : String
  evidence : List (String × Evidence) := []
  terminationCause : Option TerminationCause := none
  groundTruthSource : String := ""
  reasonCodes : List String := []
  deriving DecidableEq, Repr, Inhabited

/-- One point of the time series. -/
structure HistoryPoint where
  timestamp : ℤ
  deviceID : String
  lifecycleState : LifecycleState
  stabilityScore : ℚ
  utilGPU : ℚ
  memUsedBytes : ℕ
  temperatureC : ℚ
  probeOK : Bool
  probeLatencyMs : ℚ
  deriving DecidableEq, Repr, Inhabited

/-- One probe outcome. -/
structure ProbeRec where
  mono : ℤ
  ok : Bool
  latency : ℚ
  deriving DecidableEq, Repr, Inhabited

/-- The reliability accounting of one device. -/
structure Reliability where
  lastSuccessfulProbe : Option ℤ
  lastFailedProbe : Option ℤ
  consecutiveFailures : ℕ
  sidecarStartCount : ℕ
  workerStarts : ℕ
  workerStops : ℕ
  disconnectCount : ℕ
  rejoinCount : ℕ
  lastRecoveryMs : ℚ
  recentAvailability : ℚ
  recentFailureRate : ℚ
  probeLatencyP50Ms : ℚ
  probeLatencyP95Ms : ℚ
  throughputVariance : Field ℚ
  deriving DecidableEq, Repr, Inhabited

/-- The bounded history of one device. -/
structure DeviceHistory where
  probes : RingBuffer ProbeRec
  points : RingBuffer HistoryPoint
  events : RingBuffer Event
  rel : Reliability
  lastUncorr : ℕ
  haveUncorr : Bool
  /-- The monotonic times of recent disconnects. -/
  disconnects : RingBuffer ℤ
  windowSec : ℚ

def newDeviceHistory (probeCap pointCap eventCap : ℕ+) (windowSec : ℚ) : DeviceHistory where
  probes := .new probeCap
  points := .new pointCap
  events := .new eventCap
  rel := {
    lastSuccessfulProbe := none, lastFailedProbe := none, consecutiveFailures := 0
    sidecarStartCount := 0, workerStarts := 0, workerStops := 0
    disconnectCount := 0, rejoinCount := 0, lastRecoveryMs := 0
    recentAvailability := 0, recentFailureRate := 0
    probeLatencyP50Ms := 0, probeLatencyP95Ms := 0, throughputVariance := .unsup }
  lastUncorr := 0
  haveUncorr := false
  disconnects := .new ⟨64, by decide⟩
  windowSec := windowSec

/-- The interpolated percentile of a sorted list. -/
def percentile (sorted : List ℚ) (p : ℚ) : ℚ :=
  if sorted.length = 0 then 0
  else if sorted.length = 1 then sorted.headD 0
  else
    let rank := p / 100 * ((sorted.length - 1 : ℕ) : ℚ)
    let lo := rank.floor.toNat
    if sorted.length - 1 ≤ lo then sorted.getLastD 0
    else
      let frac := rank - lo
      sorted.getD lo 0 + frac * (sorted.getD (lo + 1) 0 - sorted.getD lo 0)

namespace DeviceHistory

/-- Availability, failure rate and latency percentiles over the window that ends now. The
figures of an empty window stay as they were. -/
def recomputeWindow (d : DeviceHistory) (now : ℤ) : DeviceHistory :=
  let cutoff := now - ofSeconds d.windowSec
  let recent := d.probes.items.filter fun p => cutoff ≤ p.mono
  let succeeded := recent.filter fun p => p.ok
  let lats := (succeeded.map fun p => p.latency).insertionSort (· ≤ ·)
  { d with rel := { d.rel with
    recentAvailability :=
      if 0 < recent.length then (succeeded.length : ℚ) / recent.length
      else d.rel.recentAvailability
    recentFailureRate :=
      if 0 < recent.length then ((recent.length : ℚ) - succeeded.length) / recent.length
      else d.rel.recentFailureRate
    probeLatencyP50Ms :=
      if 0 < lats.length then percentile lats 50 else d.rel.probeLatencyP50Ms
    probeLatencyP95Ms :=
      if 0 < lats.length then percentile lats 95 else d.rel.probeLatencyP95Ms } }

def recordProbe (d : DeviceHistory) (ok : Bool) (latencyMs : ℚ) (mono wall : ℤ) : DeviceHistory :=
  let d := { d with
    probes := d.probes.push { mono := mono, ok := ok, latency := latencyMs }
    rel := { d.rel with
      lastSuccessfulProbe := if ok then some wall else d.rel.lastSuccessfulProbe
      lastFailedProbe := if ok then d.rel.lastFailedProbe else some wall
      consecutiveFailures := if ok then 0 else d.rel.consecutiveFailures + 1 } }
  d.recomputeWindow mono

/-- The uncorrectable errors since the last observation. A counter that went back
counts none. -/
def observeUncorr (d : DeviceHistory) (cur : ℕ) (supported : Bool) : DeviceHistory × ℕ :=
  if supported then
    if d.haveUncorr then
      ({ d with lastUncorr := cur }, if d.lastUncorr < cur then cur - d.lastUncorr else 0)
    else ({ d with lastUncorr := cur, haveUncorr := true }, 0)
  else (d, 0)

/-- A change of a history that leaves the counter alone commutes with observing it. -/
theorem observeUncorr_comm (change : DeviceHistory → DeviceHistory)
    (hlast : ∀ d, (change d).lastUncorr = d.lastUncorr)
    (hhave : ∀ d, (change d).haveUncorr = d.haveUncorr)
    (hset : ∀ d last seen, change { d with lastUncorr := last, haveUncorr := seen } =
      { change d with lastUncorr := last, haveUncorr := seen })
    (d : DeviceHistory) (cur : ℕ) (supported : Bool) :
    (change d).observeUncorr cur supported =
      (change (d.observeUncorr cur supported).1, (d.observeUncorr cur supported).2) := by
  cases supported with
  | false => rfl
  | true =>
    simp only [observeUncorr, hhave, hlast, if_true]
    cases d.haveUncorr with
    | false => exact Prod.ext (hset d cur true).symm rfl
    | true => exact Prod.ext (hset d cur true).symm rfl

def addPoint (d : DeviceHistory) (p : HistoryPoint) : DeviceHistory :=
  { d with points := d.points.push p }

def addEvent (d : DeviceHistory) (e : Event) : DeviceHistory :=
  { d with events := d.events.push e }

def markWorkerStart (d : DeviceHistory) : DeviceHistory :=
  { d with rel := { d.rel with workerStarts := d.rel.workerStarts + 1 } }

def markWorkerStop (d : DeviceHistory) : DeviceHistory :=
  { d with rel := { d.rel with workerStops := d.rel.workerStops + 1 } }

def markSidecarStart (d : DeviceHistory) : DeviceHistory :=
  { d with rel := { d.rel with sidecarStartCount := d.rel.sidecarStartCount + 1 } }

def markDisconnect (d : DeviceHistory) (mono : ℤ) : DeviceHistory :=
  { d with
    rel := { d.rel with disconnectCount := d.rel.disconnectCount + 1 }
    disconnects := d.disconnects.push mono }

def markRejoin (d : DeviceHistory) (recoveryMs : ℚ) : DeviceHistory :=
  { d with rel := { d.rel with
    rejoinCount := d.rel.rejoinCount + 1
    lastRecoveryMs := recoveryMs } }

/-- The disconnects within the recent window. -/
def disconnectsInWindow (d : DeviceHistory) (now : ℤ) : ℕ :=
  let cutoff := now - ofSeconds d.windowSec
  d.disconnects.items.countP fun t => cutoff ≤ t

def setThroughputVariance (d : DeviceHistory) (cov : ℚ) : DeviceHistory :=
  { d with rel := { d.rel with throughputVariance := .sup cov } }

/-- Counting several starts in a row. -/
theorem markWorkerStart_iterate (k : ℕ) (d : DeviceHistory) :
    markWorkerStart^[k] d =
      { d with rel := { d.rel with workerStarts := d.rel.workerStarts + k } } := by
  induction k with
  | zero => rfl
  | succ k ih => rw [Function.iterate_succ_apply', ih, markWorkerStart, Nat.add_assoc]

/-- Counting several stops in a row. -/
theorem markWorkerStop_iterate (k : ℕ) (d : DeviceHistory) :
    markWorkerStop^[k] d =
      { d with rel := { d.rel with workerStops := d.rel.workerStops + k } } := by
  induction k with
  | zero => rfl
  | succ k ih => rw [Function.iterate_succ_apply', ih, markWorkerStop, Nat.add_assoc]

end DeviceHistory

end GpuSidecar.Engine
