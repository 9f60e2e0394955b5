import GpuSidecar.Core.Text.Scan
import GpuSidecar.Models.Engine.Supervisor
import Mathlib.Data.List.Infix

/-!
# The vendor adapters

The embedding of `Sample` and `AccessProbe` of `internal/adapters`: the adapters of both
vendors, the generic one and the wrapper that injects faults. What a vendor's tool prints
is an input. The parts of the standard library that read numbers and JSON, change case and
convert a float to an unsigned integer are left open; so are clocks, power and the counters
of corrected errors, which no part of the supervisor reads.
-/

namespace GpuSidecar.Engine

open Lifecycle Text

def reasonProbeTimeout : String := "PROBE_TIMEOUT"
def reasonAdapterInitFailed : String := "ADAPTER_INIT_FAILED"

/-- What the adapters use of the standard library. -/
structure Library where
  parseFloat : Chars → Option ℚ
  parseUint : Chars → Option ℕ
  /-- Conversion to `uint64`, which the language leaves open outside its range. -/
  uint64 : ℚ → ℕ
  toLower : Chars → Chars
  /-- Decoding of a JSON object of objects of strings. -/
  unmarshal : Chars → Option (List (Chars × List (Chars × Chars)))

/-- The outcome of a command (`exec.Result`). -/
structure CommandResult where
  stdout : Chars
  stderr : Chars
  exitCode : ℤ
  err : Bool
  timedOut : Bool
  deriving DecidableEq, Repr

def CommandResult.failed (r : CommandResult) : Bool := r.err || r.exitCode != 0

/-- What the tools print during one poll, and the control file of injected faults if it can
be read. -/
structure ToolOutputs where
  fault : Option Chars
  sample : CommandResult
  latencyMs : ℚ
  procs : CommandResult
  ras : CommandResult
  access : CommandResult
  deriving DecidableEq, Repr

/-- The zero value of `core.Health`. -/
def Health.zero : Health where
  heartbeatOK := false
  gpuVisible := false
  gpuAccessible := false
  utilizationGPU := .unsup
  memUsedBytes := .unsup
  memFreeBytes := .unsup
  memTotalBytes := .unsup
  temperatureC := .unsup
  computeProcs := .unsup
  effectiveFreeMemRatio := 0
  probeLatencyMs := 0
  probeFailure := ⟨.none, ""⟩
  eccUncorrectable := .unsup
  rasUncorrectable := .unsup
  unsupportedFields := []

def markUnsupportedAll (h : Health) : Health :=
  { h with
    utilizationGPU := .unsup
    memUsedBytes := .unsup
    memFreeBytes := .unsup
    memTotalBytes := .unsup
    temperatureC := .unsup
    computeProcs := .unsup
    eccUncorrectable := .unsup
    rasUncorrectable := .unsup }

/-- A sample that could not be taken. -/
def failedSample (latencyMs : ℚ) (note : String) (failure : ProbeFailure) : Health :=
  markUnsupportedAll { Health.zero with
    probeLatencyMs := latencyMs, unsupportedFields := [note], probeFailure := failure }

/-- The note on a command that failed. -/
def exitNote (r : CommandResult) : String :=
  "sample:exit=" ++ toString r.exitCode ++ " timedout=" ++ toString r.timedOut

/-- Hard if the error output holds one of the markers of a missing device. -/
def classifyToolFailure (lib : Library) (hardMarkers : List String) (timedOut : Bool)
    (stderr : Chars) : ProbeFailure :=
  if timedOut then ⟨.soft, reasonProbeTimeout⟩
  else if hardMarkers.any fun m => decide (m.toList <:+: lib.toLower stderr) then
    ⟨.hard, reasonDeviceDisappeared⟩
  else ⟨.soft, reasonProbeFailure⟩

/-! ### NVIDIA -/

def splitCSV (s : Chars) : List Chars := (s.splitOn ',').map trimSpace

def firstLine (s : Chars) : Chars :=
  let s := trimSpace s
  if '\n' ∈ s then trimSpace (s.takeWhile (· ≠ '\n')) else s

def parseF (lib : Library) (s : Chars) : ℚ × Bool :=
  let s := trimSpace s
  if s = [] ∨ s.head? = some '[' ∨ s.map Char.toLower = ['n', '/', 'a'] then (0, false)
  else
    match lib.parseFloat s with
    | none => (0, false)
    | some v => (v, true)

def supF (lib : Library) (s : Chars) : Field ℚ :=
  let (v, ok) := parseF lib s
  if ok then .sup v else .unsup

/-- A counter, and the note that it is missing. -/
def supU (lib : Library) (s : Chars) (name : String) : Field ℕ × List String :=
  let (v, ok) := parseF lib s
  if ok ∧ 0 ≤ v then (.sup (lib.uint64 v), []) else (.unsup, [name ++ ":not-reported"])

def mibToBytes (lib : Library) (parsed : ℚ × Bool) : Field ℕ :=
  if parsed.2 then .sup (lib.uint64 (parsed.1 * 1024 * 1024)) else .unsup

def classifyNVFailure (lib : Library) (timedOut : Bool) (stderr : Chars) : ProbeFailure :=
  classifyToolFailure lib ["no devices were found", "invalid device",
    "unable to determine the device handle", "no devices found", "device not found", "gpu is lost",
    "unknown device"] timedOut stderr

def nvidiaProcs (r : CommandResult) : Field ℤ :=
  if r.failed then .unsup
  else .sup ((r.stdout.splitOn '\n').countP fun line => decide (trimSpace line ≠ []))

/-- The sample of the fifteen columns of a device. -/
def nvidiaHealth (lib : Library) (f : List Chars) (latencyMs : ℚ) (procs : CommandResult) :
    Health :=
  let column := fun i => f.getD i []
  let total := mibToBytes lib (parseF lib (column 6))
  let free := mibToBytes lib (parseF lib (column 5))
  let (eccUncorrectable, uncorrNote) := supU lib (column 13) "ecc_uncorrectable"
  let (_, corrNote) := supU lib (column 14) "ecc_correctable"
  { Health.zero with
    probeLatencyMs := latencyMs
    gpuVisible := true
    memUsedBytes := mibToBytes lib (parseF lib (column 4))
    memFreeBytes := free
    memTotalBytes := total
    utilizationGPU := supF lib (column 7)
    temperatureC := supF lib (column 8)
    eccUncorrectable := eccUncorrectable
    rasUncorrectable := .unsup
    unsupportedFields := uncorrNote ++ corrNote ++ ["amd_ras:nvidia-vendor"]
    computeProcs := nvidiaProcs procs
    -- the zero value stays if the total is unknown, and an unknown free value counts as zero
    effectiveFreeMemRatio :=
      if total.supported ∧ 0 < total.value then (free.value : ℚ) / total.value else 0 }

def nvidiaSample (lib : Library) (hasSMI : Bool) (out : ToolOutputs) : Health :=
  if !hasSMI then failedSample 0 "all:nvidia-smi-missing" ⟨.hard, reasonAdapterInitFailed⟩
  else if out.sample.failed then
    failedSample out.latencyMs (exitNote out.sample)
      (classifyNVFailure lib out.sample.timedOut out.sample.stderr)
  else
    let f := splitCSV (firstLine out.sample.stdout)
    if f.length < 15 then
      failedSample out.latencyMs "sample:short-output" ⟨.soft, reasonProbeFailure⟩
    else nvidiaHealth lib f out.latencyMs out.procs

def nvidiaAccessProbe (r : CommandResult) : Bool := !r.failed && decide (trimSpace r.stdout ≠ [])

/-! ### AMD -/

def cardKey (deviceID : String) : Chars := "card".toList ++ deviceID.toList

def amdF (lib : Library) (card : List (Chars × Chars)) (key : String) : Field ℚ :=
  match card.lookup key.toList with
  | none => .unsup
  | some v =>
    match lib.parseFloat (trimSpace v) with
    | none => .unsup
    | some f => .sup f

def amdU (lib : Library) (card : List (Chars × Chars)) (key : String) : Field ℕ :=
  match card.lookup key.toList with
  | none => .unsup
  | some v =>
    match lib.parseUint (trimSpace v) with
    | some u => .sup u
    | none =>
      match lib.parseFloat (trimSpace v) with
      | some f => if 0 ≤ f then .sup (lib.uint64 f) else .unsup
      | none => .unsup

def classifyAMDFailure (lib : Library) (timedOut : Bool) (stderr : Chars) : ProbeFailure :=
  classifyToolFailure lib ["no gpus", "device not found", "invalid device", "no such device",
    "not detected"] timedOut stderr

/-- The uncorrected errors summed over the blocks of the table, and whether any row counted. -/
def rasCounters (lib : Library) (r : CommandResult) : ℕ × Bool :=
  if r.failed then (0, false)
  else
    (r.stdout.splitOn '\n').foldl (fun (unc, any) line =>
      match (fields line).reverse, (fields line)[1]? with
      | last :: beforeLast :: _ :: _ :: _, some status =>
        if status = "ENABLED".toList ∨ status = "DISABLED".toList then
          let any := any || (lib.parseUint beforeLast).isSome
          match lib.parseUint last with
          | some u => ((unc + u) % 2 ^ 64, true)
          | none => (unc, any)
        else (unc, any)
      | _, _ => (unc, any)) (0, false)

def amdProcs (lib : Library) (deviceID : String) (r : CommandResult) : Field ℤ :=
  if r.failed then .unsup
  else
    match lib.unmarshal r.stdout with
    | none => .unsup
    | some m =>
      match m.lookup "system".toList with
      | none => .sup 0
      | some sys => .sup (sys.countP fun (k, v) =>
          "PID".toList.isPrefixOf k && match v.splitOn ',' with
            | _ :: gpus :: _ => decide (trimSpace gpus = deviceID.toList ∨
                deviceID.toList <:+: trimSpace gpus)
            | _ => false)

/-- The sample of a card. -/
def amdHealth (lib : Library) (deviceID : String) (card : List (Chars × Chars))
    (out : ToolOutputs) : Health :=
  let total := amdU lib card "VRAM Total Memory (B)"
  let used := amdU lib card "VRAM Total Used Memory (B)"
  let known := total.supported && used.supported
  let free := if used.value < total.value then total.value - used.value else 0
  let (unc, rok) := rasCounters lib out.ras
  { Health.zero with
    probeLatencyMs := out.latencyMs
    gpuVisible := true
    temperatureC := amdF lib card "Temperature (Sensor junction) (C)"
    utilizationGPU := amdF lib card "GPU use (%)"
    memTotalBytes := total
    memUsedBytes := used
    memFreeBytes := if known then .sup free else .unsup
    effectiveFreeMemRatio := if known ∧ 0 < total.value then (free : ℚ) / total.value else 0
    eccUncorrectable := .unsup
    rasUncorrectable := if rok then .sup unc else .unsup
    unsupportedFields :=
      ["power_limit:rocm-smi-not-queried", "nvidia_xid:amd-vendor", "nvidia_ecc:amd-uses-ras"] ++
        if rok then [] else ["amd_ras:unreadable"]
    computeProcs := amdProcs lib deviceID out.procs }

def amdSample (lib : Library) (hasROCm : Bool) (deviceID : String) (out : ToolOutputs) : Health :=
  if !hasROCm then failedSample 0 "all:rocm-smi-missing" ⟨.hard, reasonAdapterInitFailed⟩
  else if out.sample.failed then
    failedSample out.latencyMs (exitNote out.sample)
      (classifyAMDFailure lib out.sample.timedOut out.sample.stderr)
  else
    match lib.unmarshal out.sample.stdout with
    | none => failedSample out.latencyMs "sample:json-parse-fail" ⟨.soft, reasonProbeFailure⟩
    | some m =>
      match m.lookup (cardKey deviceID) with
      | none =>
        failedSample out.latencyMs "sample:card-not-in-output" ⟨.hard, reasonDeviceDisappeared⟩
      | some card => amdHealth lib deviceID card out

def amdAccessProbe (lib : Library) (deviceID : String) (r : CommandResult) : Bool :=
  !r.failed && match lib.unmarshal r.stdout with
    | none => false
    | some m => (m.lookup (cardKey deviceID)).isSome

/-! ### The generic adapter and the wrapper -/

def genericSample : Health :=
  markUnsupportedAll { Health.zero with unsupportedFields := ["all:no-vendor-tool"] }

def genericAccessProbe : Bool := false

/-- The adapter of a host. -/
inductive Adapter where
  | nvidia (hasSMI : Bool)
  | amd (hasROCm : Bool)
  | generic
  deriving DecidableEq, Repr

namespace Adapter

def vendorSample (lib : Library) (deviceID : String) (out : ToolOutputs) : Adapter → Health
  | nvidia hasSMI => nvidiaSample lib hasSMI out
  | amd hasROCm => amdSample lib hasROCm deviceID out
  | generic => genericSample

def vendorAccessProbe (lib : Library) (deviceID : String) (out : ToolOutputs) : Adapter → Bool
  | nvidia _ => nvidiaAccessProbe out.access
  | amd _ => amdAccessProbe lib deviceID out.access
  | generic => genericAccessProbe

end Adapter

/-- The class of failure that the control file asks for; a delay ends the search. -/
def refresh (deviceID : String) (file : Option Chars) : FailureClass :=
  ((lines (file.getD [])).findSome? fun line =>
    match (line.splitOnP fun c => c = ' ' || c = '\t').filter fun f => !f.isEmpty with
    | mode :: dev :: rest =>
      if dev ≠ deviceID.toList then none
      else if mode = "fail".toList ∨ mode = "failsoft".toList then some .soft
      else if mode = "failhard".toList then some .hard
      else if mode = "delay".toList ∧ rest ≠ [] then some .none
      else none
    | _ => none).getD .none

namespace Adapter

/-- A sample through the wrapper. -/
def sample (lib : Library) (deviceID : String) (a : Adapter) (out : ToolOutputs) : Health :=
  match refresh deviceID out.fault with
  | .soft => failedSample 0 "fault-injected:soft-probe-failure" ⟨.soft, reasonProbeFailure⟩
  | .hard => failedSample 0 "fault-injected:hard-device-gone" ⟨.hard, reasonDeviceDisappeared⟩
  | .none => a.vendorSample lib deviceID out

def accessProbe (lib : Library) (deviceID : String) (a : Adapter) (out : ToolOutputs) : Bool :=
  match refresh deviceID out.fault with
  | .soft | .hard => false
  | .none => a.vendorAccessProbe lib deviceID out

/-- What a poll reads through an adapter. -/
def probe (lib : Library) (deviceID : String) (a : Adapter) (mono wall : ℤ) (out : ToolOutputs) :
    Probe where
  mono := mono
  wall := wall
  sample := a.sample lib deviceID out
  accessProbe := a.accessProbe lib deviceID out

end Adapter

/-! ### What every sample says about memory -/

/-- Both figures of the free memory ratio are known. -/
def Health.memoryKnown (h : Health) : Bool := h.memTotalBytes.supported && h.memFreeBytes.supported

/-- A sample whose ratio is zero wherever memory is unknown, and whose failures carry a reason
of their own. -/
structure Health.Sampled (h : Health) : Prop where
  ratio : h.memoryKnown = false → h.effectiveFreeMemRatio = 0
  reason : h.probeFailure.reason ≠ reasonLowFreeMem

theorem sampled_failedSample (latencyMs : ℚ) (note : String) {failure : ProbeFailure}
    (h : failure.reason ≠ reasonLowFreeMem) : (failedSample latencyMs note failure).Sampled :=
  ⟨fun _ => rfl, h⟩

theorem classifyToolFailure_reason (lib : Library) (hardMarkers : List String) (timedOut : Bool)
    (stderr : Chars) :
    (classifyToolFailure lib hardMarkers timedOut stderr).reason ≠ reasonLowFreeMem := by
  unfold classifyToolFailure
  split_ifs <;> decide

/-- The ratio is zero if the total or the free figure is unknown. -/
theorem ratio_of_unknown {total free : Field ℕ} (hfree : free.supported = false → free.value = 0)
    (h : (total.supported && free.supported) = false) :
    (if total.supported ∧ 0 < total.value then (free.value : ℚ) / total.value else 0) = 0 := by
  cases htotal : total.supported with
  | false => simp
  | true =>
    have hvalue : free.value = 0 := hfree (by simpa [htotal] using h)
    simp [hvalue]

theorem mibToBytes_unknown (lib : Library) (parsed : ℚ × Bool)
    (h : (mibToBytes lib parsed).supported = false) : (mibToBytes lib parsed).value = 0 := by
  unfold mibToBytes at h ⊢
  split_ifs at h ⊢
  · cases h
  · rfl

theorem sampled_nvidiaHealth (lib : Library) (f : List Chars) (latencyMs : ℚ)
    (procs : CommandResult) : (nvidiaHealth lib f latencyMs procs).Sampled :=
  ⟨ratio_of_unknown (mibToBytes_unknown lib _),
    by simp [nvidiaHealth, Health.zero, reasonLowFreeMem]⟩

theorem sampled_amdHealth (lib : Library) (deviceID : String) (card : List (Chars × Chars))
    (out : ToolOutputs) : (amdHealth lib deviceID card out).Sampled := by
  refine ⟨fun hunknown => ?_, by simp [amdHealth, Health.zero, reasonLowFreeMem]⟩
  simp only [amdHealth, Health.memoryKnown] at hunknown ⊢
  cases hknown : (amdU lib card "VRAM Total Memory (B)").supported &&
      (amdU lib card "VRAM Total Used Memory (B)").supported with
  | false => simp
  | true =>
    rw [Bool.and_eq_true] at hknown
    simp [hknown, Field.sup] at hunknown

/-- Every sample of every adapter has the ratio zero if its memory is unknown. -/
theorem Adapter.sampled (lib : Library) (deviceID : String) (a : Adapter) (out : ToolOutputs) :
    (a.sample lib deviceID out).Sampled := by
  unfold sample
  cases refresh deviceID out.fault with
  | soft => exact sampled_failedSample _ _ (by decide)
  | hard => exact sampled_failedSample _ _ (by decide)
  | none =>
    cases a with
    | nvidia hasSMI =>
      simp only [vendorSample, nvidiaSample]
      split_ifs
      · exact sampled_failedSample _ _ (by decide)
      · exact sampled_failedSample _ _ (classifyToolFailure_reason _ _ _ _)
      · exact sampled_failedSample _ _ (by decide)
      · exact sampled_nvidiaHealth _ _ _ _
    | amd hasROCm =>
      simp only [vendorSample, amdSample]
      split_ifs
      · exact sampled_failedSample _ _ (by decide)
      · exact sampled_failedSample _ _ (classifyToolFailure_reason _ _ _ _)
      · cases lib.unmarshal out.sample.stdout with
        | none => exact sampled_failedSample _ _ (by decide)
        | some m =>
          cases hcard : m.lookup (cardKey deviceID) with
          | none =>
            simp only [hcard]
            exact sampled_failedSample _ _ (by decide)
          | some card =>
            simp only [hcard]
            exact sampled_amdHealth _ _ _ _
    | generic => exact ⟨fun _ => rfl, show genericSample.probeFailure.reason ≠ _ by decide⟩

end GpuSidecar.Engine
