import GpuSidecar.Models.Routing.Registry
import GpuSidecar.Models.Runtime.Metrics

/-!
# Polling a backend

The embedding of `Registry.pollBackend` in `internal/router/registry.go` with the decoders
of its fields. A reply is the decoded object of an endpoint, or nothing when the request
fails or the body is no object. The headroom of the KV cache is reported by the cache
plane, or derived from the utilization that the runtime reports; this file says exactly
when the derived figure rests on a measurement.
-/

namespace GpuSidecar.Routing

open Json

/-- A configured backend. -/
structure Backend where
  id : String
  vendor : String
  sidecarURL : String
  snapshotURL : String
  deriving DecidableEq, Repr

/-- `BackendState` with the fields that no policy reads. -/
structure PolledState extends BackendState where
  backend : Backend
  controlPlaneReady : Bool
  hostCapacityHint : ℚ
  snapshotAgeMs : ℤ
  cacheMatchSupported : Bool
  cacheReady : Bool
  cacheSnapshotAgeMs : ℤ
  cacheEventSequence : ℤ
  cacheIndexSize : ℤ
  cacheResetEpoch : ℤ
  cacheProvider : String
  deriving DecidableEq, Repr

/-- The state of a backend of which nothing is known. -/
def PolledState.unknown (b : Backend) : PolledState where
  id := b.id
  reachable := false
  lifecycleState := ""
  stabilityScore := 0
  queueDepth := 0
  queueInflight := 0
  queueMax := 0
  runtimeHealthy := false
  runtimeWaiting := 0
  runtimeRunning := 0
  kvCacheUtil := 0
  genTokensPerSec := 0
  serviceRateSupported := false
  cacheObservationSupported := false
  cacheConfidence := 0
  kvHeadroom := 0
  kvHeadroomSupported := false
  prefixMatchedTokens := 0
  backend := b
  controlPlaneReady := false
  hostCapacityHint := 0
  snapshotAgeMs := 0
  cacheMatchSupported := false
  cacheReady := false
  cacheSnapshotAgeMs := 0
  cacheEventSequence := 0
  cacheIndexSize := 0
  cacheResetEpoch := 0
  cacheProvider := ""

/-- The replies of the five endpoints. -/
structure Replies where
  readyz : Option Object
  status : Option Object
  queue : Option Object
  runtime : Option Object
  cache : Option Object

/-! ### Decoding fields -/

section

-- the conversion of a float to an integer, which truncates within the integer's range
variable (toInt : ℚ → ℤ)

def intOf (v : Json) : ℤ := (v.num?.map toInt).getD 0

/-- The value of a field object, or of a bare number. -/
def fieldVal (v : Json) : ℚ :=
  match v with
  | .obj m => (member m "value").num?.getD 0
  | .num q => q
  | _ => 0

/-- Whether a field object is supported; a bare number is. -/
def fieldSupported (v : Json) : Bool :=
  match v with
  | .obj m => (member m "supported").bool?.getD false
  | .num _ => true
  | _ => false

/-! ### The service rate -/

/-- A cumulative counter and the time at which it was read. -/
structure CounterSample where
  genTokensTotal : ℚ
  supported : Bool
  sampledAt : ℤ

/-- The counters of the last poll, by backend. -/
abbrev Counters := AList fun _ : String => CounterSample

/-- The rate since the last poll; a counter that was reset gives zero. -/
def serviceRate (prev : Counters) (now : ℤ) (backendID : String) (genTotal : ℚ)
    (supported : Bool) : (ℚ × Bool) × Counters :=
  let rate := match prev.lookup backendID with
    | none => (0, false)
    | some p =>
      let dt : ℚ := (now - p.sampledAt : ℤ) / 10 ^ 9
      let d := genTotal - p.genTokensTotal
      if !supported || !p.supported then (0, false)
      else if dt ≤ 0 then (0, false)
      else if d < 0 then (0, true)
      else (d / dt, true)
  (rate, prev.insert backendID ⟨genTotal, supported, now⟩)

/-! ### The endpoints -/

def readReadyz (rz : Object) (st : PolledState) : PolledState :=
  { st with
    reachable := true
    controlPlaneReady := (member rz "control_plane_ready").bool?.getD false }

/-- The first device stands for the host. -/
def readStatus (status : Object) (st : PolledState) : PolledState :=
  let st := { st with reachable := true }
  match (member status "devices").arr?.bind fun devices => devices.head?.bind obj? with
  | none => st
  | some d0 =>
    { st with
      lifecycleState := (member d0 "lifecycle_state").str?.getD st.lifecycleState
      stabilityScore := match (member d0 "stability").obj? with
        | some stab => (member stab "score").num?.getD 0
        | none => st.stabilityScore
      hostCapacityHint := match (member d0 "capacity").obj? with
        | some cap => (member cap "host_capacity_hint").num?.getD 0
        | none => st.hostCapacityHint }

def readQueue (q : Object) (st : PolledState) : PolledState :=
  { st with
    queueDepth := intOf toInt (member q "queued_requests")
    queueInflight := intOf toInt (member q "inflight_requests")
    queueMax := intOf toInt (member q "max_queued_requests") }

def readRuntime (prev : Counters) (now : ℤ) (rt : Object) (st : PolledState) :
    PolledState × Counters :=
  let gen := member rt "generation_tokens_per_s"
  let (rate, counters) := serviceRate prev now st.id (fieldVal gen) (fieldSupported gen)
  ({ st with
    runtimeHealthy := (member rt "healthy").bool?.getD false
    runtimeWaiting := fieldVal (member rt "requests_waiting")
    runtimeRunning := fieldVal (member rt "requests_running")
    kvCacheUtil := fieldVal (member rt "kv_cache_utilization")
    snapshotAgeMs := ((member rt "scrape_age_ms").num?.map toInt).getD st.snapshotAgeMs
    genTokensPerSec := rate.1
    serviceRateSupported := rate.2 }, counters)

/-- The directory, if the provider published one that is not empty. -/
def readDirectory (c : Object) : Option PrefixTokens :=
  match (member c "directory").obj? with
  | none => none
  | some d =>
    if d.isEmpty then none
    else some (d.foldl (fun dir e => dir.insert e.1 (intOf toInt e.2)) ∅)

def readCache (c : Object) (st : PolledState) : PolledState :=
  { st with
    cacheObservationSupported := (member c "supported").bool?.getD false
    cacheMatchSupported := (member c "match_supported").bool?.getD false
    cacheReady := (member c "ready").bool?.getD false
    cacheConfidence := (member c "confidence").num?.getD 0
    cacheSnapshotAgeMs := ((member c "snapshot_age_ms").num?.map toInt).getD st.cacheSnapshotAgeMs
    cacheEventSequence :=
      ((member c "last_event_sequence").num?.map toInt).getD st.cacheEventSequence
    cacheResetEpoch := ((member c "cache_reset_epoch").num?.map toInt).getD st.cacheResetEpoch
    cacheIndexSize := intOf toInt (member c "index_entries")
    cacheProvider := (member c "provider").str?.getD ""
    kvHeadroom := (member c "kv_headroom").num?.getD st.kvHeadroom
    kvHeadroomSupported := (member c "kv_headroom_supported").bool?.getD false }

/-- The headroom is derived from the utilization when the cache plane did not report it. -/
def deriveHeadroom (st : PolledState) : PolledState :=
  if !st.kvHeadroomSupported && st.runtimeHealthy then
    { st with kvHeadroom := 1 - st.kvCacheUtil, kvHeadroomSupported := true }
  else st

/-- The state and the directory of a backend, and the counters for its next poll. -/
def pollBackend (prev : Counters) (now : ℤ) (b : Backend) (r : Replies) :
    PolledState × Option PrefixTokens × Counters :=
  let st := PolledState.unknown b
  let st := r.readyz.elim st (readReadyz · st)
  let st := r.status.elim st (readStatus · st)
  let st := r.queue.elim st (readQueue toInt · st)
  let (st, counters) := r.runtime.elim (st, prev) (readRuntime toInt prev now · st)
  let st := r.cache.elim st (readCache toInt · st)
  (deriveHeadroom st, r.cache.bind (readDirectory toInt), counters)

end

/-- What a refresh takes from a poll. -/
def polled (toInt : ℚ → ℤ) (prev : Counters) (now : ℤ) (b : Backend) (r : Replies) : Polled :=
  ⟨(pollBackend toInt prev now b r).1.toBackendState, (pollBackend toInt prev now b r).2.1⟩

/-! ### The headroom -/

namespace Replies

/-- The cache plane reported the headroom. -/
def reportsHeadroom (r : Replies) : Bool :=
  r.cache.elim false fun c => (member c "kv_headroom_supported").bool?.getD false

/-- The runtime reported a utilization that it supports. -/
def reportsUtilization (r : Replies) : Bool :=
  r.runtime.elim false fun rt => fieldSupported (member rt "kv_cache_utilization")

/-- The runtime reported that it is healthy. -/
def reportsHealthy (r : Replies) : Bool :=
  r.runtime.elim false fun rt => (member rt "healthy").bool?.getD false

/-- The utilization that is read from the runtime's reply. -/
def utilization (r : Replies) : ℚ :=
  r.runtime.elim 0 fun rt => fieldVal (member rt "kv_cache_utilization")

end Replies

/-- Nothing has been read of the runtime and its cache. -/
structure PolledState.Blank (st : PolledState) : Prop where
  runtimeHealthy : st.runtimeHealthy = false
  kvCacheUtil : st.kvCacheUtil = 0
  kvHeadroomSupported : st.kvHeadroomSupported = false

/-- What reading a reply keeps holds whether or not the endpoint replies. -/
theorem elim_rule {P : PolledState → Prop} (read : Object → PolledState → PolledState)
    {st : PolledState} (h : P st) (hread : ∀ m st, P st → P (read m st))
    (reply : Option Object) : P (reply.elim st (read · st)) := by
  cases reply with
  | none => exact h
  | some m => exact hread m st h

theorem PolledState.Blank.readStatus {st : PolledState} (h : st.Blank) (status : Object) :
    (readStatus status st).Blank := by
  unfold Routing.readStatus
  split <;> exact ⟨h.1, h.2, h.3⟩

section

variable (toInt : ℚ → ℤ) (prev : Counters) (now : ℤ) (b : Backend) (r : Replies)

/-- What is known when the headroom is derived. -/
theorem pollBackend_eq :
    ∃ st : PolledState, (pollBackend toInt prev now b r).1 = deriveHeadroom st ∧
      st.runtimeHealthy = r.reportsHealthy ∧ st.kvCacheUtil = r.utilization ∧
      st.kvHeadroomSupported = r.reportsHeadroom := by
  have hblank : (PolledState.unknown b).Blank := ⟨rfl, rfl, rfl⟩
  have hreadyz := elim_rule readReadyz hblank (fun _ _ h => ⟨h.1, h.2, h.3⟩) r.readyz
  have hstatus := elim_rule readStatus hreadyz (fun m _ h => h.readStatus m) r.status
  have hqueue := elim_rule (readQueue toInt) hstatus (fun _ _ h => ⟨h.1, h.2, h.3⟩) r.queue
  refine ⟨_, rfl, ?_⟩
  cases hcache : r.cache with
  | none =>
    cases hruntime : r.runtime with
    | none =>
      simp only [Replies.reportsHealthy, Replies.utilization, Replies.reportsHeadroom, hruntime,
        hcache, Option.elim_none]
      exact ⟨hqueue.1, hqueue.2, hqueue.3⟩
    | some rt =>
      simp only [Replies.reportsHealthy, Replies.utilization, Replies.reportsHeadroom, hruntime,
        hcache, Option.elim_none, Option.elim_some]
      exact ⟨rfl, rfl, hqueue.3⟩
  | some c =>
    cases hruntime : r.runtime with
    | none =>
      simp only [Replies.reportsHealthy, Replies.utilization, Replies.reportsHeadroom, hruntime,
        hcache, Option.elim_none, Option.elim_some]
      exact ⟨hqueue.1, hqueue.2, rfl⟩
    | some rt =>
      simp only [Replies.reportsHealthy, Replies.utilization, Replies.reportsHeadroom, hruntime,
        hcache, Option.elim_some]
      exact ⟨rfl, rfl, rfl⟩

/-- The headroom counts as supported if it was reported or the runtime is healthy. -/
theorem pollBackend_kvHeadroomSupported :
    (pollBackend toInt prev now b r).1.kvHeadroomSupported =
      (r.reportsHeadroom || r.reportsHealthy) := by
  obtain ⟨st, hst, hhealthy, -, hsupported⟩ := pollBackend_eq toInt prev now b r
  rw [hst, deriveHeadroom, hhealthy, hsupported]
  cases hreport : r.reportsHeadroom <;> cases r.reportsHealthy <;> simp [hsupported, hreport]

theorem pollBackend_kvHeadroom (h : r.reportsHeadroom = false)
    (hhealthy : r.reportsHealthy = true) :
    (pollBackend toInt prev now b r).1.kvHeadroom = 1 - r.utilization := by
  obtain ⟨st, hst, hhealthy', hutil, hsupported⟩ := pollBackend_eq toInt prev now b r
  rw [hst, deriveHeadroom, hhealthy', hsupported, h, hhealthy, ← hutil]
  rfl

end

/-- A headroom that counts as supported rests on a report: of the cache plane or, as long as its
scrapes succeed, of the runtime. -/
structure HeadroomMeasured (st : PolledState) (r : Replies) : Prop where
  reported : st.kvHeadroomSupported = true →
    r.reportsHeadroom = true ∨ r.reportsUtilization = true
  scraped : ∀ (parseFloat : Text.Chars → Option ℚ) (start now : ℤ)
    (rounds : List Runtime.AdapterRound) (a : Runtime.Adapter),
    rounds.foldl (Runtime.Adapter.round parseFloat) (.new start) = a →
      r.runtime = some (a.snapshot now).toJson → a.snap.scrapeOK = false →
        st.kvHeadroomSupported = true → r.reportsHeadroom = true

/-- The runtime's reply after a failed scrape: no utilization, whatever the health check says. -/
theorem Replies.of_failedScrape {r : Replies} {a : Runtime.Adapter} {now : ℤ} (ha : a.Honest)
    (hruntime : r.runtime = some (a.snapshot now).toJson) (hfailed : a.snap.scrapeOK = false) :
    r.reportsUtilization = false ∧ r.utilization = 0 ∧ r.reportsHealthy = a.healthy := by
  have hmem : ("kv_cache_utilization", (a.snapshot now).kvCacheUtil) ∈
      (a.snapshot now).metrics := by
    simp [Runtime.RuntimeMetrics.metrics]
  have hutil : member (a.snapshot now).toJson "kv_cache_utilization" =
      Runtime.Field.toJson Runtime.unsup := by
    rw [Runtime.RuntimeMetrics.member_metric hmem]
    exact congrArg Runtime.Field.toJson (ha hfailed _ hmem)
  refine ⟨?_, ?_, ?_⟩
  · rw [reportsUtilization, hruntime, Option.elim_some, hutil]
    rfl
  · rw [utilization, hruntime, Option.elim_some, hutil]
    rfl
  · rw [reportsHealthy, hruntime, Option.elim_some, Runtime.RuntimeMetrics.member_healthy]
    rfl

/-- The headroom rests on a report exactly if the runtime is not reported to be healthy, or one
of the two figures is reported. -/
theorem headroomMeasured_iff (toInt : ℚ → ℤ) (prev : Counters) (now : ℤ) (b : Backend)
    (r : Replies) :
    HeadroomMeasured (pollBackend toInt prev now b r).1 r ↔
      (r.reportsHealthy = true → r.reportsHeadroom = true ∨ r.reportsUtilization = true) := by
  have hsupported := pollBackend_kvHeadroomSupported toInt prev now b r
  constructor
  · intro h hhealthy
    apply h.reported
    rw [hsupported, hhealthy, Bool.or_true]
  · intro h
    have hreported : (pollBackend toInt prev now b r).1.kvHeadroomSupported = true →
        r.reportsHeadroom = true ∨ r.reportsUtilization = true := by
      intro hst
      rw [hsupported, Bool.or_eq_true] at hst
      exact hst.elim Or.inl h
    refine ⟨hreported, fun parseFloat start t rounds a ha hruntime hfailed hst => ?_⟩
    have honest : a.Honest := ha ▸ Runtime.Adapter.honest_run parseFloat start rounds
    have hutil := (Replies.of_failedScrape honest hruntime hfailed).1
    exact (hreported hst).resolve_right (by rw [hutil]; exact Bool.false_ne_true)

/-- A healthy runtime whose scrape failed, on a host whose cache plane reports nothing, is given
a full headroom, and the cost model sees no pressure on it. -/
theorem failedScrape_fullHeadroom (toInt : ℚ → ℤ) (prev : Counters) (t : ℤ) (b : Backend)
    {r : Replies} {a : Runtime.Adapter} {now : ℤ} (ha : a.Honest)
    (hruntime : r.runtime = some (a.snapshot now).toJson) (hfailed : a.snap.scrapeOK = false)
    (hhealthy : a.healthy = true) (hcache : r.reportsHeadroom = false)
    (cfg : CacheAwareConfig) (locator : Locator) (req : RequestFeatures) :
    (pollBackend toInt prev t b r).1.kvHeadroomSupported = true ∧
      (pollBackend toInt prev t b r).1.kvHeadroom = 1 ∧
      (cfg.cost locator req (pollBackend toInt prev t b r).1.toBackendState).kvPenaltyMs = 0 := by
  obtain ⟨-, hutil, hreported⟩ := Replies.of_failedScrape ha hruntime hfailed
  have hhealthy' : r.reportsHealthy = true := hreported.trans hhealthy
  have hheadroom : (pollBackend toInt prev t b r).1.kvHeadroom = 1 := by
    rw [pollBackend_kvHeadroom toInt prev t b r hcache hhealthy', hutil, sub_zero]
  refine ⟨?_, hheadroom, ?_⟩
  · rw [pollBackend_kvHeadroomSupported, hhealthy', Bool.or_true]
  · change (if _ then cfg.kvPressurePenaltyMs * (1 - clamp01 _) else 0) = 0
    rw [hheadroom, show clamp01 1 = 1 by decide, sub_self, mul_zero, ite_self]

/-- The metrics of the runtime time out, its health check passes, and there is no cache plane. -/
def timedOutScrape : Runtime.Adapter :=
  [Runtime.AdapterRound.checkHealth (some 200), .scrape 0 500 (.error "timeout")].foldl
    (Runtime.Adapter.round fun _ => none) (.new 0)

def timedOutReplies : Replies where
  readyz := none
  status := none
  queue := none
  runtime := some (timedOutScrape.snapshot 1000000).toJson
  cache := none

/-- Its headroom is published as measured, with the value of an empty cache. -/
theorem timedOutScrape_fabricated :
    timedOutScrape.snap.scrapeOK = false ∧ timedOutScrape.healthy = true ∧
      timedOutReplies.reportsHeadroom = false ∧ timedOutReplies.reportsUtilization = false ∧
      (pollBackend Rat.floor ∅ 0 ⟨"a", "", "", ""⟩ timedOutReplies).1.kvHeadroomSupported = true ∧
      (pollBackend Rat.floor ∅ 0 ⟨"a", "", "", ""⟩ timedOutReplies).1.kvHeadroom = 1 ∧
      ¬ HeadroomMeasured (pollBackend Rat.floor ∅ 0 ⟨"a", "", "", ""⟩ timedOutReplies).1
        timedOutReplies := by
  have honest : timedOutScrape.Honest := Runtime.Adapter.honest_run _ _ _
  have hutil := (Replies.of_failedScrape (r := timedOutReplies) honest rfl rfl).1
  obtain ⟨hsupported, hheadroom, -⟩ := failedScrape_fullHeadroom (r := timedOutReplies) Rat.floor ∅
    0 ⟨"a", "", "", ""⟩ honest rfl rfl rfl rfl defaultCacheAwareConfig none
    ⟨false, 0, 0, "", 0, false⟩
  refine ⟨rfl, rfl, rfl, hutil, hsupported, hheadroom, fun h => ?_⟩
  rcases h.reported hsupported with hreport | hreport
  · cases hreport
  · rw [hutil] at hreport
    cases hreport

end GpuSidecar.Routing
