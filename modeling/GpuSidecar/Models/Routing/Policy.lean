import Mathlib.Algebra.Order.Field.Rat
import Mathlib.Data.List.Sort
import Mathlib.Data.String.Basic

/-!
# Snapshots and routing policies

The embedding of `internal/router/policy.go` and `internal/router/policy_cache_aware.go`.
Floating-point quantities are exact rationals. A policy decides from the request's
features and a snapshot; what it reads besides, the round-robin counter and the live
cache directory, is an argument. The text of a decision's reason is kept as data.
-/

namespace GpuSidecar.Routing

/-- The fields of `BackendState` that routing reads. -/
structure BackendState where
  id : String
  reachable : Bool
  lifecycleState : String
  stabilityScore : ℚ
  queueDepth : ℤ
  queueInflight : ℤ
  queueMax : ℤ
  runtimeHealthy : Bool
  runtimeWaiting : ℚ
  runtimeRunning : ℚ
  kvCacheUtil : ℚ
  genTokensPerSec : ℚ
  serviceRateSupported : Bool
  cacheObservationSupported : Bool
  cacheConfidence : ℚ
  kvHeadroom : ℚ
  kvHeadroomSupported : Bool
  prefixMatchedTokens : ℤ
  deriving DecidableEq, Repr

structure BackendSnapshot where
  backends : List BackendState
  deriving DecidableEq, Repr

/-- The request-side inputs of a policy that the policies read, and the stream flag. -/
structure RequestFeatures where
  stream : Bool
  inputLenEst : ℤ
  requestedOutput : ℤ
  prefixKeyHash : String
  prefixTokens : ℤ
  cacheEligible : Bool
  deriving DecidableEq, Repr

/-- Whether a backend can accept traffic now. -/
def accepts (b : BackendState) : Bool :=
  b.reachable && b.runtimeHealthy &&
    !(b.lifecycleState == "OFFLINE" || b.lifecycleState == "DRAINING") &&
    !(decide (0 < b.queueMax) && decide (b.queueMax ≤ b.queueDepth))

/-- The backends that can accept traffic, in snapshot order. -/
def eligible (snap : BackendSnapshot) : List BackendState := snap.backends.filter accepts

/-- A healthy backend without load, the smallest one that is eligible. -/
def idleBackend (id : String) : BackendState where
  id := id
  reachable := true
  lifecycleState := "READY"
  stabilityScore := 1
  queueDepth := 0
  queueInflight := 0
  queueMax := 8
  runtimeHealthy := true
  runtimeWaiting := 0
  runtimeRunning := 0
  kvCacheUtil := 0
  genTokensPerSec := 0
  serviceRateSupported := false
  cacheObservationSupported := false
  cacheConfidence := 0
  kvHeadroom := 0
  kvHeadroomSupported := false
  prefixMatchedTokens := 0

/-! ### The cache-aware cost model -/

/-- The coefficients of the cost model; times are milliseconds. -/
structure CacheAwareConfig where
  prefillMsPerToken : ℚ
  decodeMsPerToken : ℚ
  queueMsPerQueued : ℚ
  runtimeWaitingMsPerReq : ℚ
  runtimeRunningMsPerReq : ℚ
  cacheStalenessPenaltyMs : ℚ
  kvPressurePenaltyMs : ℚ
  confidenceFloor : ℚ
  defaultDecodeTokens : ℤ
  defaultServiceRateTokPerSec : ℚ
  deriving DecidableEq, Repr

def defaultCacheAwareConfig : CacheAwareConfig where
  prefillMsPerToken := 5 / 100
  decodeMsPerToken := 30 / 100
  queueMsPerQueued := 8
  runtimeWaitingMsPerReq := 6
  runtimeRunningMsPerReq := 3 / 2
  cacheStalenessPenaltyMs := 25
  kvPressurePenaltyMs := 40
  confidenceFloor := 30 / 100
  defaultDecodeTokens := 128
  defaultServiceRateTokPerSec := 0

/-- The matched tokens of a backend and a prefix key in the cache directory; none is the
nil locator. -/
abbrev Locator := Option (String → String → ℤ)

/-- The breakdown of the estimate for one backend. -/
structure CandidateCost where
  backendID : String
  uncachedPromptTokens : ℤ
  matchedPrefixTokens : ℤ
  matchRatio : ℚ
  estPrefillMs : ℚ
  estDecodeMs : ℚ
  estQueueMs : ℚ
  stalenessPenaltyMs : ℚ
  kvPenaltyMs : ℚ
  finishMs : ℚ
  cacheUsed : Bool
  cacheConfidence : ℚ
  deriving DecidableEq, Repr

def clamp01 (x : ℚ) : ℚ := if x < 0 then 0 else if 1 < x then 1 else x

/-- The count of matched tokens before it is cut: a positive entry of the directory, or
else the count in the snapshot. -/
def resolvedTokens (locator : Locator) (req : RequestFeatures) (b : BackendState) : ℤ :=
  match locator with
  | none => b.prefixMatchedTokens
  | some lookup =>
    if 0 < lookup b.id req.prefixKeyHash then lookup b.id req.prefixKeyHash
    else b.prefixMatchedTokens

/-- A count cut to a bound, if the bound is positive. -/
def cutTo (bound count : ℤ) : ℤ := if 0 < bound ∧ bound < count then bound else count

namespace CacheAwareConfig

/-- The matched prefix tokens, whether locality is usable, and the confidence. -/
def matchedTokensFor (cfg : CacheAwareConfig) (locator : Locator) (req : RequestFeatures)
    (b : BackendState) : ℤ × Bool × ℚ :=
  if !b.cacheObservationSupported then (0, false, 0)
  else if b.cacheConfidence < cfg.confidenceFloor then (0, false, b.cacheConfidence)
  else if !req.cacheEligible ∨ req.prefixKeyHash = "" then (0, true, b.cacheConfidence)
  else
    let matched := match locator with
      | none => b.prefixMatchedTokens
      | some lookup =>
        if 0 < lookup b.id req.prefixKeyHash then lookup b.id req.prefixKeyHash
        else b.prefixMatchedTokens
    let matched := if 0 < req.prefixTokens ∧ req.prefixTokens < matched then req.prefixTokens
      else matched
    let matched := if 0 < req.inputLenEst ∧ req.inputLenEst < matched then req.inputLenEst
      else matched
    (matched, true, b.cacheConfidence)

/-- Whether the estimate for a backend consults the directory. -/
def consults (cfg : CacheAwareConfig) (req : RequestFeatures) (b : BackendState) : Bool :=
  b.cacheObservationSupported && decide (cfg.confidenceFloor ≤ b.cacheConfidence) &&
    req.cacheEligible && decide (req.prefixKeyHash ≠ "")

def decodeMsPerTokenFor (cfg : CacheAwareConfig) (b : BackendState) : ℚ :=
  if b.serviceRateSupported ∧ 1 < b.genTokensPerSec then 1000 / b.genTokensPerSec
  else if 1 < cfg.defaultServiceRateTokPerSec then 1000 / cfg.defaultServiceRateTokPerSec
  else cfg.decodeMsPerToken

/-- The estimated finish time of a backend, with its terms. -/
def cost (cfg : CacheAwareConfig) (locator : Locator) (req : RequestFeatures) (b : BackendState) :
    CandidateCost :=
  let inputLen := if req.inputLenEst < 0 then 0 else req.inputLenEst
  let (matched, used, conf) := cfg.matchedTokensFor locator req b
  let uncached := if inputLen - matched < 0 then 0 else inputLen - matched
  let out := if req.requestedOutput ≤ 0 then cfg.defaultDecodeTokens else req.requestedOutput
  let estPrefillMs : ℚ := uncached * cfg.prefillMsPerToken
  let estDecodeMs : ℚ := out * cfg.decodeMsPerTokenFor b
  let estQueueMs : ℚ := (b.queueDepth + b.queueInflight : ℤ) * cfg.queueMsPerQueued +
    b.runtimeWaiting * cfg.runtimeWaitingMsPerReq + b.runtimeRunning * cfg.runtimeRunningMsPerReq
  let stalenessPenaltyMs := if b.cacheObservationSupported then
      cfg.cacheStalenessPenaltyMs * (1 - clamp01 b.cacheConfidence) else 0
  let kvPenaltyMs := if b.kvHeadroomSupported then
      cfg.kvPressurePenaltyMs * (1 - clamp01 b.kvHeadroom) else 0
  { backendID := b.id
    uncachedPromptTokens := uncached
    matchedPrefixTokens := matched
    matchRatio := if 0 < inputLen then (matched : ℚ) / inputLen else 0
    estPrefillMs := estPrefillMs
    estDecodeMs := estDecodeMs
    estQueueMs := estQueueMs
    stalenessPenaltyMs := stalenessPenaltyMs
    kvPenaltyMs := kvPenaltyMs
    finishMs := estQueueMs + estPrefillMs + estDecodeMs + stalenessPenaltyMs + kvPenaltyMs
    cacheUsed := used && decide (0 < matched)
    cacheConfidence := conf }

/-- The three results of the resolution: the count that is consulted, cut twice; whether the
locality of the backend is trusted; and the confidence. -/
theorem matchedTokensFor_eq (cfg : CacheAwareConfig) (locator : Locator) (req : RequestFeatures)
    (b : BackendState) :
    cfg.matchedTokensFor locator req b =
      (if cfg.consults req b then
          cutTo req.inputLenEst (cutTo req.prefixTokens (resolvedTokens locator req b)) else 0,
        b.cacheObservationSupported && decide (cfg.confidenceFloor ≤ b.cacheConfidence),
        if b.cacheObservationSupported then b.cacheConfidence else 0) := by
  cases hsupported : b.cacheObservationSupported with
  | false => simp [matchedTokensFor, consults, hsupported]
  | true =>
    by_cases hfloor : b.cacheConfidence < cfg.confidenceFloor
    · simp [matchedTokensFor, consults, hsupported, hfloor]
    · have hfloor' : cfg.confidenceFloor ≤ b.cacheConfidence := not_lt.mp hfloor
      cases heligible : req.cacheEligible with
      | false => simp [matchedTokensFor, consults, hsupported, hfloor, hfloor', heligible]
      | true =>
        by_cases hkey : req.prefixKeyHash = ""
        · simp [matchedTokensFor, consults, hsupported, hfloor, hfloor', heligible, hkey]
        · simp only [matchedTokensFor, consults, hsupported, hfloor, hfloor', heligible, hkey,
            Bool.not_true, Bool.false_eq_true, if_false, or_self, ne_eq, not_false_eq_true,
            decide_true, Bool.and_true, if_true]
          rfl

/-- The directory matters for a backend only through its entry for the request's prefix, and
only if it is consulted. -/
theorem cost_congr {cfg : CacheAwareConfig} {req : RequestFeatures} {b : BackendState}
    {lookup lookup' : String → String → ℤ}
    (h : cfg.consults req b = true →
      lookup b.id req.prefixKeyHash = lookup' b.id req.prefixKeyHash) :
    cfg.cost (some lookup) req b = cfg.cost (some lookup') req b := by
  have hmatched : cfg.matchedTokensFor (some lookup) req b =
      cfg.matchedTokensFor (some lookup') req b := by
    rw [matchedTokensFor_eq, matchedTokensFor_eq]
    cases hconsults : cfg.consults req b with
    | false => rfl
    | true => simp only [resolvedTokens, h hconsults]
  simp only [cost, hmatched]

end CacheAwareConfig

/-! ### Decisions -/

/-- Why a policy chose its backend. -/
inductive RouteReason where
  | rr
  | minQueueDepthInflight
  | minRuntimeWaiting
  | minPressure
  | minFinish (best : CandidateCost)
  | maxMatchedPrefix (matched : ℤ)
  deriving DecidableEq, Repr

structure RouteDecision where
  backendID : String
  policyName : String
  policyVersion : String
  reason : RouteReason
  /-- Whether the gateway replaced the choice on a retry. -/
  retryAlt : Bool
  deriving DecidableEq, Repr

/-- The loop of the score policies: the first backend of least score. -/
def leastBy (score : BackendState → ℚ) (best : BackendState) (rest : List BackendState) :
    BackendState :=
  rest.foldl (fun best b => if score b < score best then b else best) best

/-- The pressure of a backend, de-weighted by its stability. -/
def pressure (b : BackendState) : ℚ :=
  let p : ℚ := (b.queueDepth + b.queueInflight : ℤ) + b.runtimeWaiting + b.runtimeRunning +
    4 * b.kvCacheUtil
  if 0 < b.stabilityScore then p / b.stabilityScore else p

/-- The order of the cache-aware policy: finish time, and then the logical id. -/
def CandidateCost.le (a b : CandidateCost) : Bool :=
  if a.finishMs ≠ b.finishMs then decide (a.finishMs < b.finishMs)
  else decide (a.backendID ≤ b.backendID)

/-- The first of the sorted costs. -/
def bestCost (costs : List CandidateCost) : Option CandidateCost :=
  (costs.insertionSort fun a b => a.le b).head?

/-- The matched tokens that affinity routing sees. -/
def affinityMatch (locator : Locator) (req : RequestFeatures) (b : BackendState) : ℤ :=
  match locator with
  | none => b.prefixMatchedTokens
  | some lookup =>
    if req.prefixKeyHash ≠ "" ∧ b.cacheObservationSupported ∧
        b.prefixMatchedTokens < lookup b.id req.prefixKeyHash then
      lookup b.id req.prefixKeyHash
    else b.prefixMatchedTokens

/-- The loop of affinity routing: the best backend so far and its matched tokens. -/
def mostMatched (locator : Locator) (req : RequestFeatures) (first : BackendState)
    (all : List BackendState) : BackendState × ℤ :=
  all.foldl (fun (best, bestMatch) b =>
    let m := affinityMatch locator req b
    if bestMatch < m ∨ (m = bestMatch ∧ b.id < best.id) then (b, m) else (best, bestMatch))
    (first, -1)

/-! ### The policies on a non-empty list of eligible backends -/

/-- A policy that minimises a score. -/
def leastScorePolicy (name : String) (reason : RouteReason) (score : BackendState → ℚ)
    (first : BackendState) (rest : List BackendState) : RouteDecision :=
  ⟨(leastBy score first rest).id, name, "1", reason, false⟩

def leastQueuedPolicy : BackendState → List BackendState → RouteDecision :=
  leastScorePolicy "least_queued" .minQueueDepthInflight
    fun b => (b.queueDepth + b.queueInflight : ℤ)

def leastRuntimeWaitingPolicy : BackendState → List BackendState → RouteDecision :=
  leastScorePolicy "least_runtime_waiting" .minRuntimeWaiting BackendState.runtimeWaiting

def healthGatedLeastPressurePolicy : BackendState → List BackendState → RouteDecision :=
  leastScorePolicy "health_gated_least_pressure" .minPressure pressure

/-- The counter has a first value. -/
instance counter_neZero : NeZero (2 ^ 63) := ⟨by decide⟩

/-- The backend at the counter's place; the counter is below 2^63 and so not negative as an
index. -/
def roundRobinPolicy (counter : Fin (2 ^ 63)) (first : BackendState) (rest : List BackendState) :
    RouteDecision :=
  let b := (first :: rest).get ⟨counter % (rest.length + 1), Nat.mod_lt _ (Nat.succ_pos _)⟩
  ⟨b.id, "round_robin", "1", .rr, false⟩

/-- The decision for the least of the candidates' costs. -/
def cacheAwareDecision (costs : List CandidateCost) : Option RouteDecision :=
  (bestCost costs).map fun best =>
    ⟨best.backendID, "cache_aware_estimated_finish", "1", .minFinish best, false⟩

def cacheAwarePolicy (cfg : CacheAwareConfig) (locator : Locator) (req : RequestFeatures)
    (first : BackendState) (rest : List BackendState) : Option RouteDecision :=
  cacheAwareDecision ((first :: rest).map (cfg.cost locator req))

def cacheAffinityOnlyPolicy (locator : Locator) (req : RequestFeatures) (first : BackendState)
    (rest : List BackendState) : RouteDecision :=
  let (best, bestMatch) := mostMatched locator req first (first :: rest)
  ⟨best.id, "cache_affinity_only", "1", .maxMatchedPrefix bestMatch, false⟩

/-- The routing policies. -/
inductive Policy where
  | roundRobin
  | leastQueued
  | leastRuntimeWaiting
  | healthGatedLeastPressure
  | cacheAware (cfg : CacheAwareConfig)
  | cacheAffinityOnly
  deriving DecidableEq, Repr

/-- What a decision reads besides the request and the snapshot. -/
structure SelectEnv where
  counter : Fin (2 ^ 63)
  locator : Locator

/-- `SelectBackend` of each policy; none is the error `NO_ELIGIBLE_BACKEND`. -/
def Policy.selectBackend (p : Policy) (env : SelectEnv) (req : RequestFeatures)
    (snap : BackendSnapshot) : Option RouteDecision :=
  match eligible snap with
  | [] => none
  | first :: rest =>
    match p with
    | roundRobin => some (roundRobinPolicy env.counter first rest)
    | leastQueued => some (leastQueuedPolicy first rest)
    | leastRuntimeWaiting => some (leastRuntimeWaitingPolicy first rest)
    | healthGatedLeastPressure => some (healthGatedLeastPressurePolicy first rest)
    | cacheAware cfg => cacheAwarePolicy cfg env.locator req first rest
    | cacheAffinityOnly => some (cacheAffinityOnlyPolicy env.locator req first rest)

/-- The cache-aware policy decides by the costs of the eligible backends. -/
theorem Policy.selectBackend_cacheAware (cfg : CacheAwareConfig) (env : SelectEnv)
    (req : RequestFeatures) (snap : BackendSnapshot) :
    (Policy.cacheAware cfg).selectBackend env req snap =
      cacheAwareDecision ((eligible snap).map (cfg.cost env.locator req)) := by
  rw [selectBackend]
  cases eligible snap with
  | nil => rfl
  | cons first rest => rfl

/-- The policy of a configured name. -/
def policyByName (name : String) : Policy :=
  if name = "round_robin" then .roundRobin
  else if name = "least_queued" then .leastQueued
  else if name = "least_runtime_waiting" then .leastRuntimeWaiting
  else if name = "health_gated_least_pressure" then .healthGatedLeastPressure
  else if name = "cache_aware_estimated_finish" then .cacheAware defaultCacheAwareConfig
  else if name = "cache_affinity_only" then .cacheAffinityOnly
  else .leastQueued

/-! ### A policy succeeds on every snapshot with an eligible backend -/

/-- A loop that keeps the best element so far or takes the next one ends in the list. -/
theorem leastBy_mem (score : BackendState → ℚ) (best : BackendState) (rest : List BackendState) :
    leastBy score best rest ∈ best :: rest := by
  induction rest generalizing best with
  | nil => exact List.mem_singleton_self best
  | cons b rest ih =>
    rw [leastBy, List.foldl_cons]
    split
    · exact List.mem_cons_of_mem best (ih b)
    · rcases List.mem_cons.mp (ih best) with h | h
      · rw [leastBy] at h
        rw [h]
        exact List.mem_cons_self
      · exact List.mem_cons_of_mem best (List.mem_cons_of_mem b h)

/-- Affinity routing chooses one of the backends it visits, or the first one. -/
theorem mostMatched_mem (locator : Locator) (req : RequestFeatures) (first : BackendState)
    (all : List BackendState) : (mostMatched locator req first all).1 ∈ first :: all := by
  rw [mostMatched]
  generalize (-1 : ℤ) = bestMatch
  induction all generalizing first bestMatch with
  | nil => exact List.mem_singleton_self first
  | cons b all ih =>
    rw [List.foldl_cons]
    simp only
    split
    · exact List.mem_cons_of_mem first (ih b _)
    · rcases List.mem_cons.mp (ih first bestMatch) with h | h
      · rw [h]
        exact List.mem_cons_self
      · exact List.mem_cons_of_mem first (List.mem_cons_of_mem b h)

/-- The best cost of a non-empty list is one of its costs. -/
theorem bestCost_mem {costs : List CandidateCost} (h : costs ≠ []) :
    ∃ best ∈ costs, bestCost costs = some best := by
  have hperm := List.perm_insertionSort (fun a b : CandidateCost => (a.le b : Prop)) costs
  cases hs : costs.insertionSort fun a b => a.le b with
  | nil =>
    rw [hs] at hperm
    exact absurd hperm.symm.eq_nil h
  | cons best rest =>
    rw [hs] at hperm
    exact ⟨best, hperm.mem_iff.mp List.mem_cons_self, by rw [bestCost, hs]; rfl⟩

/-- Every policy decides for an eligible backend whenever there is one. -/
theorem Policy.selectBackend_mem (p : Policy) (env : SelectEnv) (req : RequestFeatures)
    {snap : BackendSnapshot} (h : eligible snap ≠ []) :
    ∃ dec, p.selectBackend env req snap = some dec ∧
      ∃ b ∈ eligible snap, b.id = dec.backendID := by
  rw [selectBackend]
  cases he : eligible snap with
  | nil => exact absurd he h
  | cons first rest =>
    cases p with
    | roundRobin => exact ⟨_, rfl, _, List.get_mem _ _, rfl⟩
    | leastQueued => exact ⟨_, rfl, _, leastBy_mem _ _ _, rfl⟩
    | leastRuntimeWaiting => exact ⟨_, rfl, _, leastBy_mem _ _ _, rfl⟩
    | healthGatedLeastPressure => exact ⟨_, rfl, _, leastBy_mem _ _ _, rfl⟩
    | cacheAware cfg =>
      have hcosts : (first :: rest).map (cfg.cost env.locator req) ≠ [] := by simp
      obtain ⟨best, hmem, hbest⟩ := bestCost_mem hcosts
      obtain ⟨b, hb, rfl⟩ := List.mem_map.mp hmem
      exact ⟨_, by simp only [cacheAwarePolicy, cacheAwareDecision, hbest]; rfl, b, hb, rfl⟩
    | cacheAffinityOnly =>
      refine ⟨_, rfl, (mostMatched env.locator req first (first :: rest)).1, ?_, rfl⟩
      have hmem := mostMatched_mem env.locator req first (first :: rest)
      rcases List.mem_cons.mp hmem with hfirst | hall
      · rw [hfirst]
        exact List.mem_cons_self
      · exact hall

end GpuSidecar.Routing
