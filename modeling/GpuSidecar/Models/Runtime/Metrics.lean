import GpuSidecar.Core.Json.Value
import GpuSidecar.Models.Runtime.Prometheus
import Mathlib.Algebra.Order.Field.Rat
import Mathlib.Data.List.AList
import Mathlib.Data.String.Basic

/-!
# The runtime adapter and its snapshot

The embedding of `internal/runtime/model.go`, `internal/runtime/vllm/metrics.go` and the
scrape and health loops of `internal/runtime/vllm/adapter.go`, with the document that
`/v1/runtime` answers. The two loops run beside each other, and each round of one of
them is one step of the adapter. Whatever the rounds, a snapshot whose last scrape
failed supports no metric.

The metrics are exact rationals unless another type of numbers is named; the constants of
the source are rationals of that type.
-/

namespace GpuSidecar.Runtime

open Text

/-- A value that may be unsupported on a runtime. -/
structure Field (α : Type*) where
  value : α
  supported : Bool

def sup {α : Type*} (v : α) : Field α := ⟨v, true⟩

def unsup {α : Type*} [Inhabited α] : Field α := ⟨default, false⟩

/-- A metric that was looked up. -/
def Field.ofOption {α : Type} [Inhabited α] (v : Option α) : Field α := v.elim unsup sup

/-- The raw metric names that fields were read from. -/
abbrev MetricSources := AList fun _ : String => String

/-- The normalized runtime snapshot. -/
structure RuntimeMetrics (α : Type := ℚ) where
  timestamp : ℤ
  healthy : Bool
  scrapeOK : Bool
  scrapeAgeMs : ℚ
  scrapeLatencyMs : ℚ
  requestsRunning : Field α
  requestsWaiting : Field α
  kvCacheUtil : Field α
  activeSequences : Field α
  promptThroughput : Field α
  genThroughput : Field α
  requestLatencyP50 : Field α
  queueLatencyP50 : Field α
  ttftP50 : Field α
  tpotP50 : Field α
  preemptionsTotal : Field α
  prefixCacheHits : Field α
  prefixCacheQueries : Field α
  requestsSuccess : Field α
  requestsFailed : Field α
  modelName : String
  runtimeVersion : String
  rawMetricSources : MetricSources
  unsupportedFields : List String

variable {α : Type}

namespace RuntimeMetrics

/-- A snapshot of nothing. -/
def empty [Inhabited α] (timestamp : ℤ) : RuntimeMetrics α where
  timestamp := timestamp
  healthy := false
  scrapeOK := false
  scrapeAgeMs := 0
  scrapeLatencyMs := 0
  requestsRunning := unsup
  requestsWaiting := unsup
  kvCacheUtil := unsup
  activeSequences := unsup
  promptThroughput := unsup
  genThroughput := unsup
  requestLatencyP50 := unsup
  queueLatencyP50 := unsup
  ttftP50 := unsup
  tpotP50 := unsup
  preemptionsTotal := unsup
  prefixCacheHits := unsup
  prefixCacheQueries := unsup
  requestsSuccess := unsup
  requestsFailed := unsup
  modelName := ""
  runtimeVersion := ""
  rawMetricSources := ∅
  unsupportedFields := []

/-- The metrics, under the names they are published with. -/
def metrics (m : RuntimeMetrics α) : List (String × Field α) :=
  [("requests_running", m.requestsRunning), ("requests_waiting", m.requestsWaiting),
    ("kv_cache_utilization", m.kvCacheUtil), ("active_sequences", m.activeSequences),
    ("prompt_tokens_per_s", m.promptThroughput), ("generation_tokens_per_s", m.genThroughput),
    ("request_latency_p50_s", m.requestLatencyP50), ("queue_latency_p50_s", m.queueLatencyP50),
    ("ttft_p50_s", m.ttftP50), ("tpot_p50_s", m.tpotP50),
    ("preemptions_total", m.preemptionsTotal), ("prefix_cache_hits_total", m.prefixCacheHits),
    ("prefix_cache_queries_total", m.prefixCacheQueries),
    ("requests_success_total", m.requestsSuccess), ("requests_failed_total", m.requestsFailed)]

end RuntimeMetrics

/-! ### Reading samples -/

/-- The first sample of a name. -/
def firstByName (samples : List (PromSample α)) (name : String) : Option α :=
  (samples.find? fun s => s.name = name.toList).map PromSample.value

/-- The sum of the samples of a name. -/
def sumByName [Zero α] [Add α] (samples : List (PromSample α)) (name : String) : Option α :=
  let found := samples.filter fun s => s.name = name.toList
  if found.isEmpty then none else some (found.foldl (fun sum s => sum + s.value) 0)

/-- One bucket of a cumulative histogram. -/
structure Bucket (α : Type := ℚ) where
  le : α
  count : α

/-- What stands for the bound of the last bucket. -/
def infBound [RatCast α] : α := ((10 ^ 18 : ℚ) : α)

def readBucket [RatCast α] (parseFloat : Chars → Option α) (name : String) (s : PromSample α) :
    Option (Bucket α) :=
  if s.name ≠ (name ++ "_bucket").toList then none
  else match s.labels "le".toList with
    | none => none
    | some le =>
      if le = "+Inf".toList then some ⟨infBound, s.value⟩
      else (parseFloat le).map fun f => ⟨f, s.value⟩

/-- One round of the exchange sort: the least bound found moves to the front, and each bucket
that it displaces takes the place of the one found. -/
def sweep [LT α] [DecidableLT α] (b : Bucket α) : List (Bucket α) → Bucket α × List (Bucket α)
  | [] => (b, [])
  | c :: cs =>
    if c.le < b.le then
      let (least, rest) := sweep c cs
      (least, b :: rest)
    else
      let (least, rest) := sweep b cs
      (least, c :: rest)

theorem length_sweep [LT α] [DecidableLT α] (b : Bucket α) (cs : List (Bucket α)) :
    (sweep b cs).2.length = cs.length := by
  induction cs generalizing b with
  | nil => rfl
  | cons c cs ih =>
    rw [sweep]
    split
    · exact congrArg (· + 1) (ih c)
    · exact congrArg (· + 1) (ih b)

def sortByBound [LT α] [DecidableLT α] : List (Bucket α) → List (Bucket α)
  | [] => []
  | b :: bs => (sweep b bs).1 :: sortByBound (sweep b bs).2
termination_by bs => bs.length
decreasing_by
  rw [length_sweep]
  exact Nat.lt_succ_self _

variable [Zero α] [Add α] [Mul α] [LT α] [LE α] [DecidableEq α] [DecidableLT α] [DecidableLE α]
  [RatCast α]

/-- The bound of the bucket that holds the quantile; the last bound stands in for infinity. -/
def histogramQuantile (parseFloat : Chars → Option α) (samples : List (PromSample α))
    (name : String) (q : α) : Option α :=
  let buckets := samples.filterMap (readBucket parseFloat name)
  let total := buckets.foldl (fun total b => if total < b.count then b.count else total) 0
  if buckets.isEmpty ∨ total = 0 then none
  else
    let sorted := sortByBound buckets
    let lastBound := (sorted.getLast?.map Bucket.le).getD 0
    match sorted.find? fun b => q * total ≤ b.count with
    | none => some lastBound
    | some b => if infBound ≤ b.le then some lastBound else some b.le

/-! ### Mapping the exposition -/

/-- The first of the names that has a value. -/
def setFirst [Inhabited α] (read : String → Option α) (names : List String) : Field α :=
  Field.ofOption (names.findSome? read)

/-- The names of the fields whose absence is reported. -/
def reportedFields : List String :=
  ["requests_running", "requests_waiting", "kv_cache_utilization", "prompt_tokens_per_s",
    "generation_tokens_per_s", "ttft_p50_s", "tpot_p50_s", "request_latency_p50_s",
    "queue_latency_p50_s", "preemptions_total", "prefix_cache_hits_total",
    "requests_success_total", "requests_failed_total"]

/-- A source is noted for a field that is supported. -/
def noteSource (field : Field α) (name source : String) (src : MetricSources) : MetricSources :=
  if field.supported then src.insert name source else src

/-- The source of a quantile is noted under the name of its metric. -/
def noteHistogram (read : String → Option α) (names : List String) (src : MetricSources) :
    MetricSources :=
  match names.find? fun n => (read n).isSome with
  | some n => src.insert n (n ++ "_bucket")
  | none => src

/-- What the parsed samples say about the runtime. -/
def mapSamples [Inhabited α] (parseFloat : Chars → Option α) (samples : List (PromSample α))
    (m : RuntimeMetrics α) : RuntimeMetrics α :=
  let gauge := setFirst (firstByName samples)
  let sum := setFirst (sumByName samples)
  let quantile := fun n => histogramQuantile parseFloat samples n ((1 / 2 : ℚ) : α)
  let ttft := ["vllm:time_to_first_token_seconds"]
  let tpot := ["vllm:inter_token_latency_seconds", "vllm:request_time_per_output_token_seconds",
    "vllm:time_per_output_token_seconds"]
  let latency := ["vllm:e2e_request_latency_seconds"]
  let queue := ["vllm:request_queue_time_seconds"]
  let running := gauge ["vllm:num_requests_running"]
  let waiting := gauge ["vllm:num_requests_waiting"]
  let util := gauge ["vllm:kv_cache_usage_perc", "vllm:gpu_cache_usage_perc"]
  let prompt := sum ["vllm:prompt_tokens_total"]
  let gen := sum ["vllm:generation_tokens_total"]
  let preemptions := sum ["vllm:num_preemptions_total"]
  let src := noteSource running "requests_running" "vllm:num_requests_running" m.rawMetricSources
  let src := noteSource waiting "requests_waiting" "vllm:num_requests_waiting" src
  let src := noteSource util "kv_cache_utilization" "vllm:kv_cache_usage_perc" src
  let src := noteSource running "active_sequences" "derived:vllm:num_requests_running" src
  let src := noteSource prompt "prompt_tokens_per_s" "vllm:prompt_tokens_total(counter)" src
  let src := noteSource gen "generation_tokens_per_s" "vllm:generation_tokens_total(counter)" src
  let src := noteHistogram quantile ttft src
  let src := noteHistogram quantile tpot src
  let src := noteHistogram quantile latency src
  let src := noteHistogram quantile queue src
  let src := noteSource preemptions "preemptions_total" "vllm:num_preemptions_total" src
  let mapped : RuntimeMetrics α := {
    timestamp := m.timestamp, healthy := m.healthy, scrapeOK := m.scrapeOK, scrapeAgeMs := 0
    scrapeLatencyMs := m.scrapeLatencyMs
    requestsRunning := running
    requestsWaiting := waiting
    kvCacheUtil := util
    activeSequences := if running.supported then running else unsup
    promptThroughput := prompt
    genThroughput := gen
    requestLatencyP50 := setFirst quantile latency
    queueLatencyP50 := setFirst quantile queue
    ttftP50 := setFirst quantile ttft
    tpotP50 := setFirst quantile tpot
    preemptionsTotal := preemptions
    prefixCacheHits := sum ["vllm:prefix_cache_hits_total"]
    prefixCacheQueries := sum ["vllm:prefix_cache_queries_total"]
    requestsSuccess := sum ["vllm:request_success_total"]
    requestsFailed := sum ["vllm:request_failure_total"]
    modelName := m.modelName, runtimeVersion := m.runtimeVersion
    rawMetricSources := src, unsupportedFields := [] }
  { mapped with
    unsupportedFields := reportedFields.filter fun name =>
      mapped.metrics.any fun p => p.1 = name && !p.2.supported }

def mapVLLMMetrics [Inhabited α] (parseFloat : Chars → Option α) (body : Chars)
    (m : RuntimeMetrics α) : RuntimeMetrics α :=
  mapSamples parseFloat (parsePrometheus parseFloat body) m

/-! ### The adapter -/

/-- How a request for `/metrics` ended; of the body, what was read within its limit. -/
inductive ScrapeReply where
  | error (text : String)
  | response (statusCode : ℕ) (status : String) (body : Chars)

/-- What the adapter holds. -/
structure Adapter (α : Type := ℚ) where
  snap : RuntimeMetrics α
  healthy : Bool
  modelName : Option String
  version : String

/-- One round of a loop, with its clock readings. -/
inductive AdapterRound where
  | scrape (now : ℤ) (latencyMs : ℚ) (reply : ScrapeReply)
  /-- The status of `/health`, if there was a response. -/
  | checkHealth (statusCode : Option ℕ)

namespace Adapter

variable [Inhabited α]

def new (now : ℤ) : Adapter α := ⟨.empty now, false, none, ""⟩

def scrape (parseFloat : Chars → Option α) (a : Adapter α) (now : ℤ) (latencyMs : ℚ) :
    ScrapeReply → Adapter α
  | .error text => { a with snap := { RuntimeMetrics.empty now with
      runtimeVersion := a.version, modelName := a.modelName.getD "", scrapeLatencyMs := latencyMs
      unsupportedFields := ["scrape:error:" ++ text] } }
  | .response statusCode status body =>
    let m := { RuntimeMetrics.empty now with
      runtimeVersion := a.version, modelName := a.modelName.getD "", scrapeLatencyMs := latencyMs }
    if statusCode ≠ 200 then
      { a with snap := { m with unsupportedFields := ["scrape:status:" ++ status] } }
    else
      { a with snap := mapVLLMMetrics parseFloat body { m with scrapeOK := true } }

def checkHealth (a : Adapter α) (statusCode : Option ℕ) : Adapter α :=
  { a with healthy := statusCode == some 200 }

def round (parseFloat : Chars → Option α) (a : Adapter α) : AdapterRound → Adapter α
  | .scrape now latencyMs reply => a.scrape parseFloat now latencyMs reply
  | .checkHealth statusCode => a.checkHealth statusCode

/-- The last scrape, with its age and the last health check. -/
def snapshot (a : Adapter α) (now : ℤ) : RuntimeMetrics α :=
  { a.snap with
    scrapeAgeMs := ((now - a.snap.timestamp).tdiv 1000 : ℤ) / 1000
    healthy := a.healthy }

end Adapter

/-! ### Failed scrapes -/

/-- No metric is supported, and each carries the zero value. -/
def RuntimeMetrics.Unmeasured (m : RuntimeMetrics) : Prop := ∀ p ∈ m.metrics, p.2 = unsup

theorem RuntimeMetrics.unmeasured_empty (timestamp : ℤ) : (empty timestamp).Unmeasured := by
  simp [Unmeasured, metrics, empty]

namespace Adapter

/-- A snapshot whose scrape failed supports nothing. -/
def Honest (a : Adapter) : Prop := a.snap.scrapeOK = false → a.snap.Unmeasured

theorem Honest.round {a : Adapter} (h : a.Honest) (parseFloat : Chars → Option ℚ)
    (r : AdapterRound) : (a.round parseFloat r).Honest := by
  cases r with
  | checkHealth statusCode => exact h
  | scrape now latencyMs reply =>
    cases reply with
    | error text => exact fun _ => RuntimeMetrics.unmeasured_empty now
    | response statusCode status body =>
      intro hok
      by_cases hstatus : statusCode ≠ 200
      · simp only [Adapter.round, scrape, if_pos hstatus]
        exact RuntimeMetrics.unmeasured_empty now
      · simp only [Adapter.round, scrape, if_neg hstatus] at hok
        cases hok

/-- Whatever the rounds of the two loops, a failed scrape leaves nothing measured. -/
theorem honest_run (parseFloat : Chars → Option ℚ) (now : ℤ) (rounds : List AdapterRound) :
    (rounds.foldl (Adapter.round parseFloat) (new now)).Honest := by
  have hkept : ∀ a : Adapter, a.Honest → (rounds.foldl (Adapter.round parseFloat) a).Honest := by
    induction rounds with
    | nil => exact fun _ h => h
    | cons r rounds ih => exact fun a h => ih _ (h.round parseFloat r)
  exact hkept (new now) fun _ => RuntimeMetrics.unmeasured_empty now

end Adapter

/-! ### The document of a snapshot -/

def Field.toJson (f : Field ℚ) : Json :=
  .obj [("value", .num f.value), ("supported", .bool f.supported)]

/-- The body of `/v1/runtime`, without its timestamp: no reader of the document takes it. -/
def RuntimeMetrics.toJson (m : RuntimeMetrics) : Json.Object :=
  [("healthy", .bool m.healthy), ("scrape_ok", .bool m.scrapeOK),
    ("scrape_age_ms", .num m.scrapeAgeMs), ("scrape_latency_ms", .num m.scrapeLatencyMs)] ++
  m.metrics.map (fun p => (p.1, p.2.toJson)) ++
  [("model_name", .str m.modelName), ("runtime_version", .str m.runtimeVersion),
    ("raw_metric_sources", .obj (m.rawMetricSources.entries.map fun e => (e.1, .str e.2))),
    ("unsupported_fields", .arr (m.unsupportedFields.map .str))]

namespace RuntimeMetrics

/-- The document has every member once. -/
theorem nodup_toJson (m : RuntimeMetrics) : (m.toJson.map Prod.fst).Nodup := by
  have hnames : m.toJson.map Prod.fst = (empty 0).toJson.map Prod.fst := rfl
  rw [hnames]
  decide

theorem member_metric {m : RuntimeMetrics} {name : String} {f : Field ℚ}
    (h : (name, f) ∈ m.metrics) : Json.member m.toJson name = f.toJson := by
  apply Json.member_of_mem m.nodup_toJson
  exact List.mem_append_left _ (List.mem_append_right _ (List.mem_map_of_mem h))

theorem member_healthy (m : RuntimeMetrics) :
    Json.member m.toJson "healthy" = .bool m.healthy := by
  apply Json.member_of_mem m.nodup_toJson
  exact List.mem_cons_self

end RuntimeMetrics

end GpuSidecar.Runtime
