import GpuSidecar.Models.Routing.Polling
import GpuSidecar.Models.Runtime.NonFinite

/-!
# What a number in an exposition can cost

From the exposition to the router: a successful scrape is mapped to a snapshot, the
snapshot is encoded as the body of `/v1/runtime`, and the router reads health and load
from that body. A body that could not be encoded reads as a runtime that is down. The
whole chain works for an exposition exactly if every number that reaches a metric is
finite; a single `NaN` in a gauge, or a counter whose sum overflows, takes a healthy
backend out of the routing.
-/

namespace GpuSidecar.Routing

open Json Number Text
open GpuSidecar.Runtime hiding Field

/-! ### Reading the runtime's document -/

section

variable (toInt : ℚ → ℤ) (prev : Counters) (now : ℤ) (b : Backend) {r : Replies}

theorem deriveHeadroom_runtime (st : PolledState) :
    (deriveHeadroom st).runtimeHealthy = st.runtimeHealthy ∧
      (deriveHeadroom st).runtimeWaiting = st.runtimeWaiting ∧
      (deriveHeadroom st).runtimeRunning = st.runtimeRunning ∧
      (deriveHeadroom st).kvCacheUtil = st.kvCacheUtil := by
  rw [deriveHeadroom]
  split <;> exact ⟨rfl, rfl, rfl, rfl⟩

/-- Health and load are taken from the runtime's document and from nothing else. -/
theorem pollBackend_runtime {rt : Object} (h : r.runtime = some rt) :
    (pollBackend toInt prev now b r).1.runtimeHealthy = (member rt "healthy").bool?.getD false ∧
      (pollBackend toInt prev now b r).1.runtimeWaiting =
        fieldVal (member rt "requests_waiting") ∧
      (pollBackend toInt prev now b r).1.runtimeRunning =
        fieldVal (member rt "requests_running") ∧
      (pollBackend toInt prev now b r).1.kvCacheUtil =
        fieldVal (member rt "kv_cache_utilization") := by
  simp only [pollBackend, h, Option.elim_some]
  cases hcache : r.cache with
  | none => exact deriveHeadroom_runtime _
  | some c => exact deriveHeadroom_runtime _

end

theorem fieldVal_toJson (f : Runtime.Field ℚ) : fieldVal f.toJson = f.value := rfl

/-- A polled state has the health, the load and the utilization of a snapshot. -/
structure ShowsLoad (st : PolledState) (m : RuntimeMetrics Double) : Prop where
  healthy : st.runtimeHealthy = m.healthy
  waiting : Double.finite st.runtimeWaiting = m.requestsWaiting.value
  running : Double.finite st.runtimeRunning = m.requestsRunning.value
  utilization : Double.finite st.kvCacheUtil = m.kvCacheUtil.value

/-- A snapshot of finite metrics is polled as it is. -/
theorem showsLoad_of_finite {m : RuntimeMetrics Double}
    (hfinite : ∀ p ∈ m.metrics, p.2.value.isFinite = true) (toInt : ℚ → ℤ) (prev : Counters)
    (now : ℤ) (b : Backend) {r : Replies} (hr : r.runtime = m.encode) :
    ShowsLoad (pollBackend toInt prev now b r).1 m := by
  have hmember : ∀ name f, (name, f) ∈ m.metrics →
      Double.finite (fieldVal (member (m.map Double.toRat).toJson name)) = f.value := by
    intro name f hmem
    have hmem' : (name, f.map Double.toRat) ∈ (m.map Double.toRat).metrics := by
      rw [RuntimeMetrics.metrics_map]
      exact List.mem_map.mpr ⟨(name, f), hmem, rfl⟩
    rw [RuntimeMetrics.member_metric hmem', fieldVal_toJson]
    exact Double.finite_toRat (hfinite _ hmem)
  rw [RuntimeMetrics.encode_eq_some hfinite] at hr
  obtain ⟨hhealthy, hwaiting, hrunning, hutil⟩ := pollBackend_runtime toInt prev now b hr
  refine ⟨?_, ?_, ?_, ?_⟩
  · rw [hhealthy, RuntimeMetrics.member_healthy]
    rfl
  · rw [hwaiting]
    exact hmember "requests_waiting" _ (by simp [RuntimeMetrics.metrics])
  · rw [hrunning]
    exact hmember "requests_running" _ (by simp [RuntimeMetrics.metrics])
  · rw [hutil]
    exact hmember "kv_cache_utilization" _ (by simp [RuntimeMetrics.metrics])

/-! ### From the exposition to the router -/

/-- The snapshot after a successful scrape of an exposition. -/
def scraped (parseFloat : Chars → Option Double) (a : Adapter Double) (now : ℤ)
    (latencyMs : ℚ) (status : String) (body : Chars) (t : ℤ) : RuntimeMetrics Double :=
  (a.scrape parseFloat now latencyMs (.response 200 status body)).snapshot t

/-- An exposition reaches the router, whatever the adapter held before and whoever polls. -/
structure Publishable (parseFloat : Chars → Option Double) (body : Chars) : Prop where
  supported : ∀ m, ∀ p ∈ (mapVLLMMetrics parseFloat body m).metrics,
    p.2.supported = true → p.2.value.isFinite = true
  encodes : ∀ a now latencyMs status t,
    (scraped parseFloat a now latencyMs status body t).encode.isSome = true
  polled : ∀ a now latencyMs status t toInt prev polledAt b r,
    r.runtime = (scraped parseFloat a now latencyMs status body t).encode →
      ShowsLoad (pollBackend toInt prev polledAt b r).1
        (scraped parseFloat a now latencyMs status body t)

theorem metrics_scraped (parseFloat : Chars → Option Double) (a : Adapter Double) (now : ℤ)
    (latencyMs : ℚ) (status : String) (body : Chars) (t : ℤ) :
    ∃ m, (scraped parseFloat a now latencyMs status body t).metrics =
      (mapVLLMMetrics parseFloat body m).metrics := by
  refine ⟨{ RuntimeMetrics.empty now with
    runtimeVersion := a.version, modelName := a.modelName.getD "", scrapeLatencyMs := latencyMs
    scrapeOK := true }, ?_⟩
  rw [scraped, Adapter.metrics_snapshot, Adapter.scrape, if_neg (by simp)]

theorem publishable_of_finiteReadings {parseFloat : Chars → Option Double} {body : Chars}
    (h : FiniteReadings parseFloat (parsePrometheus parseFloat body)) :
    Publishable parseFloat body := by
  have hfinite : ∀ a now latencyMs status t,
      ∀ p ∈ (scraped parseFloat a now latencyMs status body t).metrics,
        p.2.value.isFinite = true := by
    intro a now latencyMs status t
    obtain ⟨m, hm⟩ := metrics_scraped parseFloat a now latencyMs status body t
    rw [hm]
    exact (metrics_isFinite_iff parseFloat _ m).mpr h
  refine ⟨fun m => (supported_isFinite_iff parseFloat _ m).mpr h, ?_, ?_⟩
  · intro a now latencyMs status t
    exact RuntimeMetrics.encode_isSome_iff.mpr (hfinite a now latencyMs status t)
  · intro a now latencyMs status t toInt prev polledAt b r hr
    exact showsLoad_of_finite (hfinite a now latencyMs status t) toInt prev polledAt b hr

theorem finiteReadings_of_publishable {parseFloat : Chars → Option Double} {body : Chars}
    (h : Publishable parseFloat body) :
    FiniteReadings parseFloat (parsePrometheus parseFloat body) :=
  (supported_isFinite_iff parseFloat _ (.empty 0)).mp (h.supported (.empty 0))

/-- For every exposition without unknown bounds, its metrics are finite where supported, its
snapshot is encoded and its load polled, if and only if its samples allow it. For every
exposition, that is so in all orders of its buckets if and only if its samples allow it. -/
theorem publishable_iff_finiteInputs (parseFloat : Chars → Option Double) (body : Chars) :
    (KnownBounds parseFloat (parsePrometheus parseFloat body) →
      (Publishable parseFloat body ↔
        FiniteInputs parseFloat (parsePrometheus parseFloat body))) ∧
    ((∀ body', BucketsReordered (parsePrometheus parseFloat body')
        (parsePrometheus parseFloat body) → Publishable parseFloat body') ↔
      FiniteInputs parseFloat (parsePrometheus parseFloat body)) := by
  constructor
  · intro hknown
    rw [← finiteReadings_iff_of_known hknown]
    exact ⟨finiteReadings_of_publishable, publishable_of_finiteReadings⟩
  · rw [← finiteReadings_reordered_iff]
    constructor
    · intro h samples' hreordered
      obtain ⟨body', rfl⟩ := exists_text_of_perm hreordered.1
      exact finiteReadings_of_publishable (h body' hreordered)
    · intro h body' hreordered
      exact publishable_of_finiteReadings (h _ hreordered)

/-- Reads not-a-number as the standard library does. -/
def readNaN (text : Chars) : Option Double := if text = "NaN".toList then some .nan else none

/-- The load of an engine that cannot say it. -/
def nanExposition : Chars := "vllm:num_requests_running NaN".toList

/-- One gauge without a value: the snapshot of a healthy runtime supports it, no body is
written, and the router reads the runtime as down. -/
theorem nanExposition_not_publishable :
    let a : Adapter Double := { Adapter.new 0 with healthy := true }
    let m := scraped readNaN a 0 1 "200 OK" nanExposition 1
    m.healthy = true ∧ m.requestsRunning.supported = true ∧ m.requestsRunning.value = .nan ∧
      m.encode.isSome = false ∧
      (pollBackend Rat.floor ∅ 0 ⟨"a", "", "", ""⟩
        ⟨none, none, none, m.encode, none⟩).1.runtimeHealthy = false ∧
      ¬ Publishable readNaN nanExposition := by
  refine ⟨rfl, by decide +kernel, by decide +kernel, by decide +kernel, by decide +kernel, ?_⟩
  intro h
  have hfinite := h.supported (.empty 0)
    ("requests_running", (mapVLLMMetrics readNaN nanExposition (.empty 0)).requestsRunning)
    (by simp [RuntimeMetrics.metrics]) (by decide +kernel)
  revert hfinite
  decide +kernel

end GpuSidecar.Routing
