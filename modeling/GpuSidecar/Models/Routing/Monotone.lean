import GpuSidecar.Core.List.Winner
import GpuSidecar.Models.Routing.Prompt
import Mathlib.Tactic.Linarith

/-!
# Monotonicity of the cache-aware choice

How the choice of the cache-aware policy follows a change of the snapshot and of the
directory. A selected backend stays selected when it is relieved of load and gains
locality while the others lose, where the locality of a backend is the count that the
estimate consults. It stays selected at a higher service rate except where the
estimate switches from the configured fallback to a slower measured rate.
-/

namespace GpuSidecar.Routing

open Choice

/-- The policy's choice is the winner among the eligible backends. -/
theorem cacheAware_selects_iff (cfg : CacheAwareConfig) (env : SelectEnv) (req : RequestFeatures)
    (snap : BackendSnapshot) (id : String) :
    ((Policy.cacheAware cfg).selectBackend env req snap).map RouteDecision.backendID = some id ↔
      Wins (fun b => (cfg.cost env.locator req b).finishMs) BackendState.id (eligible snap) id := by
  rw [Policy.selectBackend_cacheAware, cacheAwareDecision, Option.map_map]
  constructor
  · intro hselected
    obtain ⟨best, hbest, rfl⟩ := Option.map_eq_some_iff.mp hselected
    have hne : (eligible snap).map (cfg.cost env.locator req) ≠ [] := by
      intro hempty
      rw [hempty] at hbest
      cases hbest
    obtain ⟨best', hmem, hbest'⟩ := bestCost_mem hne
    rw [hbest, Option.some.injEq] at hbest'
    obtain ⟨b, hb, rfl⟩ := List.mem_map.mp hmem
    rw [hbest'] at hbest ⊢
    refine ⟨b, hb, rfl, ?_⟩
    intro c hc hother
    have hle := bestCost_le hbest _ (List.mem_map_of_mem hc)
    rcases (CandidateCost.le_iff _ _).mp hle with hlt | ⟨heq, hid⟩
    · exact Or.inl hlt
    · exact Or.inr ⟨heq, lt_of_le_of_ne hid (Ne.symm hother)⟩
  · rintro ⟨b, hb, rfl, hbeats⟩
    have hne : (eligible snap).map (cfg.cost env.locator req) ≠ [] :=
      List.ne_nil_of_mem (List.mem_map_of_mem hb)
    obtain ⟨best, hmem, hbest⟩ := bestCost_mem hne
    obtain ⟨c, hc, rfl⟩ := List.mem_map.mp hmem
    rw [hbest, Option.map_some, Option.some.injEq]
    change c.id = b.id
    by_contra hother
    have hle := bestCost_le hbest _ (List.mem_map_of_mem hb)
    rcases (CandidateCost.le_iff _ _).mp hle with hlt | ⟨heq, hid⟩ <;>
      rcases hbeats c hc hother with hlt' | ⟨heq', hid'⟩
    · exact lt_asymm hlt hlt'
    · exact hlt.ne heq'.symm
    · exact hlt'.ne heq.symm
    · exact not_le.mpr hid' hid

/-- A backend before and after a change that does not set it back. -/
structure NoLater (cfg : CacheAwareConfig) (req : RequestFeatures) (locator locator' : Locator)
    (b b' : BackendState) : Prop where
  id : b'.id = b.id
  accepts : accepts b = true → accepts b' = true
  finish : (cfg.cost locator' req b').finishMs ≤ (cfg.cost locator req b).finishMs

/-- A change of snapshot and directory in favour of one id: its own backends are not set back,
and no other backend gains. -/
def Favours (id : String) (gains : Locator → Locator → BackendState → BackendState → Prop)
    (locator locator' : Locator) (snap snap' : BackendSnapshot) : Prop :=
  List.Forall₂ (fun c c' => if c.id = id then gains locator locator' c c'
    else gains locator' locator c' c) snap.backends snap'.backends

/-- A selected backend stays selected under a change in its favour. -/
theorem selected_of_favours {cfg : CacheAwareConfig} {env env' : SelectEnv}
    {req : RequestFeatures} {snap snap' : BackendSnapshot} {id : String}
    (hchange : Favours id (NoLater cfg req) env.locator env'.locator snap snap')
    (hselected : ((Policy.cacheAware cfg).selectBackend env req snap).map
      RouteDecision.backendID = some id) :
    ((Policy.cacheAware cfg).selectBackend env' req snap').map
      RouteDecision.backendID = some id := by
  rw [cacheAware_selects_iff] at hselected ⊢
  refine hselected.mono ?_ ?_
  · intro b hb hid
    obtain ⟨hmem, haccepts⟩ := List.mem_filter.mp hb
    obtain ⟨b', hmem', hgains⟩ := exists_related_left hchange hmem
    rw [if_pos hid] at hgains
    exact ⟨b', List.mem_filter.mpr ⟨hmem', hgains.accepts haccepts⟩, hgains.id.trans hid,
      hgains.finish⟩
  · intro c' hc' hother
    obtain ⟨hmem', haccepts'⟩ := List.mem_filter.mp hc'
    obtain ⟨c, hmem, hgains⟩ := exists_related_right hchange hmem'
    have hne : c.id ≠ id := by
      intro hid
      rw [if_pos hid] at hgains
      exact hother (hgains.id.trans hid)
    rw [if_neg hne] at hgains
    exact ⟨c, List.mem_filter.mpr ⟨hmem, hgains.accepts haccepts'⟩, hgains.id, hgains.finish⟩

/-! ### The terms of the estimate -/

theorem clamp01_mono {x y : ℚ} (h : x ≤ y) : clamp01 x ≤ clamp01 y := by
  unfold clamp01
  split_ifs <;> linarith

theorem cutTo_mono (bound : ℤ) {count count' : ℤ} (h : count ≤ count') :
    cutTo bound count ≤ cutTo bound count' := by
  rw [cutTo, cutTo]
  split <;> split <;> omega

/-- The output length that the estimate assumes. -/
def CacheAwareConfig.outputTokens (cfg : CacheAwareConfig) (req : RequestFeatures) : ℤ :=
  if req.requestedOutput ≤ 0 then cfg.defaultDecodeTokens else req.requestedOutput

theorem CacheAwareConfig.cost_finishMs (cfg : CacheAwareConfig) (locator : Locator)
    (req : RequestFeatures) (b : BackendState) :
    (cfg.cost locator req b).finishMs =
      ((b.queueDepth + b.queueInflight : ℤ) * cfg.queueMsPerQueued +
        b.runtimeWaiting * cfg.runtimeWaitingMsPerReq +
        b.runtimeRunning * cfg.runtimeRunningMsPerReq) +
      (cfg.cost locator req b).uncachedPromptTokens * cfg.prefillMsPerToken +
      cfg.outputTokens req * cfg.decodeMsPerTokenFor b +
      (if b.cacheObservationSupported then
        cfg.cacheStalenessPenaltyMs * (1 - clamp01 b.cacheConfidence) else 0) +
      (if b.kvHeadroomSupported then
        cfg.kvPressurePenaltyMs * (1 - clamp01 b.kvHeadroom) else 0) := rfl

/-! ### Load and locality -/

/-- The coefficients that multiply load, locality and headroom are not negative. -/
structure CacheAwareConfig.Nonneg (cfg : CacheAwareConfig) : Prop where
  prefill : 0 ≤ cfg.prefillMsPerToken
  queued : 0 ≤ cfg.queueMsPerQueued
  waiting : 0 ≤ cfg.runtimeWaitingMsPerReq
  running : 0 ≤ cfg.runtimeRunningMsPerReq
  staleness : 0 ≤ cfg.cacheStalenessPenaltyMs
  kvPressure : 0 ≤ cfg.kvPressurePenaltyMs

/-- A backend with less load, more headroom and more locality, all else equal. The count that
a newly trusted backend brings in must not be negative. -/
structure Relieved (cfg : CacheAwareConfig) (req : RequestFeatures) (locator locator' : Locator)
    (b b' : BackendState) : Prop where
  queueDepth : b'.queueDepth ≤ b.queueDepth
  queueInflight : b'.queueInflight ≤ b.queueInflight
  runtimeWaiting : b'.runtimeWaiting ≤ b.runtimeWaiting
  runtimeRunning : b'.runtimeRunning ≤ b.runtimeRunning
  kvHeadroom : b.kvHeadroom ≤ b'.kvHeadroom
  cacheConfidence : b.cacheConfidence ≤ b'.cacheConfidence
  matched : resolvedTokens locator req b ≤ resolvedTokens locator' req b'
  trusted : cfg.consults req b = false → cfg.consults req b' = true →
    0 ≤ resolvedTokens locator' req b'
  frame : b' = { b with
    queueDepth := b'.queueDepth
    queueInflight := b'.queueInflight
    runtimeWaiting := b'.runtimeWaiting
    runtimeRunning := b'.runtimeRunning
    kvHeadroom := b'.kvHeadroom
    cacheConfidence := b'.cacheConfidence
    prefixMatchedTokens := b'.prefixMatchedTokens }

namespace Relieved

variable {cfg : CacheAwareConfig} {req : RequestFeatures} {locator locator' : Locator}
  {b b' : BackendState}

theorem id_eq (h : Relieved cfg req locator locator' b b') : b'.id = b.id := by rw [h.frame]

theorem accepts_of_accepts (h : Relieved cfg req locator locator' b b')
    (haccepts : accepts b = true) : accepts b' = true := by
  have hdepth := h.queueDepth
  rw [h.frame]
  simp only [accepts, Bool.and_eq_true, Bool.not_eq_true', Bool.and_eq_false_iff,
    decide_eq_false_iff_not] at haccepts ⊢
  refine ⟨haccepts.1, haccepts.2.imp_right ?_⟩
  intro hroom
  omega

theorem consults_of_consults (h : Relieved cfg req locator locator' b b')
    (hconsults : cfg.consults req b = true) : cfg.consults req b' = true := by
  have hconfidence := h.cacheConfidence
  rw [h.frame]
  simp only [CacheAwareConfig.consults, Bool.and_eq_true, decide_eq_true_eq] at hconsults ⊢
  obtain ⟨⟨⟨hsupported, hfloor⟩, heligible⟩, hkey⟩ := hconsults
  exact ⟨⟨⟨hsupported, hfloor.trans hconfidence⟩, heligible⟩, hkey⟩

/-- More locality is more matched tokens. -/
theorem matchedPrefixTokens_le (h : Relieved cfg req locator locator' b b') :
    (cfg.cost locator req b).matchedPrefixTokens ≤
      (cfg.cost locator' req b').matchedPrefixTokens := by
  rw [CacheAwareConfig.cost_matchedPrefixTokens, CacheAwareConfig.cost_matchedPrefixTokens]
  cases hconsults : cfg.consults req b with
  | true =>
    rw [if_pos rfl, if_pos (h.consults_of_consults hconsults)]
    exact cutTo_mono _ (cutTo_mono _ h.matched)
  | false =>
    rw [if_neg Bool.false_ne_true]
    split
    · next hconsults' =>
      rw [cutTo_nonneg_iff, cutTo_nonneg_iff]
      exact h.trusted hconsults hconsults'
    · exact le_rfl

theorem uncachedPromptTokens_le (h : Relieved cfg req locator locator' b b') :
    (cfg.cost locator' req b').uncachedPromptTokens ≤
      (cfg.cost locator req b).uncachedPromptTokens := by
  have hmatched := h.matchedPrefixTokens_le
  rw [CacheAwareConfig.cost_uncachedPromptTokens, CacheAwareConfig.cost_uncachedPromptTokens]
  omega

theorem finishMs_le (hcfg : cfg.Nonneg) (h : Relieved cfg req locator locator' b b') :
    (cfg.cost locator' req b').finishMs ≤ (cfg.cost locator req b).finishMs := by
  have hqueued : ((b'.queueDepth + b'.queueInflight : ℤ) : ℚ) ≤
      (b.queueDepth + b.queueInflight : ℤ) :=
    Int.cast_le.mpr (add_le_add h.queueDepth h.queueInflight)
  have huncached : ((cfg.cost locator' req b').uncachedPromptTokens : ℚ) ≤
      (cfg.cost locator req b).uncachedPromptTokens :=
    Int.cast_le.mpr h.uncachedPromptTokens_le
  have hdecode : cfg.decodeMsPerTokenFor b' = cfg.decodeMsPerTokenFor b := by rw [h.frame]; rfl
  have hobservation : b'.cacheObservationSupported = b.cacheObservationSupported := by
    rw [h.frame]
  have hheadroom : b'.kvHeadroomSupported = b.kvHeadroomSupported := by rw [h.frame]
  rw [CacheAwareConfig.cost_finishMs, CacheAwareConfig.cost_finishMs, hdecode, hobservation,
    hheadroom]
  gcongr ?_ + ?_ + _ + ?_ + ?_
  · have := mul_le_mul_of_nonneg_right hqueued hcfg.queued
    have := mul_le_mul_of_nonneg_right h.runtimeWaiting hcfg.waiting
    have := mul_le_mul_of_nonneg_right h.runtimeRunning hcfg.running
    linarith
  · exact mul_le_mul_of_nonneg_right huncached hcfg.prefill
  · split
    · exact mul_le_mul_of_nonneg_left (by linarith [clamp01_mono h.cacheConfidence])
        hcfg.staleness
    · exact le_rfl
  · split
    · exact mul_le_mul_of_nonneg_left (by linarith [clamp01_mono h.kvHeadroom]) hcfg.kvPressure
    · exact le_rfl

/-- A relieved backend finishes no later and stays eligible. -/
theorem noLater (hcfg : cfg.Nonneg) (h : Relieved cfg req locator locator' b b') :
    NoLater cfg req locator locator' b b' :=
  ⟨h.id_eq, h.accepts_of_accepts, h.finishMs_le hcfg⟩

end Relieved

/-- A selected backend stays selected when it is relieved and all others are burdened, in any
number of fields and backends at once. -/
theorem selected_relieved (cfg : CacheAwareConfig) (env env' : SelectEnv) (req : RequestFeatures)
    (snap snap' : BackendSnapshot) (id : String) (hcfg : cfg.Nonneg)
    (hchange : Favours id (Relieved cfg req) env.locator env'.locator snap snap')
    (hselected : ((Policy.cacheAware cfg).selectBackend env req snap).map
      RouteDecision.backendID = some id) :
    ((Policy.cacheAware cfg).selectBackend env' req snap').map
      RouteDecision.backendID = some id := by
  apply selected_of_favours (List.Forall₂.imp ?_ hchange) hselected
  intro c c' hgains
  split
  · next hid =>
    rw [if_pos hid] at hgains
    exact hgains.noLater hcfg
  · next hid =>
    rw [if_neg hid] at hgains
    exact hgains.noLater hcfg

theorem defaultCacheAwareConfig_nonneg : defaultCacheAwareConfig.Nonneg := by
  refine ⟨?_, ?_, ?_, ?_, ?_, ?_⟩ <;> decide +kernel

/-- A backend with cache observation, beside one without. -/
def observedPair (depth : ℤ) (confidence : ℚ) (matched : ℤ) (otherDepth : ℤ) : BackendSnapshot :=
  ⟨[{ idleBackend "a" with
      queueDepth := depth
      cacheObservationSupported := true
      cacheConfidence := confidence
      prefixMatchedTokens := matched },
    { idleBackend "b" with queueDepth := otherDepth }]⟩

/-- A request for a prefix of a thousand tokens. -/
def prefixedRequest : RequestFeatures := ⟨false, 1000, 0, "k", 0, true⟩

/-- One less queued request here and one more there keep the choice. -/
theorem observedPair_selected_relieved :
    ((Policy.cacheAware defaultCacheAwareConfig).selectBackend ⟨0, none⟩ prefixedRequest
      (observedPair 1 1 500 2)).map RouteDecision.backendID = some "a" := by
  refine selected_relieved _ ⟨0, none⟩ ⟨0, none⟩ _ (observedPair 2 1 500 1) _ "a"
    defaultCacheAwareConfig_nonneg (.cons ?_ (.cons ?_ .nil)) (by decide +kernel)
  · refine Eq.mpr (if_pos rfl) ?_
    constructor <;> first | rfl | decide +kernel
  · refine Eq.mpr (if_neg (by decide)) ?_
    constructor <;> first | rfl | decide +kernel

/-- A trusted negative count, and a directory entry of one token in front of a larger count of
the snapshot, both lose a selected backend its place. -/
theorem observedPair_locality_loses :
    (((Policy.cacheAware defaultCacheAwareConfig).selectBackend ⟨0, none⟩ prefixedRequest
        (observedPair 0 0 (-10000) 4)).map RouteDecision.backendID = some "a" ∧
      ((Policy.cacheAware defaultCacheAwareConfig).selectBackend ⟨0, none⟩ prefixedRequest
        (observedPair 0 1 (-10000) 4)).map RouteDecision.backendID = some "b") ∧
    ((Policy.cacheAware defaultCacheAwareConfig).selectBackend ⟨0, some fun _ _ => 0⟩
        prefixedRequest (observedPair 1 1 1000 0)).map RouteDecision.backendID = some "a" ∧
      ((Policy.cacheAware defaultCacheAwareConfig).selectBackend ⟨0, some fun _ _ => 1⟩
        prefixedRequest (observedPair 1 1 1000 0)).map RouteDecision.backendID = some "b" := by
  decide +kernel

/-! ### Service rates -/

/-- A backend at another measured rate. -/
def BackendState.withRate (b : BackendState) (rate : ℚ) : BackendState :=
  { b with genTokensPerSec := rate }

/-- The decode time of a token without a measured rate. -/
def CacheAwareConfig.fallbackMsPerToken (cfg : CacheAwareConfig) : ℚ :=
  if 1 < cfg.defaultServiceRateTokPerSec then 1000 / cfg.defaultServiceRateTokPerSec
  else cfg.decodeMsPerToken

theorem CacheAwareConfig.decodeMsPerTokenFor_withRate (cfg : CacheAwareConfig)
    {b : BackendState} (hsupported : b.serviceRateSupported = true) (rate : ℚ) :
    cfg.decodeMsPerTokenFor (b.withRate rate) =
      if 1 < rate then 1000 / rate else cfg.fallbackMsPerToken := by
  simp only [decodeMsPerTokenFor, BackendState.withRate, hsupported, true_and]
  rfl

/-- Only the decode time depends on the rate. -/
theorem finishMs_withRate (cfg : CacheAwareConfig) (locator : Locator) (req : RequestFeatures)
    (b : BackendState) (rate : ℚ) :
    (cfg.cost locator req (b.withRate rate)).finishMs =
      (cfg.cost locator req b).estQueueMs + (cfg.cost locator req b).estPrefillMs +
        cfg.outputTokens req * cfg.decodeMsPerTokenFor (b.withRate rate) +
        (cfg.cost locator req b).stalenessPenaltyMs + (cfg.cost locator req b).kvPenaltyMs := rfl

/-- Between two measured rates above one token a second, faster is sooner unless the assumed
output is negative. -/
theorem mul_div_rate_le_iff {rate rate' : ℚ} (hrate : 1 < rate) (hless : rate < rate')
    (out : ℚ) : out * (1000 / rate') ≤ out * (1000 / rate) ↔ 0 ≤ out := by
  have hpos : 0 < rate := zero_lt_one.trans hrate
  have hdiv : (1000 : ℚ) / rate' < 1000 / rate :=
    div_lt_div_of_pos_left (by norm_num) hpos hless
  constructor
  · intro hle
    by_contra hneg
    exact absurd hle (not_le.mpr (mul_lt_mul_of_neg_left hdiv (not_le.mp hneg)))
  · intro hout
    exact mul_le_mul_of_nonneg_left hdiv.le hout

/-- A backend is never estimated slower at the higher rate, and keeps every selection that it
has at the lower one, exactly if the higher rate is not used, is not higher, or decodes
the assumed output no slower than what it replaces. -/
theorem faster_never_slower_iff (cfg : CacheAwareConfig) (env : SelectEnv)
    (req : RequestFeatures) (b : BackendState) (rate rate' : ℚ)
    (hsupported : b.serviceRateSupported = true) (hrise : rate ≤ rate') :
    ((cfg.cost env.locator req (b.withRate rate')).finishMs ≤
        (cfg.cost env.locator req (b.withRate rate)).finishMs ∧
      ∀ before after, ((Policy.cacheAware cfg).selectBackend env req
          ⟨before ++ b.withRate rate :: after⟩).map RouteDecision.backendID = some b.id →
        ((Policy.cacheAware cfg).selectBackend env req
          ⟨before ++ b.withRate rate' :: after⟩).map RouteDecision.backendID = some b.id) ↔
      (1 < rate' → rate < rate' →
        if 1 < rate then 0 ≤ cfg.outputTokens req
        else cfg.outputTokens req * (1000 / rate') ≤
          cfg.outputTokens req * cfg.fallbackMsPerToken) := by
  have hfinish : (cfg.cost env.locator req (b.withRate rate')).finishMs ≤
        (cfg.cost env.locator req (b.withRate rate)).finishMs ↔
      (1 < rate' → rate < rate' →
        if 1 < rate then 0 ≤ cfg.outputTokens req
        else cfg.outputTokens req * (1000 / rate') ≤
          cfg.outputTokens req * cfg.fallbackMsPerToken) := by
    rw [finishMs_withRate, finishMs_withRate, add_le_add_iff_right, add_le_add_iff_right,
      add_le_add_iff_left, cfg.decodeMsPerTokenFor_withRate hsupported,
      cfg.decodeMsPerTokenFor_withRate hsupported]
    by_cases hused : 1 < rate'
    · rw [if_pos hused]
      rcases hrise.eq_or_lt with rfl | hless
      · simp [hused]
      · by_cases hmeasured : 1 < rate
        · rw [if_pos hmeasured, if_pos hmeasured, mul_div_rate_le_iff hmeasured hless]
          simp [hused, hless]
        · simp [hused, hless, hmeasured]
    · have hunused : ¬ 1 < rate := fun h => hused (h.trans_le hrise)
      simp [hused, hunused]
  rw [← hfinish]
  constructor
  · exact And.left
  · intro hle
    refine ⟨hle, ?_⟩
    intro before after hselected
    refine selected_of_favours (List.rel_append ?_ (.cons ?_ ?_)) hselected
    · refine List.forall₂_same.mpr fun c _ => ?_
      split <;> exact ⟨rfl, id, le_rfl⟩
    · exact Eq.mpr (if_pos rfl) ⟨rfl, id, hle⟩
    · refine List.forall₂_same.mpr fun c _ => ?_
      split <;> exact ⟨rfl, id, le_rfl⟩

/-- A backend whose service rate is measured. -/
def measuredBackend : BackendState := { idleBackend "a" with serviceRateSupported := true }

/-- From two tokens a second to four, the estimate of a request gets no later. -/
theorem measuredBackend_faster :
    (defaultCacheAwareConfig.cost none prefixedRequest (measuredBackend.withRate 4)).finishMs ≤
      (defaultCacheAwareConfig.cost none prefixedRequest (measuredBackend.withRate 2)).finishMs :=
  ((faster_never_slower_iff defaultCacheAwareConfig ⟨0, none⟩ prefixedRequest measuredBackend 2 4
    rfl (by decide +kernel)).mpr (by decide +kernel)).1

/-- A backend measured at no token a second is estimated with the fallback and selected; at a
hundred it is estimated later and loses to a longer queue. -/
theorem measuredBackend_stalled_attracts :
    ((defaultCacheAwareConfig.cost none prefixedRequest (measuredBackend.withRate 0)).finishMs <
      (defaultCacheAwareConfig.cost none prefixedRequest
        (measuredBackend.withRate 100)).finishMs) ∧
    ((Policy.cacheAware defaultCacheAwareConfig).selectBackend ⟨0, none⟩ prefixedRequest
        ⟨[measuredBackend.withRate 0, { idleBackend "b" with queueDepth := 4 }]⟩).map
      RouteDecision.backendID = some "a" ∧
    ((Policy.cacheAware defaultCacheAwareConfig).selectBackend ⟨0, none⟩ prefixedRequest
        ⟨[measuredBackend.withRate 100, { idleBackend "b" with queueDepth := 4 }]⟩).map
      RouteDecision.backendID = some "b" := by
  decide +kernel

end GpuSidecar.Routing
