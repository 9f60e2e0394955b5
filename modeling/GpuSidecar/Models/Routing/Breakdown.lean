import GpuSidecar.Core.Map.RangeOrder
import GpuSidecar.Models.Routing.Optimal

/-!
# The emitted scores

The embedding of `ScoreBreakdown`, `isEligible` and `emitCandidateState`. The scores that
the gateway emits for training are computed beside the decision, with an eligibility test
and an order of their own. This file proves that they agree with the decision on every
snapshot, and that neither of them reads a directory entry of a backend whose cache
observation is unsupported or not trusted.
-/

namespace GpuSidecar.Routing

/-! ### The breakdown -/

/-- The breakdown of one backend as it is emitted. -/
structure CandidateScore where
  backendID : String
  uncachedPromptTokens : ℤ
  matchedPrefixTokens : ℤ
  matchRatio : ℚ
  estQueueMs : ℚ
  estPrefillMs : ℚ
  estDecodeMs : ℚ
  stalenessPenaltyMs : ℚ
  kvPenaltyMs : ℚ
  estPrefillSavedMs : ℚ
  finalScoreMs : ℚ
  cacheUsed : Bool
  cacheConfidence : ℚ
  deriving DecidableEq, Repr

namespace CacheAwareConfig

/-- The emitted form of a cost. -/
def candidateScore (cfg : CacheAwareConfig) (c : CandidateCost) : CandidateScore where
  backendID := c.backendID
  uncachedPromptTokens := c.uncachedPromptTokens
  matchedPrefixTokens := c.matchedPrefixTokens
  matchRatio := c.matchRatio
  estQueueMs := c.estQueueMs
  estPrefillMs := c.estPrefillMs
  estDecodeMs := c.estDecodeMs
  stalenessPenaltyMs := c.stalenessPenaltyMs
  kvPenaltyMs := c.kvPenaltyMs
  estPrefillSavedMs := c.matchedPrefixTokens * cfg.prefillMsPerToken
  finalScoreMs := c.finishMs
  cacheUsed := c.cacheUsed
  cacheConfidence := c.cacheConfidence

end CacheAwareConfig

/-- The order of the breakdown: final score, and then the logical id. -/
def CandidateScore.le (a b : CandidateScore) : Bool :=
  if a.finalScoreMs ≠ b.finalScoreMs then decide (a.finalScoreMs < b.finalScoreMs)
  else decide (a.backendID ≤ b.backendID)

/-- The scores of the eligible backends, the least one first. -/
def scoreBreakdown (cfg : CacheAwareConfig) (locator : Locator) (req : RequestFeatures)
    (snap : BackendSnapshot) : List CandidateScore :=
  ((eligible snap).map fun b => cfg.candidateScore (cfg.cost locator req b)).insertionSort
    fun a b => a.le b

/-- The eligibility that is emitted for a backend. -/
def isEligible (b : BackendState) : Bool :=
  if !b.reachable || !b.runtimeHealthy then false
  else if b.lifecycleState == "OFFLINE" || b.lifecycleState == "DRAINING" then false
  else if decide (0 < b.queueMax) && decide (b.queueMax ≤ b.queueDepth) then false
  else true

/-- What is emitted about one backend; the score is absent if the backend has none. -/
structure CandidateState where
  backend : BackendState
  eligible : Bool
  score : Option CandidateScore
  deriving DecidableEq, Repr

/-- The emission for a request, with the default coefficients whatever the policy in use. -/
def emitCandidateState (locator : Locator) (req : RequestFeatures) (snap : BackendSnapshot) :
    List CandidateState :=
  let scores := scoreBreakdown defaultCacheAwareConfig locator req snap
  let byID := Map.writeAll (scores.map fun s => (s.backendID, s))
  snap.backends.map fun b => ⟨b, isEligible b, byID.lookup b.id⟩

/-! ### Agreement with the decision -/

/-- The emitted test is the one that the policies apply. -/
theorem isEligible_eq_accepts (b : BackendState) : isEligible b = accepts b := by
  unfold isEligible accepts
  cases b.reachable <;> cases b.runtimeHealthy <;>
    cases b.lifecycleState == "OFFLINE" || b.lifecycleState == "DRAINING" <;>
    cases decide (0 < b.queueMax) && decide (b.queueMax ≤ b.queueDepth) <;> rfl

theorem eligible_eq_filter_isEligible (snap : BackendSnapshot) :
    eligible snap = snap.backends.filter isEligible := by
  rw [eligible]
  exact List.filter_congr fun b _ => (isEligible_eq_accepts b).symm

section

variable (cfg : CacheAwareConfig) (locator : Locator) (req : RequestFeatures)
  (snap : BackendSnapshot)

/-- The breakdown is the sorted list of the costs that decide, in its emitted form. -/
theorem scoreBreakdown_eq :
    scoreBreakdown cfg locator req snap =
      (((eligible snap).map (cfg.cost locator req)).insertionSort fun a b => a.le b).map
        cfg.candidateScore := by
  rw [scoreBreakdown, List.map_insertionSort (fun a b : CandidateCost => (a.le b : Prop))
    (fun a b : CandidateScore => (a.le b : Prop)) cfg.candidateScore _ fun _ _ _ _ => Iff.rfl,
    List.map_map]
  rfl

/-- The breakdown lists the scores of the eligible backends. -/
theorem scoreBreakdown_perm :
    (scoreBreakdown cfg locator req snap).Perm
      ((snap.backends.filter isEligible).map fun b =>
        cfg.candidateScore (cfg.cost locator req b)) := by
  rw [← eligible_eq_filter_isEligible]
  exact List.perm_insertionSort _ _

/-- The first score is that of the decision. -/
theorem head?_scoreBreakdown :
    (scoreBreakdown cfg locator req snap).head? =
      (bestCost ((eligible snap).map (cfg.cost locator req))).map cfg.candidateScore := by
  rw [scoreBreakdown_eq, List.head?_map, bestCost]

variable {snap} (hids : (snap.backends.map BackendState.id).Nodup)

include hids

theorem nodup_scoreBreakdown :
    ((scoreBreakdown cfg locator req snap).map CandidateScore.backendID).Nodup := by
  have hperm := (scoreBreakdown_perm cfg locator req snap).map CandidateScore.backendID
  rw [hperm.nodup_iff, List.map_map]
  exact hids.sublist (List.filter_sublist.map BackendState.id)

/-- The breakdown ascends strictly in the score, and in the id where scores are equal. -/
theorem pairwise_scoreBreakdown :
    (scoreBreakdown cfg locator req snap).Pairwise fun a b =>
      a.finalScoreMs < b.finalScoreMs ∨
        a.finalScoreMs = b.finalScoreMs ∧ a.backendID < b.backendID := by
  have : Std.Total fun a b : CandidateCost => (a.le b : Prop) := ⟨CandidateCost.le_total⟩
  have : IsTrans CandidateCost fun a b => (a.le b : Prop) := ⟨CandidateCost.le_trans⟩
  have hsorted := List.pairwise_insertionSort (fun a b : CandidateCost => (a.le b : Prop))
    ((eligible snap).map (cfg.cost locator req))
  have hdistinct := nodup_scoreBreakdown cfg locator req hids
  rw [scoreBreakdown_eq, List.map_map, List.Nodup, List.pairwise_map] at hdistinct
  rw [scoreBreakdown_eq, List.pairwise_map]
  refine (hsorted.and hdistinct).imp ?_
  rintro a b ⟨hle, hne⟩
  rcases (CandidateCost.le_iff a b).mp hle with hlt | ⟨heq, hid⟩
  · exact Or.inl hlt
  · exact Or.inr ⟨heq, lt_of_le_of_ne hid hne⟩

end

/-- The emitted breakdown reproduces the decision of the cache-aware policy. -/
structure Reproduces (cfg : CacheAwareConfig) (env : SelectEnv) (req : RequestFeatures)
    (snap : BackendSnapshot) : Prop where
  listed : (scoreBreakdown cfg env.locator req snap).Perm
    ((snap.backends.filter isEligible).map fun b =>
      cfg.candidateScore (cfg.cost env.locator req b))
  once : ((scoreBreakdown cfg env.locator req snap).map CandidateScore.backendID).Nodup
  ascending : (scoreBreakdown cfg env.locator req snap).Pairwise fun a b =>
    a.finalScoreMs < b.finalScoreMs ∨
      a.finalScoreMs = b.finalScoreMs ∧ a.backendID < b.backendID
  empty_iff : scoreBreakdown cfg env.locator req snap = [] ↔
    (Policy.cacheAware cfg).selectBackend env req snap = none
  first : ∀ dec, (Policy.cacheAware cfg).selectBackend env req snap = some dec →
    ∃ s rest, scoreBreakdown cfg env.locator req snap = s :: rest ∧ s.backendID = dec.backendID
  summed : ∀ s ∈ scoreBreakdown cfg env.locator req snap, s.finalScoreMs =
    s.estQueueMs + s.estPrefillMs + s.estDecodeMs + s.stalenessPenaltyMs + s.kvPenaltyMs

/-- For every request, directory and snapshot with pairwise distinct ids, the emitted scores
reproduce the decision. -/
theorem scoreBreakdown_reproduces (cfg : CacheAwareConfig) (env : SelectEnv)
    (req : RequestFeatures) {snap : BackendSnapshot}
    (hids : (snap.backends.map BackendState.id).Nodup) : Reproduces cfg env req snap := by
  have hhead := head?_scoreBreakdown cfg env.locator req snap
  refine ⟨scoreBreakdown_perm cfg env.locator req snap,
    nodup_scoreBreakdown cfg env.locator req hids,
    pairwise_scoreBreakdown cfg env.locator req hids, ?_, ?_, ?_⟩
  · rw [Policy.selectBackend_cacheAware, cacheAwareDecision, Option.map_eq_none_iff,
      ← List.head?_eq_none_iff, hhead, Option.map_eq_none_iff]
  · intro dec hdec
    rw [Policy.selectBackend_cacheAware, cacheAwareDecision, Option.map_eq_some_iff] at hdec
    obtain ⟨best, hbest, rfl⟩ := hdec
    rw [hbest, Option.map_some, List.head?_eq_some_iff] at hhead
    obtain ⟨rest, hrest⟩ := hhead
    exact ⟨cfg.candidateScore best, rest, hrest, rfl⟩
  · intro s hs
    rw [(scoreBreakdown_perm cfg env.locator req snap).mem_iff] at hs
    obtain ⟨b, -, rfl⟩ := List.mem_map.mp hs
    rfl

/-- The breakdown of two idle backends reproduces the choice between them. -/
theorem matchedPair_reproduced :
    Reproduces defaultCacheAwareConfig ⟨0, none⟩ ⟨false, 0, 0, "", 0, false⟩ (matchedPair 3 7) :=
  scoreBreakdown_reproduces _ _ _ (by decide)

/-- An emitted candidate has a score exactly if it is emitted as eligible, and then its own. -/
theorem emitCandidateState_score (locator : Locator) (req : RequestFeatures)
    {snap : BackendSnapshot} (hids : (snap.backends.map BackendState.id).Nodup) :
    ∀ c ∈ emitCandidateState locator req snap,
      c.score = if c.eligible then
          some (defaultCacheAwareConfig.candidateScore
            (defaultCacheAwareConfig.cost locator req c.backend))
        else none := by
  intro c hc
  obtain ⟨b, hb, rfl⟩ := List.mem_map.mp hc
  have hkeys : (((scoreBreakdown defaultCacheAwareConfig locator req snap).map fun s =>
      (s.backendID, s)).map Prod.fst).Nodup := by
    rw [List.map_map]
    exact nodup_scoreBreakdown defaultCacheAwareConfig locator req hids
  have hperm := scoreBreakdown_perm defaultCacheAwareConfig locator req snap
  -- an entry under the id of `b` is the score of `b` itself
  have hread : ∀ s, (Map.writeAll ((scoreBreakdown defaultCacheAwareConfig locator req snap).map
      fun s => (s.backendID, s))).lookup b.id = some s ↔
        isEligible b = true ∧ defaultCacheAwareConfig.candidateScore
          (defaultCacheAwareConfig.cost locator req b) = s := by
    intro s
    rw [Map.lookup_writeAll hkeys, List.mem_map]
    constructor
    · rintro ⟨s', hs', hentry⟩
      obtain ⟨hid, rfl⟩ := Prod.mk.inj hentry
      rw [hperm.mem_iff] at hs'
      obtain ⟨b', hb', rfl⟩ := List.mem_map.mp hs'
      obtain ⟨hmem, heligible⟩ := List.mem_filter.mp hb'
      obtain rfl := List.inj_on_of_nodup_map hids hmem hb hid
      exact ⟨heligible, rfl⟩
    · rintro ⟨heligible, rfl⟩
      refine ⟨_, hperm.mem_iff.mpr (List.mem_map_of_mem ?_), rfl⟩
      exact List.mem_filter.mpr ⟨hb, heligible⟩
  cases heligible : isEligible b with
  | true =>
    simp only [if_true]
    exact (hread _).mpr ⟨heligible, rfl⟩
  | false =>
    simp only [Bool.false_eq_true, if_false]
    rw [Option.eq_none_iff_forall_ne_some]
    intro s hs
    rw [((hread s).mp hs).1] at heligible
    cases heligible

/-! ### Directories that are not trusted -/

/-- Two directories lead to the same decision and the same breakdown. -/
structure SameRouting (cfg : CacheAwareConfig) (counter : Fin (2 ^ 63)) (req : RequestFeatures)
    (snap : BackendSnapshot) (lookup lookup' : String → String → ℤ) : Prop where
  decision : (Policy.cacheAware cfg).selectBackend ⟨counter, some lookup⟩ req snap =
    (Policy.cacheAware cfg).selectBackend ⟨counter, some lookup'⟩ req snap
  breakdown : scoreBreakdown cfg (some lookup) req snap =
    scoreBreakdown cfg (some lookup') req snap

/-- Directories that agree wherever they are consulted. -/
theorem sameRouting_of_consults {cfg : CacheAwareConfig} {counter : Fin (2 ^ 63)}
    {req : RequestFeatures} {snap : BackendSnapshot} {lookup lookup' : String → String → ℤ}
    (h : ∀ b ∈ snap.backends, cfg.consults req b = true →
      lookup b.id req.prefixKeyHash = lookup' b.id req.prefixKeyHash) :
    SameRouting cfg counter req snap lookup lookup' := by
  have hcosts : (eligible snap).map (cfg.cost (some lookup) req) =
      (eligible snap).map (cfg.cost (some lookup') req) := by
    refine List.map_congr_left fun b hb => ?_
    exact CacheAwareConfig.cost_congr (h b (List.mem_filter.mp hb).1)
  refine ⟨?_, ?_⟩
  · rw [Policy.selectBackend_cacheAware, Policy.selectBackend_cacheAware, hcosts]
  · rw [scoreBreakdown_eq, scoreBreakdown_eq, hcosts]

/-- Directories that agree on every backend with supported and trusted cache observation lead
to the same decision and the same breakdown, and so do any two directories for a request
without a usable prefix key. -/
theorem untrusted_locality_ignored (cfg : CacheAwareConfig) (counter : Fin (2 ^ 63))
    (req : RequestFeatures) (snap : BackendSnapshot) (lookup lookup' : String → String → ℤ) :
    ((∀ b ∈ snap.backends, b.cacheObservationSupported = true →
        cfg.confidenceFloor ≤ b.cacheConfidence → lookup b.id = lookup' b.id) →
      SameRouting cfg counter req snap lookup lookup') ∧
    (req.cacheEligible = false ∨ req.prefixKeyHash = "" →
      SameRouting cfg counter req snap lookup lookup') := by
  constructor
  · intro hagree
    apply sameRouting_of_consults
    intro b hb hconsults
    simp only [CacheAwareConfig.consults, Bool.and_eq_true, decide_eq_true_eq] at hconsults
    obtain ⟨⟨⟨hsupported, hfloor⟩, -⟩, -⟩ := hconsults
    rw [hagree b hb hsupported hfloor]
  · intro hunusable
    apply sameRouting_of_consults
    intro b hb hconsults
    simp only [CacheAwareConfig.consults, Bool.and_eq_true, decide_eq_true_eq] at hconsults
    obtain ⟨⟨-, heligible⟩, hkey⟩ := hconsults
    rcases hunusable with hineligible | hempty
    · rw [heligible] at hineligible
      cases hineligible
    · exact absurd hempty hkey

/-- Two idle backends that observe their caches: one with the given confidence, and a trusted
one. -/
def distrustedPair (confidence : ℚ) : BackendSnapshot :=
  ⟨[{ idleBackend "a" with cacheObservationSupported := true, cacheConfidence := confidence },
    { idleBackend "b" with cacheObservationSupported := true, cacheConfidence := 1 }]⟩

/-- The given number of tokens at the first backend of the pair and a hundred at the other. -/
def pairLookup (tokens : ℤ) (backendID _key : String) : ℤ :=
  if backendID = "a" then tokens else 100

/-- The backend of the pair that a request with a prefix of a thousand tokens goes to, by a
directory with a thousand tokens at the first one. -/
def pairChoice (confidence : ℚ) : Option String :=
  ((Policy.cacheAware defaultCacheAwareConfig).selectBackend ⟨0, some (pairLookup 1000)⟩
    ⟨false, 1000, 0, "k", 1000, true⟩ (distrustedPair confidence)).map RouteDecision.backendID

/-- Below the default floor the entry of the first backend makes no difference, and the request
goes to the other one. With full confidence the same entry wins. -/
theorem distrustedPair_ignored :
    SameRouting defaultCacheAwareConfig 0 ⟨false, 1000, 0, "k", 1000, true⟩
        (distrustedPair (1 / 10)) (pairLookup 1000) (pairLookup 0) ∧
      pairChoice (1 / 10) = some "b" ∧ pairChoice 1 = some "a" := by
  refine ⟨(untrusted_locality_ignored _ _ _ _ _ _).1 fun b hb _ hfloor => ?_,
    by decide +kernel, by decide +kernel⟩
  simp only [distrustedPair, List.mem_cons, List.not_mem_nil, or_false] at hb
  rcases hb with rfl | rfl
  · exact absurd hfloor (by decide +kernel)
  · funext key
    rfl

end GpuSidecar.Routing
