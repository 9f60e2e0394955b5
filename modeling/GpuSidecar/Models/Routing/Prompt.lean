import GpuSidecar.Models.Routing.Breakdown

/-!
# Matched prefixes and prompts

The embedding of the gateway's request features, and what the matched prefix of an
estimate has to do with the prompt. The count of matched tokens is cut to the claimed
prefix and to the estimated prompt, each cut only if its bound is positive. A prompt
whose length could not be estimated is reported as zero tokens, and then nothing cuts
the count.
-/

namespace GpuSidecar.Routing

/-! ### The features of a request -/

/-- What the gateway decodes from a request. -/
structure ClientRequest where
  /-- The prefix key, empty if absent. -/
  prefixKey : String
  /-- The prefix length, if the header holds a number. -/
  prefixTokens : Option ℤ
  /-- The stream flag, if the body decodes with one. -/
  stream : Option Bool
  /-- The lengths of the messages' contents, if every content is a text. -/
  contents : Option (List ℕ)
  /-- The token limit, zero if there is none. -/
  maxTokens : ℤ
  deriving DecidableEq, Repr

/-- Four bytes a token. -/
def estimateTokens (req : ClientRequest) : ℤ :=
  match req.contents with
  | none => 0
  | some lengths => (lengths.sum / 4 : ℕ)

/-- The hash of a raw key; the empty key has none. -/
def hashRouterKey (sha256Hex : String → String) (raw : String) : String :=
  if raw = "" then "" else sha256Hex raw

/-- The hashed key and the bounded token count of the prefix headers. -/
def extractPrefixFeatures (sha256Hex : String → String) (req : ClientRequest) : String × ℤ :=
  let keyHash := if req.prefixKey ≠ "" then hashRouterKey sha256Hex req.prefixKey else ""
  let tokens := match req.prefixTokens with
    | none => 0
    | some n => if 0 < n then (if 2 ^ 20 < n then 2 ^ 20 else n) else 0
  (keyHash, tokens)

/-- The features that the policies read. -/
def ClientRequest.features (sha256Hex : String → String) (req : ClientRequest) :
    RequestFeatures :=
  let (keyHash, tokens) := extractPrefixFeatures sha256Hex req
  { stream := req.stream.getD false
    inputLenEst := estimateTokens req
    requestedOutput := req.maxTokens
    prefixKeyHash := keyHash
    prefixTokens := tokens
    cacheEligible := decide (keyHash ≠ "") }

/-! ### The matched prefix -/

theorem cutTo_le {bound : ℤ} (h : 0 < bound) (count : ℤ) : cutTo bound count ≤ bound := by
  rw [cutTo]
  split <;> omega

theorem cutTo_le_self (bound count : ℤ) : cutTo bound count ≤ count := by
  rw [cutTo]
  split <;> omega

theorem cutTo_of_nonpos {bound : ℤ} (h : bound ≤ 0) (count : ℤ) : cutTo bound count = count := by
  rw [cutTo, if_neg (by omega)]

theorem cutTo_nonneg_iff (bound count : ℤ) : 0 ≤ cutTo bound count ↔ 0 ≤ count := by
  rw [cutTo]
  split <;> omega

theorem cutTo_eq_zero_iff (bound count : ℤ) : cutTo bound count = 0 ↔ count = 0 := by
  rw [cutTo]
  split <;> omega

namespace CacheAwareConfig

variable (cfg : CacheAwareConfig) (locator : Locator) (req : RequestFeatures) (b : BackendState)

/-- The matched tokens of an estimate. -/
theorem cost_matchedPrefixTokens :
    (cfg.cost locator req b).matchedPrefixTokens =
      if cfg.consults req b then
        cutTo req.inputLenEst (cutTo req.prefixTokens (resolvedTokens locator req b))
      else 0 := by
  change (cfg.matchedTokensFor locator req b).1 = _
  rw [matchedTokensFor_eq]

/-- The rest of the prompt. -/
theorem cost_uncachedPromptTokens :
    (cfg.cost locator req b).uncachedPromptTokens =
      max 0 (max 0 req.inputLenEst - (cfg.cost locator req b).matchedPrefixTokens) := by
  change (if (if req.inputLenEst < 0 then 0 else req.inputLenEst) -
      (cfg.matchedTokensFor locator req b).1 < 0 then 0 else
      (if req.inputLenEst < 0 then 0 else req.inputLenEst) -
        (cfg.matchedTokensFor locator req b).1) =
    max 0 (max 0 req.inputLenEst - (cfg.matchedTokensFor locator req b).1)
  split <;> split <;> omega

/-- The estimate splits the prompt into a matched prefix and an uncached rest. -/
structure WithinPrompt : Prop where
  nonneg : 0 ≤ (cfg.cost locator req b).matchedPrefixTokens
  le_prompt : (cfg.cost locator req b).matchedPrefixTokens ≤ max 0 req.inputLenEst
  split : (cfg.cost locator req b).matchedPrefixTokens +
    (cfg.cost locator req b).uncachedPromptTokens = max 0 req.inputLenEst
  le_claimed : 0 < req.prefixTokens →
    (cfg.cost locator req b).matchedPrefixTokens ≤ req.prefixTokens
  saved : (cfg.candidateScore (cfg.cost locator req b)).estPrefillSavedMs =
    (max 0 req.inputLenEst : ℤ) * cfg.prefillMsPerToken -
      (cfg.candidateScore (cfg.cost locator req b)).estPrefillMs

variable {cfg locator req b}

/-- A count within the prompt settles the rest. -/
theorem withinPrompt_of_bounds (hnonneg : 0 ≤ (cfg.cost locator req b).matchedPrefixTokens)
    (hprompt : (cfg.cost locator req b).matchedPrefixTokens ≤ max 0 req.inputLenEst)
    (hclaimed : 0 < req.prefixTokens →
      (cfg.cost locator req b).matchedPrefixTokens ≤ req.prefixTokens) :
    cfg.WithinPrompt locator req b := by
  have huncached := cfg.cost_uncachedPromptTokens locator req b
  have hsplit : (cfg.cost locator req b).matchedPrefixTokens +
      (cfg.cost locator req b).uncachedPromptTokens = max 0 req.inputLenEst := by omega
  refine ⟨hnonneg, hprompt, hsplit, hclaimed, ?_⟩
  change ((cfg.cost locator req b).matchedPrefixTokens : ℚ) * cfg.prefillMsPerToken =
    (max 0 req.inputLenEst : ℤ) * cfg.prefillMsPerToken -
      ((cfg.cost locator req b).uncachedPromptTokens : ℚ) * cfg.prefillMsPerToken
  rw [← hsplit, Int.cast_add, add_mul, add_sub_cancel_right]

/-- A count that is not negative, and is zero without an estimate of the prompt, is cut to
lie within it. -/
theorem withinPrompt_of_resolved
    (h : cfg.consults req b = true → 0 ≤ resolvedTokens locator req b ∧
      (0 < req.inputLenEst ∨ resolvedTokens locator req b = 0)) :
    cfg.WithinPrompt locator req b := by
  have hmatched := cfg.cost_matchedPrefixTokens locator req b
  cases hconsults : cfg.consults req b with
  | false =>
    rw [hconsults, if_neg Bool.false_ne_true] at hmatched
    apply withinPrompt_of_bounds
    · exact hmatched.ge
    · rw [hmatched]
      exact le_max_left 0 _
    · intro hclaimed
      rw [hmatched]
      exact hclaimed.le
  | true =>
    rw [hconsults, if_pos rfl] at hmatched
    obtain ⟨hnonneg, hinput⟩ := h hconsults
    apply withinPrompt_of_bounds
    · rw [hmatched, cutTo_nonneg_iff, cutTo_nonneg_iff]
      exact hnonneg
    · rw [hmatched]
      rcases hinput with hinput | hzero
      · exact (cutTo_le hinput _).trans (le_max_right 0 _)
      · rw [((cutTo_eq_zero_iff _ _).trans (cutTo_eq_zero_iff _ _)).mpr hzero]
        exact le_max_left 0 _
    · intro hclaimed
      rw [hmatched]
      exact (cutTo_le_self _ _).trans (cutTo_le hclaimed _)

/-- A count within the prompt was not negative, and was zero if the prompt has no estimate. -/
theorem WithinPrompt.resolved (h : cfg.WithinPrompt locator req b)
    (hconsults : cfg.consults req b = true) :
    0 ≤ resolvedTokens locator req b ∧
      (0 < req.inputLenEst ∨ resolvedTokens locator req b = 0) := by
  have hnonneg := h.nonneg
  have hprompt := h.le_prompt
  rw [cost_matchedPrefixTokens, if_pos hconsults] at hnonneg hprompt
  rw [cutTo_nonneg_iff, cutTo_nonneg_iff] at hnonneg
  refine ⟨hnonneg, ?_⟩
  by_cases hinput : 0 < req.inputLenEst
  · exact Or.inl hinput
  · -- without an estimate only the claimed prefix cuts the count
    right
    rw [max_eq_left (not_lt.mp hinput), cutTo_of_nonpos (not_lt.mp hinput)] at hprompt
    rw [← cutTo_eq_zero_iff req.prefixTokens]
    exact le_antisymm hprompt ((cutTo_nonneg_iff _ _).mpr hnonneg)

end CacheAwareConfig

/-- The matched prefix lies within the prompt exactly if the count that is consulted is not
negative, and is zero when the prompt has no positive estimate. -/
theorem withinPrompt_iff (cfg : CacheAwareConfig) (locator : Locator) (req : RequestFeatures)
    (b : BackendState) :
    cfg.WithinPrompt locator req b ↔
      (cfg.consults req b = true → 0 ≤ resolvedTokens locator req b ∧
        (0 < req.inputLenEst ∨ resolvedTokens locator req b = 0)) :=
  ⟨CacheAwareConfig.WithinPrompt.resolved, CacheAwareConfig.withinPrompt_of_resolved⟩

/-- A request with a prefix key whose content is not a text. -/
def multimodalRequest : ClientRequest := ⟨"k", none, none, none, 0⟩

/-- A directory entry of a hundred tokens is matched in full against its prompt of zero. -/
theorem multimodalRequest_not_withinPrompt :
    ¬ defaultCacheAwareConfig.WithinPrompt (some fun _ _ => 100) (multimodalRequest.features id)
      { idleBackend "a" with cacheObservationSupported := true, cacheConfidence := 1 } := by
  intro h
  exact absurd h.le_prompt (by decide +kernel)

/-- For a request of at least four bytes of text the matched prefix of every backend lies
within the prompt, if no snapshot count is negative. -/
theorem ClientRequest.withinPrompt (cfg : CacheAwareConfig) (locator : Locator)
    (sha256Hex : String → String) {req : ClientRequest} {lengths : List ℕ}
    (hcontents : req.contents = some lengths) (hlong : 4 ≤ lengths.sum) {b : BackendState}
    (hcount : 0 ≤ b.prefixMatchedTokens) :
    cfg.WithinPrompt locator (req.features sha256Hex) b := by
  apply CacheAwareConfig.withinPrompt_of_resolved
  intro _
  constructor
  · cases locator with
    | none => exact hcount
    | some lookup =>
      rw [resolvedTokens]
      split
      · next hpositive => exact hpositive.le
      · exact hcount
  · left
    change 0 < estimateTokens req
    rw [estimateTokens, hcontents]
    simp only
    omega

end GpuSidecar.Routing
