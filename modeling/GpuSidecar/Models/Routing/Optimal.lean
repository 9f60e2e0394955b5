import GpuSidecar.Core.List.Best
import GpuSidecar.Models.Routing.Policy

/-!
# Optimal choices

The two cache-aware policies choose the best eligible backend for an order of their own:
the earliest estimated finish, or the most matched tokens, and then the least id. With
pairwise distinct ids the best backend is unique, so neither choice depends on the
order of the snapshot. The scan for the most matched tokens starts from a sentinel
below every count, and is right whenever some count is not negative.
-/

namespace GpuSidecar.Routing

open Choice

/-- An earlier finish, or the same one and a smaller id. -/
def Sooner (finish : BackendState → ℚ) (b b' : BackendState) : Prop :=
  finish b < finish b' ∨ finish b = finish b' ∧ b.id < b'.id

/-- More matched tokens, or as many and a smaller id. -/
def Closer (matched : BackendState → ℤ) (b b' : BackendState) : Prop :=
  matched b' < matched b ∨ matched b = matched b' ∧ b.id < b'.id

theorem Sooner.asymm {finish : BackendState → ℚ} (b b' : BackendState) (h : Sooner finish b b') :
    ¬ Sooner finish b' b := by
  rintro (h' | ⟨heq', hid'⟩) <;> rcases h with h | ⟨heq, hid⟩
  · exact lt_asymm h h'
  · exact h'.ne heq.symm
  · exact h.ne heq'.symm
  · exact lt_asymm hid hid'

theorem Closer.asymm {matched : BackendState → ℤ} (b b' : BackendState)
    (h : Closer matched b b') : ¬ Closer matched b' b := by
  rintro (h' | ⟨heq', hid'⟩) <;> rcases h with h | ⟨heq, hid⟩
  · omega
  · omega
  · omega
  · exact lt_asymm hid hid'

theorem Closer.trans {matched : BackendState → ℤ} (b b' b'' : BackendState)
    (h : Closer matched b b') (h' : Closer matched b' b'') : Closer matched b b'' := by
  rcases h with h | ⟨heq, hid⟩ <;> rcases h' with h' | ⟨heq', hid'⟩
  · exact Or.inl (by omega)
  · exact Or.inl (by omega)
  · exact Or.inl (by omega)
  · exact Or.inr ⟨by omega, hid.trans hid'⟩

/-- Distinct ids of a snapshot tell its eligible backends apart. -/
theorem eq_of_id_eq {snap : BackendSnapshot} (hids : (snap.backends.map BackendState.id).Nodup)
    {b b' : BackendState} (hb : b ∈ eligible snap) (hb' : b' ∈ eligible snap)
    (hid : b.id = b'.id) : b = b' :=
  List.inj_on_of_nodup_map hids (List.mem_filter.mp hb).1 (List.mem_filter.mp hb').1 hid

/-! ### The earliest finish -/

/-- What the order of the cache-aware policy compares. -/
theorem CandidateCost.le_iff (c c' : CandidateCost) :
    c.le c' = true ↔
      c.finishMs < c'.finishMs ∨ c.finishMs = c'.finishMs ∧ c.backendID ≤ c'.backendID := by
  by_cases hfinish : c.finishMs = c'.finishMs <;> simp [CandidateCost.le, hfinish]

theorem CandidateCost.le_total (c c' : CandidateCost) : c.le c' = true ∨ c'.le c = true := by
  rw [le_iff, le_iff]
  rcases lt_trichotomy c.finishMs c'.finishMs with hlt | heq | hgt
  · exact Or.inl (Or.inl hlt)
  · rcases Std.Total.total (r := fun a b : String => a ≤ b) c.backendID c'.backendID with hid | hid
    · exact Or.inl (Or.inr ⟨heq, hid⟩)
    · exact Or.inr (Or.inr ⟨heq.symm, hid⟩)
  · exact Or.inr (Or.inl hgt)

theorem CandidateCost.le_trans (c c' c'' : CandidateCost) (h : c.le c' = true)
    (h' : c'.le c'' = true) : c.le c'' = true := by
  rw [le_iff] at h h' ⊢
  rcases h with hlt | ⟨heq, hid⟩ <;> rcases h' with hlt' | ⟨heq', hid'⟩
  · exact Or.inl (hlt.trans hlt')
  · exact Or.inl (heq' ▸ hlt)
  · exact Or.inl (heq ▸ hlt')
  · exact Or.inr ⟨heq.trans heq', hid.trans hid'⟩

/-- The best cost precedes every cost. -/
theorem bestCost_le {costs : List CandidateCost} {best : CandidateCost}
    (h : bestCost costs = some best) : ∀ c ∈ costs, best.le c = true := by
  have : Std.Total fun a b : CandidateCost => (a.le b : Prop) := ⟨CandidateCost.le_total⟩
  have : IsTrans CandidateCost fun a b => (a.le b : Prop) := ⟨CandidateCost.le_trans⟩
  have hsorted := List.pairwise_insertionSort (fun a b : CandidateCost => (a.le b : Prop)) costs
  obtain ⟨rest, hrest⟩ := List.head?_eq_some_iff.mp h
  rw [hrest] at hsorted
  intro c hc
  rw [← List.mem_insertionSort (fun a b : CandidateCost => (a.le b : Prop)), hrest] at hc
  rcases List.mem_cons.mp hc with rfl | hc
  · exact (c.le_iff c).mpr (Or.inr ⟨rfl, le_rfl⟩)
  · exact (List.pairwise_cons.mp hsorted).1 c hc

/-- The decision of the cache-aware policy for a backend. -/
def finishDecision (cfg : CacheAwareConfig) (locator : Locator) (req : RequestFeatures)
    (b : BackendState) : RouteDecision :=
  ⟨b.id, "cache_aware_estimated_finish", "1", .minFinish (cfg.cost locator req b), false⟩

/-- The cache-aware policy decides for the eligible backend with the earliest finish. -/
theorem cacheAware_best (cfg : CacheAwareConfig) (env : SelectEnv) (req : RequestFeatures)
    {snap : BackendSnapshot} (hids : (snap.backends.map BackendState.id).Nodup)
    (h : eligible snap ≠ []) :
    ∃ b, Best (Sooner fun b => (cfg.cost env.locator req b).finishMs) (eligible snap) b ∧
      (Policy.cacheAware cfg).selectBackend env req snap =
        some (finishDecision cfg env.locator req b) := by
  have hcosts : (eligible snap).map (cfg.cost env.locator req) ≠ [] := by simpa using h
  obtain ⟨best, hmem, hbest⟩ := bestCost_mem hcosts
  obtain ⟨b, hb, rfl⟩ := List.mem_map.mp hmem
  refine ⟨b, ⟨hb, ?_⟩, ?_⟩
  · intro b' hb' hne
    have hle := bestCost_le hbest _ (List.mem_map_of_mem hb')
    rcases (CandidateCost.le_iff _ _).mp hle with hlt | ⟨heq, hid⟩
    · exact Or.inl hlt
    · refine Or.inr ⟨heq, lt_of_le_of_ne hid ?_⟩
      intro hsame
      exact hne (eq_of_id_eq hids hb' hb hsame.symm)
  · rw [Policy.selectBackend_cacheAware, cacheAwareDecision, hbest]
    rfl

/-! ### The most matched tokens -/

/-- One step of affinity routing on the best backend so far. -/
def closerOf (matched : BackendState → ℤ) (acc : BackendState × ℤ) (b : BackendState) :
    BackendState × ℤ :=
  if acc.2 < matched b ∨ matched b = acc.2 ∧ b.id < acc.1.id then (b, matched b) else acc

theorem mostMatched_eq (locator : Locator) (req : RequestFeatures) (first : BackendState)
    (all : List BackendState) :
    mostMatched locator req first all =
      all.foldl (closerOf (affinityMatch locator req)) (first, -1) := rfl

/-- What the scan holds: the best of the backends seen, or the sentinel while all of their
counts are negative. -/
def Scanned (matched : BackendState → ℤ) (seen : List BackendState) (acc : BackendState × ℤ) :
    Prop :=
  (Best (Closer matched) seen acc.1 ∧ acc.2 = matched acc.1) ∨
    (acc.2 = -1 ∧ ∀ b ∈ seen, matched b < 0)

/-- One step of the scan. -/
theorem Scanned.step {matched : BackendState → ℤ} {seen : List BackendState}
    {acc : BackendState × ℤ} (h : Scanned matched seen acc) {b : BackendState}
    (hids : ∀ b' ∈ seen, b.id = b'.id → b = b') :
    Scanned matched (seen ++ [b]) (closerOf matched acc b) := by
  rw [closerOf]
  rcases h with ⟨hbest, hacc⟩ | ⟨hacc, hnegative⟩
  · left
    rw [hacc]
    split
    · next hcloser => exact ⟨hbest.concat_of_better Closer.trans (hcloser.imp_right id), rfl⟩
    · next hnot =>
      refine ⟨hbest.concat ?_, hacc⟩
      intro hne
      rw [not_or, not_lt, not_and] at hnot
      rcases hnot.1.lt_or_eq with hlt | heq
      · exact Or.inl hlt
      · refine Or.inr ⟨heq.symm, lt_of_le_of_ne (not_lt.mp (hnot.2 heq)) ?_⟩
        intro hsame
        exact hne (hids _ hbest.1 hsame.symm)
  · by_cases hcounted : 0 ≤ matched b
    · left
      have hcloser : acc.2 < matched b := by omega
      rw [if_pos (Or.inl hcloser)]
      refine ⟨best_concat ?_, rfl⟩
      intro b' hb'
      exact Or.inl (lt_of_lt_of_le (hnegative b' hb') hcounted)
    · right
      have hall : ∀ b' ∈ seen ++ [b], matched b' < 0 := by
        intro b' hb'
        rcases List.mem_append.mp hb' with hb' | hb'
        · exact hnegative b' hb'
        · rw [List.mem_singleton.mp hb']
          exact not_le.mp hcounted
      split
      · next hcloser => exact ⟨by omega, hall⟩
      · exact ⟨hacc, hall⟩

/-- The whole scan. -/
theorem Scanned.foldl {matched : BackendState → ℤ} {seen : List BackendState}
    {acc : BackendState × ℤ} (h : Scanned matched seen acc) (all : List BackendState)
    (hids : ((seen ++ all).map BackendState.id).Nodup) :
    Scanned matched (seen ++ all) (all.foldl (closerOf matched) acc) := by
  induction all generalizing seen acc with
  | nil => simpa using h
  | cons b all ih =>
    rw [List.append_cons] at hids ⊢
    refine ih (h.step ?_) hids
    intro b' hb' hsame
    have hmem : b ∈ (seen ++ [b]) ++ all := by simp
    have hmem' : b' ∈ (seen ++ [b]) ++ all := by simp [hb']
    exact List.inj_on_of_nodup_map hids hmem hmem' hsame

/-- The decision of affinity routing for a backend. -/
def affinityDecision (locator : Locator) (req : RequestFeatures) (b : BackendState) :
    RouteDecision :=
  ⟨b.id, "cache_affinity_only", "1", .maxMatchedPrefix (affinityMatch locator req b), false⟩

/-- Some eligible backend has a count of matched tokens that is not negative. -/
def SomeMatchCounted (locator : Locator) (req : RequestFeatures) (snap : BackendSnapshot) : Prop :=
  ∃ b ∈ eligible snap, 0 ≤ affinityMatch locator req b

/-- Affinity routing decides for the eligible backend with the most matched tokens. -/
theorem cacheAffinityOnly_best (env : SelectEnv) (req : RequestFeatures) {snap : BackendSnapshot}
    (hids : (snap.backends.map BackendState.id).Nodup)
    (h : SomeMatchCounted env.locator req snap) :
    ∃ b, Best (Closer (affinityMatch env.locator req)) (eligible snap) b ∧
      Policy.cacheAffinityOnly.selectBackend env req snap =
        some (affinityDecision env.locator req b) := by
  obtain ⟨counted, hcounted, hpos⟩ := h
  have hids' : ((eligible snap).map BackendState.id).Nodup :=
    hids.sublist (List.filter_sublist.map BackendState.id)
  cases heligible : eligible snap with
  | nil =>
    rw [heligible] at hcounted
    cases hcounted
  | cons first rest =>
    have hstart : Scanned (affinityMatch env.locator req) [] (first, -1) :=
      Or.inr ⟨rfl, by simp⟩
    rw [heligible] at hcounted hids'
    rcases hstart.foldl (first :: rest) hids' with ⟨hbest, hmatched⟩ | ⟨-, hnegative⟩
    · refine ⟨_, hbest, ?_⟩
      rw [Policy.selectBackend, heligible]
      simp only [cacheAffinityOnlyPolicy, mostMatched_eq, affinityDecision, hmatched]
    · exact absurd hpos (not_le.mpr (hnegative counted hcounted))

/-! ### Order-independent optimal choice -/

/-- A policy decides for the best eligible backend, decides the same for every order of the
snapshot, and errs exactly if no backend is eligible. -/
structure ChoosesBest (select : BackendSnapshot → Option RouteDecision)
    (better : BackendState → BackendState → Prop) (snap : BackendSnapshot) : Prop where
  best : ∀ dec, select snap = some dec → ∃ b, Best better (eligible snap) b ∧ dec.backendID = b.id
  permuted : ∀ snap' : BackendSnapshot, snap'.backends.Perm snap.backends →
    select snap' = select snap
  error : select snap = none ↔ eligible snap = []

/-- Without an eligible backend there is no decision. -/
theorem Policy.selectBackend_eq_none (p : Policy) (env : SelectEnv) (req : RequestFeatures)
    {snap : BackendSnapshot} (h : eligible snap = []) : p.selectBackend env req snap = none := by
  rw [selectBackend, h]

/-- A policy whose decision for a snapshot is a function of its best eligible backend. -/
theorem choosesBest_of_best {select : BackendSnapshot → Option RouteDecision}
    {better : BackendState → BackendState → Prop} (decision : BackendState → RouteDecision)
    {snap : BackendSnapshot} (hasymm : ∀ b b', better b b' → ¬ better b' b)
    (hnone : ∀ snap' : BackendSnapshot, eligible snap' = [] → select snap' = none)
    (hid : ∀ b, (decision b).backendID = b.id)
    (hsome : ∀ snap' : BackendSnapshot, snap'.backends.Perm snap.backends → eligible snap' ≠ [] →
      ∃ b, Best better (eligible snap') b ∧ select snap' = some (decision b)) :
    ChoosesBest select better snap := by
  have hsnap := hsome snap (List.Perm.refl _)
  refine ⟨?_, ?_, ?_⟩
  · intro dec hdec
    have hne : eligible snap ≠ [] := by
      intro hempty
      rw [hnone snap hempty] at hdec
      cases hdec
    obtain ⟨b, hbest, hselect⟩ := hsnap hne
    rw [hselect] at hdec
    cases hdec
    exact ⟨b, hbest, hid b⟩
  · intro snap' hperm
    have helig : (eligible snap').Perm (eligible snap) := hperm.filter accepts
    by_cases hempty : eligible snap = []
    · have hempty' : eligible snap' = [] := (hempty ▸ helig).eq_nil
      rw [hnone snap hempty, hnone snap' hempty']
    · have hempty' : eligible snap' ≠ [] := fun h => hempty (h ▸ helig).symm.eq_nil
      obtain ⟨b, hbest, hselect⟩ := hsnap hempty
      obtain ⟨b', hbest', hselect'⟩ := hsome snap' hperm hempty'
      rw [hselect, hselect', (hbest'.perm helig).unique hasymm hbest]
  · refine ⟨?_, hnone snap⟩
    intro herror
    by_contra hne
    obtain ⟨b, -, hselect⟩ := hsnap hne
    rw [hselect] at herror
    cases herror

/-- For every request, directory and snapshot with pairwise distinct ids, the cache-aware
policy chooses the earliest finish and affinity routing the most matched tokens, the
latter unless every eligible backend has a negative count. -/
theorem optimal_choice (cfg : CacheAwareConfig) (env : SelectEnv) (req : RequestFeatures)
    {snap : BackendSnapshot} (hids : (snap.backends.map BackendState.id).Nodup) :
    ChoosesBest ((Policy.cacheAware cfg).selectBackend env req)
        (Sooner fun b => (cfg.cost env.locator req b).finishMs) snap ∧
      ((eligible snap ≠ [] → SomeMatchCounted env.locator req snap) →
        ChoosesBest (Policy.cacheAffinityOnly.selectBackend env req)
          (Closer (affinityMatch env.locator req)) snap) := by
  constructor
  · apply choosesBest_of_best (finishDecision cfg env.locator req) Sooner.asymm
    · intro snap' hempty
      exact Policy.selectBackend_eq_none _ env req hempty
    · intro b
      rfl
    · intro snap' hperm hne
      exact cacheAware_best cfg env req ((hperm.map BackendState.id).nodup_iff.mpr hids) hne
  · intro hcounted
    apply choosesBest_of_best (affinityDecision env.locator req) Closer.asymm
    · intro snap' hempty
      exact Policy.selectBackend_eq_none _ env req hempty
    · intro b
      rfl
    · intro snap' hperm hne
      have helig : (eligible snap').Perm (eligible snap) := hperm.filter accepts
      have hne' : eligible snap ≠ [] := fun h => hne (h ▸ helig).eq_nil
      obtain ⟨b, hb, hpos⟩ := hcounted hne'
      exact cacheAffinityOnly_best env req ((hperm.map BackendState.id).nodup_iff.mpr hids)
        ⟨b, helig.mem_iff.mpr hb, hpos⟩

/-- Two idle backends with counts of matched tokens. -/
def matchedPair (first second : ℤ) : BackendSnapshot :=
  ⟨[{ idleBackend "a" with prefixMatchedTokens := first },
    { idleBackend "b" with prefixMatchedTokens := second }]⟩

/-- With counts of 3 and 7 affinity routing chooses the second backend, whatever the order. -/
theorem matchedPair_optimal :
    ChoosesBest (Policy.cacheAffinityOnly.selectBackend ⟨0, none⟩ ⟨false, 0, 0, "", 0, false⟩)
        (Closer (affinityMatch none ⟨false, 0, 0, "", 0, false⟩)) (matchedPair 3 7) ∧
      (Policy.cacheAffinityOnly.selectBackend ⟨0, none⟩ ⟨false, 0, 0, "", 0, false⟩
        (matchedPair 3 7)).map RouteDecision.backendID = some "b" := by
  refine ⟨(optimal_choice defaultCacheAwareConfig ⟨0, none⟩ ⟨false, 0, 0, "", 0, false⟩
    (by decide)).2 fun _ => ?_, by decide +kernel⟩
  exact ⟨{ idleBackend "b" with prefixMatchedTokens := 7 }, by decide +kernel, by decide⟩

/-- With counts of -3 and -2 it chooses the first backend. -/
theorem matchedPair_negative_not_optimal :
    ((matchedPair (-3) (-2)).backends.map BackendState.id).Nodup ∧
      ¬ ChoosesBest
        (Policy.cacheAffinityOnly.selectBackend ⟨0, none⟩ ⟨false, 0, 0, "", 0, false⟩)
        (Closer (affinityMatch none ⟨false, 0, 0, "", 0, false⟩)) (matchedPair (-3) (-2)) := by
  refine ⟨by decide, ?_⟩
  intro h
  have hdec : Policy.cacheAffinityOnly.selectBackend ⟨0, none⟩ ⟨false, 0, 0, "", 0, false⟩
      (matchedPair (-3) (-2)) =
        some ⟨"a", "cache_affinity_only", "1", .maxMatchedPrefix (-1), false⟩ := by
    decide +kernel
  obtain ⟨b, ⟨hmem, hbest⟩, hid⟩ := h.best _ hdec
  have helig : eligible (matchedPair (-3) (-2)) = (matchedPair (-3) (-2)).backends := by
    decide +kernel
  rw [helig] at hmem hbest
  rcases List.mem_pair.mp hmem with rfl | rfl
  · have hcloser := hbest { idleBackend "b" with prefixMatchedTokens := -2 } (by simp [matchedPair])
      (by decide +kernel)
    rcases hcloser with hlt | ⟨heq, -⟩
    · exact absurd hlt (by decide)
    · exact absurd heq (by decide)
  · exact absurd hid (by decide)

end GpuSidecar.Routing
