import GpuSidecar.Models.Sidecar.CachePlane

/-!
# Warm prefixes

What a router makes of a prefix that a sidecar has served. The router and the sidecar read the
same headers, each with code of its own (`extractPrefixFeatures` in `internal/router/gateway.go`,
`extractAndStripPrefixHeaders` in `internal/dataplane/proxy.go`); they agree on the key and on
the length that is claimed for it. As long as no more observations have been recorded than the
index and the published directory hold, every observed prefix stays in the index. A request
with its key is then matched, at a backend whose document has been polled, with exactly what was
observed for it, cut to what the request claims and to its length; and with nothing as soon as
the entry has expired or the index is not trusted.
-/

namespace GpuSidecar.Sidecar

open Run Cache Routing Dataplane Json Time

/-- A request as the router reads it and as the sidecar gets it: the prefix headers are passed
on. -/
structure SameHeaders (client : ClientRequest) (req : ProxyRequest) : Prop where
  prefixKey : req.prefixKey = client.prefixKey
  prefixTokens : req.prefixTokens = client.prefixTokens

/-- The tokens that the cache-aware policy matches for a request at a polled backend. -/
def matchedAt (cfg : CacheAwareConfig) (ps : List Polled) (p : Polled) (req : RequestFeatures) :
    ℤ :=
  (cfg.matchedTokensFor (refreshOf ps).directory.locator req p.state).1

/-- An entry counts at a time: the index is trusted and the entry has not expired. -/
structure Counts (c : PlaneConfig) (idx : Index) (now : ℤ) (e : IndexEntry) (floor : ℚ) :
    Prop where
  live : idx.isStaleLocked now = false ∧ idx.lastUpdate ≠ 0
  unexpired : c.cacheEntryTTL ≤ 0 ∨ sub now e.updatedAt ≤ c.cacheEntryTTL
  trusted : floor ≤ idx.confidenceLocked now

/-! ### Two readings of the headers -/

namespace PlaneConfig

variable {c : PlaneConfig}

theorem extractPrefixHeaders_eq {client : ClientRequest} {req : ProxyRequest}
    (hsame : SameHeaders client req) (henabled : c.cacheExplicitHeader = true)
    (hkey : client.prefixKey ≠ "") :
    c.proxy.extractPrefixHeaders req = extractPrefixFeatures c.sha256Hex client := by
  have hon : ¬ (c.proxy.cfg.explicitHeaderEnabled = false ∨ client.prefixKey = "") := by
    simp [proxy, henabled, hkey]
  simp only [Proxy.extractPrefixHeaders, hsame.prefixKey, hsame.prefixTokens, if_neg hon,
    extractPrefixFeatures, if_pos hkey]
  cases client.prefixTokens with
  | none => rfl
  | some n =>
    have hmax : c.proxy.cfg.maxPrefixTokens = 2 ^ 20 := rfl
    have hpos : (0 : ℤ) < 2 ^ 20 := by decide
    simp only [hmax, hpos, true_and]
    rfl

/-- What the sidecar observes for a request is under the router's key, and of the length that
the router reads as claimed. -/
theorem observation_eq {client : ClientRequest} {req : ProxyRequest}
    (hsame : SameHeaders client req) {body : ChatBody} {keyHash : String} {tok : ℤ}
    (h : c.observation req body = some (keyHash, tok)) :
    keyHash = (extractPrefixFeatures c.sha256Hex client).1 ∧
      (0 < (extractPrefixFeatures c.sha256Hex client).2 →
        tok = (extractPrefixFeatures c.sha256Hex client).2) := by
  by_cases hon : c.cacheExplicitHeader = true ∧ client.prefixKey ≠ ""
  · rw [observation, extractPrefixHeaders_eq hsame hon.1 hon.2] at h
    generalize extractPrefixFeatures c.sha256Hex client = features at h ⊢
    obtain ⟨key, claim⟩ := features
    simp only [Proxy.observeAtDispatch] at h ⊢
    generalize hn : (if claim ≤ 0 then (estimateInputTokens body : ℤ) else claim) = n at h
    by_cases hkey : c.proxy.cacheObs = true ∧ key ≠ ""
    · rw [if_pos hkey] at h
      by_cases hpos : 0 < n
      · rw [if_pos hpos] at h
        cases h
        exact ⟨rfl, fun hclaim => by rw [← hn, if_neg (not_le.mpr hclaim)]⟩
      · rw [if_neg hpos] at h
        cases h
    · rw [if_neg hkey] at h
      cases h
  · have hoff : c.proxy.cfg.explicitHeaderEnabled = false ∨ req.prefixKey = "" := by
      by_contra hneither
      rw [not_or, Bool.not_eq_false, hsame.prefixKey] at hneither
      exact hon hneither
    rw [observation, Proxy.extractPrefixHeaders, if_pos hoff] at h
    simp [Proxy.observeAtDispatch] at h

theorem newExplicitProvider_cfg (hmax : 0 < c.cacheIndexMax) (start : ℤ) :
    (newExplicitProvider c.indexConfig start).index.cfg = c.indexConfig := by
  have hne : c.indexConfig.maxEntries ≠ 0 := hmax.ne'
  have hpos : ¬ c.indexConfig.maxEntries ≤ 0 := not_le.mpr hmax
  rw [newExplicitProvider, if_neg hne, newIndex]
  simp only [if_neg hpos]

end PlaneConfig

/-! ### Every observation stays -/

/-- What the index holds as long as it does not have to evict. -/
structure CachePlane.Kept (c : PlaneConfig) (start : ℤ) (s : CachePlane) : Prop where
  cfg : ∀ p, s.provider.explicit? = some p →
    p.index.cfg = (newExplicitProvider c.indexConfig start).index.cfg
  present : ∀ p, s.provider.explicit? = some p →
    ∀ key e, p.index.entries.lookup key = some e → e.present = true
  kept : (s.recorded.length : ℤ) ≤ c.cacheIndexMax → ∀ p, s.provider.explicit? = some p →
    ∀ o ∈ s.recorded, ∃ e, p.index.entries.lookup o.keyHash = some e

namespace CachePlane

variable {c : PlaneConfig} {parseFloat : Text.Chars → Option ℚ} {start : ℤ} {s t : CachePlane}
  {a : PlaneAction}

theorem kept_init (c : PlaneConfig) (start : ℤ) : (c.init start).Kept c start := by
  have hnew : ∀ p, (c.init start).provider.explicit? = some p →
      p = newExplicitProvider c.indexConfig start := by
    intro p hp
    cases hmode : c.mode <;>
      simp only [PlaneConfig.init, hmode, newProvider, Provider.start, Provider.explicit?,
        Option.some.injEq, reduceCtorEq] at hp
    exact hp.symm
  refine ⟨fun p hp => by rw [hnew p hp], fun p hp key e he => ?_, fun _ p hp o ho => ?_⟩
  · rw [hnew p hp] at he
    cases he
  · cases ho

theorem Kept.quiet (h : s.Kept c start) (hquiet : s.Quiet t) : t.Kept c start where
  cfg q hq := by
    obtain ⟨p, hp, -, -, -, hcfg⟩ := hquiet.explicit q hq
    rw [hcfg]
    exact h.cfg p hp
  present q hq := by
    obtain ⟨p, hp, -, hentries, -, -⟩ := hquiet.explicit q hq
    rw [hentries]
    exact h.present p hp
  kept := by
    intro hroom q hq
    obtain ⟨p, hp, -, hentries, -, -⟩ := hquiet.explicit q hq
    rw [hquiet.recorded] at hroom ⊢
    rw [hentries]
    exact h.kept hroom p hp

/-- The index has at most one entry for each observation. -/
theorem Sound.length_keys_le (h : s.Sound c) {p : ExplicitProvider}
    (hp : s.provider.explicit? = some p) : p.index.entries.keys.length ≤ s.recorded.length := by
  have hsubset : p.index.entries.keys ⊆ s.recorded.map Observation.keyHash := by
    intro key hkey
    obtain ⟨e, he⟩ := Option.isSome_iff_exists.mp (AList.lookup_isSome.mpr hkey)
    obtain ⟨o, ho, -, -⟩ := h.latest p hp key e he
    have hname : o.keyHash = key := by simpa using List.find?_some ho
    exact List.mem_map.mpr ⟨o, List.mem_of_find?_eq_some ho, hname⟩
  calc p.index.entries.keys.length
      ≤ (s.recorded.map Observation.keyHash).length :=
        (List.subperm_of_subset p.index.entries.keys_nodup hsubset).length_le
    _ = s.recorded.length := List.length_map _

theorem Kept.apply (h : s.Kept c start) (hs : s.Sound c) {p : ExplicitProvider}
    {feed : ProviderFeed} (hprovider : s.provider = .explicit p feed) {i : ℕ} {o : Observation}
    (ho : s.pending[i]? = some o) (now : ℤ) (order : EntryOrder) :
    ({ s with
      provider := .explicit (p.applyObservation now order o) feed
      pending := s.pending.eraseIdx i
      recorded := o :: s.recorded
      sinceDown := o :: s.sinceDown } : CachePlane).Kept c start := by
  have hp : s.provider.explicit? = some p := by rw [hprovider]; rfl
  have hnew := hs.lastSeq_ne hp ho
  refine ⟨?_, ?_, ?_⟩
  · rintro q ⟨⟩
    rw [← h.cfg p hp]
    exact Index.call_cfg p.index (.store now order o.seq o.keyHash "" o.tokens 0)
  · rintro q ⟨⟩ key e he
    rcases Index.lookup_applyStore hnew he with ⟨-, rfl⟩ | ⟨-, hold⟩
    · exact Index.storedEntry_present _ _ _ _ _ _ _
    · exact h.present p hp key e hold
  · rintro hroom q ⟨⟩ o' ho'
    have hlength : ((s.recorded.length + 1 : ℕ) : ℤ) ≤ c.cacheIndexMax := hroom
    have hbelow : (p.index.entries.keys.length : ℤ) < p.index.cfg.maxEntries := by
      rw [h.cfg p hp, PlaneConfig.newExplicitProvider_cfg (by omega)]
      have hkeys := hs.length_keys_le hp
      have hmax : c.indexConfig.maxEntries = c.cacheIndexMax := rfl
      omega
    have hstored : ∀ k, (p.applyObservation now order o).index.entries.lookup k =
        if k = o.keyHash then
          some (Index.storedEntry (p.index.entries.lookup o.keyHash) now o.seq o.keyHash ""
            o.tokens 0)
        else p.index.entries.lookup k := Index.lookup_applyStore_of_room hnew hbelow
    rw [hstored]
    split
    · exact ⟨_, rfl⟩
    · rename_i hother
      rcases List.mem_cons.mp ho' with rfl | hold
      · exact absurd rfl hother
      · exact h.kept (by omega) p hp o' hold

/-- Every step keeps what was observed, as long as there is room. -/
theorem Kept.step (h : s.Kept c start) (hs : s.Sound c)
    (hstep : c.step parseFloat s a = some t) : t.Kept c start := by
  rcases PlaneConfig.step_cases hstep with hquiet |
    ⟨req, body, p, feed, o, -, hp, -, -, rfl⟩ | ⟨i, now, order, o, p, feed, ho, hp, rfl⟩ |
    ⟨-, -, rfl⟩ | ⟨up, -, -, rfl⟩ | ⟨now, -, rfl⟩
  · exact h.quiet hquiet
  · have hp' : s.provider.explicit? = some p := by rw [hp]; rfl
    refine ⟨?_, ?_, fun hroom => ?_⟩
    · rintro q ⟨⟩
      exact h.cfg p hp'
    · rintro q ⟨⟩
      exact h.present p hp'
    · rintro q ⟨⟩
      exact h.kept hroom p hp'
  · exact h.apply hs hp ho now order
  · exact ⟨h.cfg, h.present, h.kept⟩
  · exact ⟨h.cfg, h.present, h.kept⟩
  · refine ⟨fun q hq => ?_, fun q hq key e he => ?_, fun _ q hq o ho => ?_⟩
    · rw [Provider.explicit?_onRuntimeRestart, Option.map_eq_some_iff] at hq
      obtain ⟨p, hp, rfl⟩ := hq
      exact h.cfg p hp
    · rw [Provider.explicit?_onRuntimeRestart, Option.map_eq_some_iff] at hq
      obtain ⟨p, hp, rfl⟩ := hq
      cases he
    · cases ho

/-! ### What a repeated request is matched with -/

variable {as : List PlaneAction}

theorem kept_of_exec (h : exec (c.step parseFloat) (c.init start) as = some s) :
    s.Sound c ∧ s.Kept c start := by
  refine exec_invariant (P := fun s => s.Sound c ∧ s.Kept c start)
    ⟨sound_init c start, kept_init c start⟩ ?_ h
  exact fun _ _ _ hs ha => ⟨hs.1.step ha, hs.2.step hs.1 ha⟩

/-- The observation behind an entry comes from a request that was dispatched, under the router's
key; a claim of that request is what was observed. -/
theorem exists_claim (h : exec (c.step parseFloat) (c.init start) as = some s) {o : Observation}
    (ho : o ∈ s.recorded) :
    o.keyHash ≠ "" ∧ 0 < o.tokens ∧ ∃ req body, .dispatch req body ∈ as ∧
      ∀ client, SameHeaders client req →
        o.keyHash = (extractPrefixFeatures c.sha256Hex client).1 ∧
        (0 < (extractPrefixFeatures c.sha256Hex client).2 →
          o.tokens = (extractPrefixFeatures c.sha256Hex client).2) := by
  obtain ⟨req, body, hmem, hobs⟩ := exists_dispatch h o
    (List.mem_append_left _ (List.mem_append_right _ ho))
  obtain ⟨hkey, hpos⟩ := PlaneConfig.observation_pos hobs
  exact ⟨hkey, hpos, req, body, hmem, fun client hsame => PlaneConfig.observation_eq hsame hobs⟩

/-- The published directory lists an entry exactly as long as the index is live and the entry
has not expired. -/
theorem lookup_published (hs : s.Sound c) (hk : s.Kept c start) {p : ExplicitProvider}
    {feed : ProviderFeed} (hp : s.provider = .explicit p feed)
    (hroom : (s.recorded.length : ℤ) ≤ c.dirMax) (hmax : 0 < c.cacheIndexMax) {key : String}
    {e : IndexEntry} (he : p.index.entries.lookup key = some e) (now : ℤ) (order : EntryOrder) :
    (s.provider.buildPublicSnapshot now order c.dirMax).2.directory.lookup key =
      if (p.index.isStaleLocked now = false ∧ p.index.lastUpdate ≠ 0) ∧
          (c.cacheEntryTTL ≤ 0 ∨ sub now e.updatedAt ≤ c.cacheEntryTTL) then
        some e.matchedTokens
      else none := by
  have hp' : s.provider.explicit? = some p := by rw [hp]; rfl
  have hdoc : (s.provider.buildPublicSnapshot now order c.dirMax).2.directory =
      p.directory now order c.dirMax := by
    rw [hp]
    exact (p.buildPublicSnapshot_eq feed now order c.dirMax).2
  have hlength : (p.index.entries.keys.length : ℤ) ≤ c.dirMax := by
    have hkeys := hs.length_keys_le hp'
    omega
  have hfresh : p.index.fresh now e = true ↔
      c.cacheEntryTTL ≤ 0 ∨ sub now e.updatedAt ≤ c.cacheEntryTTL := by
    have hcfg : p.index.cfg = c.indexConfig := by
      rw [hk.cfg p hp', PlaneConfig.newExplicitProvider_cfg hmax]
    simp only [Index.fresh, hk.present p hp' key e he, hcfg, PlaneConfig.indexConfig,
      Bool.true_and, Bool.or_eq_true, decide_eq_true_eq]
  rw [hdoc, ExplicitProvider.directory]
  apply Option.ext
  intro tokens
  rw [p.index.lookup_directory now order hlength]
  split
  · rename_i hlive
    constructor
    · rintro ⟨-, e', he', -, rfl⟩
      rw [he, Option.some.injEq] at he'
      rw [he']
    · rintro ⟨⟩
      exact ⟨hlive.1, e, he, hfresh.mpr hlive.2, rfl⟩
  · rename_i hdead
    constructor
    · rintro ⟨hlive, e', he', hfresh', -⟩
      rw [he, Option.some.injEq] at he'
      subst he'
      exact absurd ⟨hlive, hfresh.mp hfresh'⟩ hdead
    · rintro ⟨⟩

/-- With room for every observation, the index holds the latest one of each key. -/
theorem exists_entry (hs : s.Sound c) (hk : s.Kept c start) {p : ExplicitProvider}
    (hp : s.provider.explicit? = some p) (hroom : (s.recorded.length : ℤ) ≤ c.cacheIndexMax)
    {key : String} {o : Observation}
    (ho : s.recorded.find? (fun o => o.keyHash == key) = some o) :
    ∃ e, p.index.entries.lookup key = some e ∧ e.matchedTokens = o.tokens := by
  have hname : o.keyHash = key := by simpa using List.find?_some ho
  obtain ⟨e, he⟩ := hk.kept hroom p hp o (List.mem_of_find?_eq_some ho)
  rw [hname] at he
  obtain ⟨o', ho', htokens, -⟩ := hs.latest p hp _ e he
  rw [ho, Option.some.injEq] at ho'
  exact ⟨e, he, by rw [← htokens, ho']⟩

/-- The router consults what it has polled for every request with a key, if it trusts the
index. -/
theorem consults_polled {p : ExplicitProvider} {feed : ProviderFeed}
    (hp : s.provider = .explicit p feed) (toInt : ℚ → ℤ) (prev : Counters) (polledAt : ℤ)
    (b : Backend) {r : Replies} {now : ℤ} {order : EntryOrder} {dirMax : ℤ}
    (hr : r.cache = some (s.provider.buildPublicSnapshot now order dirMax).2.toJson)
    (cfg : CacheAwareConfig) {sha256Hex : String → String} {client : ClientRequest}
    (hkey : (extractPrefixFeatures sha256Hex client).1 ≠ "") :
    cfg.consults (client.features sha256Hex) (polled toInt prev polledAt b r).state =
      decide (cfg.confidenceFloor ≤ p.index.confidenceLocked now) := by
  obtain ⟨-, -, hsupported, hconfidence, -⟩ := polled_cache toInt prev polledAt b hr
  rw [PublicSnapshot.member_supported, hp] at hsupported
  rw [PublicSnapshot.member_confidence, hp] at hconfidence
  replace hsupported : (polled toInt prev polledAt b r).state.cacheObservationSupported = true :=
    hsupported
  replace hconfidence : (polled toInt prev polledAt b r).state.cacheConfidence =
      p.index.confidenceLocked now :=
    hconfidence.trans (p.buildPublicSnapshot_eq feed now order dirMax).1
  have heligible : (client.features sha256Hex).cacheEligible = true := decide_eq_true hkey
  have hhash : (client.features sha256Hex).prefixKeyHash ≠ "" := hkey
  simp [CacheAwareConfig.consults, hsupported, hconfidence, heligible, hhash]

/-- In every interleaving of the cache plane in which no more observations were recorded since
the last reset than the index and the directory hold: at a backend of which the document of this
state was polled, a request with the key of an observation is matched with the latest one of its
key, cut to its claim and its length, if the entry counts at the time of the document, and with
nothing if not. The observation was made for a request that was dispatched with the same key;
what that claimed is what was observed. -/
theorem repeated_request_matched (h : exec (c.step parseFloat) (c.init start) as = some s)
    {p : ExplicitProvider} {feed : ProviderFeed} (hp : s.provider = .explicit p feed)
    (hroom : (s.recorded.length : ℤ) ≤ c.dirMax) {client : ClientRequest} {o : Observation}
    (ho : s.recorded.find?
      (fun o => o.keyHash == (extractPrefixFeatures c.sha256Hex client).1) = some o) :
    ∃ e, p.index.entries.lookup (extractPrefixFeatures c.sha256Hex client).1 = some e ∧
      (∃ req body, .dispatch req body ∈ as ∧ ∀ earlier, SameHeaders earlier req →
        (extractPrefixFeatures c.sha256Hex earlier).1 =
          (extractPrefixFeatures c.sha256Hex client).1 ∧
        (0 < (extractPrefixFeatures c.sha256Hex earlier).2 →
          o.tokens = (extractPrefixFeatures c.sha256Hex earlier).2)) ∧
      ∀ toInt : ℚ → ℤ, (∀ n : ℤ, toInt n = n) →
      ∀ prev polledAt b r now order, r.cache = some (c.cacheDocument s now order) →
      ∀ ps : List Polled, (ps.map fun p => p.state.id).Nodup → polled toInt prev polledAt b r ∈ ps →
      ∀ cfg : CacheAwareConfig,
        let req := client.features c.sha256Hex
        (Counts c p.index now e cfg.confidenceFloor →
          matchedAt cfg ps (polled toInt prev polledAt b r) req =
            cutTo req.inputLenEst (cutTo req.prefixTokens o.tokens)) ∧
        (¬ Counts c p.index now e cfg.confidenceFloor →
          matchedAt cfg ps (polled toInt prev polledAt b r) req = 0) := by
  obtain ⟨hsound, hkept⟩ := kept_of_exec h
  have hp' : s.provider.explicit? = some p := by rw [hp]; rfl
  have homem := List.mem_of_find?_eq_some ho
  have honame : o.keyHash = (extractPrefixFeatures c.sha256Hex client).1 := by
    simpa using List.find?_some ho
  obtain ⟨hnonempty, hpos, req', body', hdispatch, hclaim⟩ := exists_claim h homem
  have hrecorded : 0 < s.recorded.length := List.length_pos_of_mem homem
  have hmax : (s.recorded.length : ℤ) ≤ c.cacheIndexMax := by
    rw [PlaneConfig.dirMax] at hroom
    split at hroom
    · omega
    · exact hroom
  obtain ⟨e, he, htokens⟩ := exists_entry hsound hkept hp' hmax ho
  refine ⟨e, he, ⟨req', body', hdispatch, fun earlier hsame => ?_⟩, ?_⟩
  · obtain ⟨hname, htokens'⟩ := hclaim earlier hsame
    exact ⟨hname.symm.trans honame, htokens'⟩
  intro toInt htoInt prev polledAt b r now order hr ps hids hpolled cfg
  have hmode : c.mode ≠ .disabled := by
    rw [← hsound.mode, hp]
    intro hdisabled
    cases hdisabled
  have hkey : (client.features c.sha256Hex).prefixKeyHash =
      (extractPrefixFeatures c.sha256Hex client).1 := rfl
  rw [PlaneConfig.cacheDocument, if_neg hmode] at hr
  have hmatched := matched_eq_published htoInt prev polledAt b hids hpolled cfg
    (client.features c.sha256Hex) hr
  rw [hkey, lookup_published hsound hkept hp hroom (by omega) he now order] at hmatched
  rw [consults_polled hp toInt prev polledAt b hr cfg (honame ▸ hnonempty)] at hmatched
  refine ⟨fun hcounts => ?_, fun hnot => ?_⟩
  · rw [matchedAt, hmatched, if_pos (decide_eq_true hcounts.trusted),
      if_pos ⟨hcounts.live, hcounts.unexpired⟩, Option.getD_some, htokens, max_eq_right hpos.le]
  · rw [matchedAt, hmatched]
    split
    · rename_i htrusted
      rw [if_neg fun hlive => hnot ⟨hlive.1, hlive.2, of_decide_eq_true htrusted⟩]
      simp [cutTo_eq_zero_iff]
    · rfl

/-- A client's request with a prompt of 300 tokens, of which it claims more. -/
def clientRequest : ClientRequest := ⟨"new", some 512, none, some [1200], 0⟩

/-- A request that claims 512 tokens under a key, served once. -/
def servedOnce : List PlaneAction :=
  [.round (.checkHealth (some 200)), keyed "new", .apply 0 1000000000 (.stored _)]

/-- What the index holds after it, one second later. -/
def servedEntry (s : CachePlane) : Option (Bool × ℤ × ℚ × Option ℤ) :=
  s.provider.explicit?.map fun p =>
    (p.index.isStaleLocked 2000000000, p.index.lastUpdate, p.index.confidenceLocked 2000000000,
      (p.index.entries.lookup "new").map fun e => e.updatedAt)

/-- The same key again, with a prompt of 300 tokens, is matched with those. -/
theorem servedOnce_matched :
    ∃ s, exec (explicitPlane.step fun _ => none) (explicitPlane.init 0) servedOnce = some s ∧
      ∀ r : Replies, r.cache = some (explicitPlane.cacheDocument s 2000000000 (.stored _)) →
        matchedAt defaultCacheAwareConfig [polled Rat.floor ∅ 0 ⟨"a", "", "", ""⟩ r]
          (polled Rat.floor ∅ 0 ⟨"a", "", "", ""⟩ r) (clientRequest.features id) = 300 := by
  have hend : (exec (explicitPlane.step fun _ => none) (explicitPlane.init 0) servedOnce).map
      CachePlane.recorded = some [⟨1, "new", 512⟩] := by decide +kernel
  have hindex : (exec (explicitPlane.step fun _ => none) (explicitPlane.init 0) servedOnce).bind
      servedEntry = some (false, 1000000000, 29 / 30, some 1000000000) := by decide +kernel
  obtain ⟨s, hs, hrecorded⟩ := Option.map_eq_some_iff.mp hend
  rw [hs, Option.bind_some] at hindex
  refine ⟨s, hs, fun r hr => ?_⟩
  obtain ⟨p, hp, hentry⟩ := Option.map_eq_some_iff.mp hindex
  simp only [Prod.mk.injEq, Option.map_eq_some_iff] at hentry
  obtain ⟨hstale, hupdate, hconfidence, e', he', hupdated⟩ := hentry
  obtain ⟨feed, hprovider⟩ : ∃ feed, s.provider = .explicit p feed := by
    cases hprovider : s.provider with
    | explicit q feed =>
      rw [hprovider] at hp
      cases hp
      exact ⟨feed, rfl⟩
    | disabled =>
      rw [hprovider] at hp
      cases hp
    | vllmEvents q feed =>
      rw [hprovider] at hp
      cases hp
  have hroom : (s.recorded.length : ℤ) ≤ explicitPlane.dirMax := by
    rw [hrecorded]
    decide
  have hlatest : s.recorded.find? (fun o =>
      o.keyHash == (extractPrefixFeatures explicitPlane.sha256Hex clientRequest).1) =
        some ⟨1, "new", 512⟩ := by
    rw [hrecorded]
    decide
  obtain ⟨e, he, -, hmatched⟩ := repeated_request_matched hs hprovider hroom hlatest
  have hsame : e' = e := Option.some.inj (he'.symm.trans he)
  have hcounts : Counts explicitPlane p.index 2000000000 e
      defaultCacheAwareConfig.confidenceFloor := by
    refine ⟨⟨hstale, by rw [hupdate]; decide⟩, .inr ?_, ?_⟩
    · rw [← hsame, hupdated]
      decide
    · rw [hconfidence]
      decide +kernel
  exact (hmatched Rat.floor Rat.floor_intCast ∅ 0 ⟨"a", "", "", ""⟩ r 2000000000 (.stored _) hr
    [polled Rat.floor ∅ 0 ⟨"a", "", "", ""⟩ r] (List.nodup_singleton _) List.mem_cons_self
    defaultCacheAwareConfig).1 hcounts

end CachePlane

end GpuSidecar.Sidecar
