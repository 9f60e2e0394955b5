import GpuSidecar.Models.Cache.Freshness
import GpuSidecar.Models.Routing.Polling

/-!
# The router's matches and the provider's lookups

A sidecar publishes the directory of its explicit provider, the registry decodes it,
and the policy matches requests against it. The provider itself answers lookups from
the same index. This file follows the directory through the document, the poll and the
refresh, and says exactly when the two answers are the same number of tokens.
-/

namespace GpuSidecar.Routing

open Json Map

/-! ### The directory on its way -/

/-- The writes of a refresh: the directories that were published, by backend id. -/
def published (ps : List Polled) : List (String × PrefixTokens) :=
  ps.filterMap fun p => p.tokens.map fun tokens => (p.state.id, tokens)

theorem mem_published {ps : List Polled} {id : String} {tokens : PrefixTokens} :
    (id, tokens) ∈ published ps ↔ ∃ p ∈ ps, p.state.id = id ∧ p.tokens = some tokens := by
  simp only [published, List.mem_filterMap, Option.map_eq_some_iff, Prod.mk.injEq]
  constructor
  · rintro ⟨p, hp, tokens', htokens, hid, rfl⟩
    exact ⟨p, hp, hid, htokens⟩
  · rintro ⟨p, hp, hid, htokens⟩
    exact ⟨p, hp, tokens, htokens, hid, rfl⟩

theorem published_sublist (ps : List Polled) :
    ((published ps).map Prod.fst).Sublist (ps.map fun p => p.state.id) := by
  induction ps with
  | nil => exact List.Sublist.slnil
  | cons p ps ih =>
    cases htokens : p.tokens with
    | none =>
      rw [published, List.filterMap_cons_none (by rw [htokens]; rfl)]
      exact ih.cons _
    | some tokens =>
      rw [published, List.filterMap_cons_some (by rw [htokens]; rfl)]
      exact ih.cons_cons _

/-- Each backend's directory is found under its id. -/
theorem lookup_refreshOf {ps : List Polled} (hids : (ps.map fun p => p.state.id).Nodup) {p : Polled}
    (hp : p ∈ ps) : (refreshOf ps).directory.lookup p.state.id = p.tokens := by
  have hwrites : (refreshOf ps).directory = writeAll (published ps) := by
    rw [writeAll, published, List.foldl_filterMap]
    refine List.foldl_ext _ _ _ fun dir p _ => ?_
    cases p.tokens <;> rfl
  apply Option.ext
  intro tokens
  rw [hwrites, lookup_writeAll (hids.sublist (published_sublist ps)), mem_published]
  constructor
  · rintro ⟨q, hq, hid, htokens⟩
    rwa [← List.inj_on_of_nodup_map hids hq hp hid]
  · intro htokens
    exact ⟨p, hp, rfl, htokens⟩

/-- The decoded directory holds the entries of the published one. -/
theorem lookup_readDirectory {toInt : ℚ → ℤ} (htoInt : ∀ n : ℤ, toInt n = n)
    (s : Cache.PublicSnapshot) (key : String) :
    (readDirectory toInt s.toJson).bind (fun dir => dir.lookup key) = s.directory.lookup key := by
  by_cases hempty : s.directory.entries = []
  · have hnone : s.directory.lookup key = none := by
      rw [AList.lookup, hempty]
      rfl
    rw [readDirectory, s.member_directory_empty hempty, hnone]
    rfl
  · have hread : readDirectory toInt s.toJson =
        some (writeAll (s.directory.entries.map fun e => (e.1, e.2))) := by
      rw [readDirectory, s.member_directory hempty]
      simp only [obj?, List.isEmpty_map, List.isEmpty_iff, if_neg hempty, writeAll, List.foldl_map,
        intOf, num?, Option.map_some, Option.getD_some, htoInt]
    rw [hread, Option.bind_some]
    apply Option.ext
    intro tokens
    have hnodup : ((s.directory.entries.map fun e => (e.1, e.2)).map Prod.fst).Nodup := by
      rw [List.map_map]
      exact s.directory.nodupKeys
    rw [lookup_writeAll hnodup, List.mem_map, ← Option.mem_def, AList.mem_lookup_iff]
    constructor
    · rintro ⟨e, he, hpair⟩
      obtain ⟨rfl, rfl⟩ := Prod.ext_iff.mp hpair
      exact he
    · intro he
      exact ⟨⟨key, tokens⟩, he, rfl⟩

/-! ### The polled state -/

/-- The state of a backend under its name, with no prefix matched. -/
structure PolledState.Names (st : PolledState) (b : Backend) : Prop where
  id : st.id = b.id
  prefixMatchedTokens : st.prefixMatchedTokens = 0

/-- The headroom is all that is derived. -/
theorem deriveHeadroom_cache (st : PolledState) :
    (deriveHeadroom st).id = st.id ∧
      (deriveHeadroom st).prefixMatchedTokens = st.prefixMatchedTokens ∧
      (deriveHeadroom st).cacheObservationSupported = st.cacheObservationSupported ∧
      (deriveHeadroom st).cacheConfidence = st.cacheConfidence := by
  rw [deriveHeadroom]
  split <;> exact ⟨rfl, rfl, rfl, rfl⟩

/-- What a poll takes from the reply of the cache plane. -/
theorem polled_cache (toInt : ℚ → ℤ) (prev : Counters) (now : ℤ) (b : Backend) {r : Replies}
    {c : Object} (hc : r.cache = some c) :
    (polled toInt prev now b r).state.id = b.id ∧
      (polled toInt prev now b r).state.prefixMatchedTokens = 0 ∧
      (polled toInt prev now b r).state.cacheObservationSupported =
        (member c "supported").bool?.getD false ∧
      (polled toInt prev now b r).state.cacheConfidence = (member c "confidence").num?.getD 0 ∧
      (polled toInt prev now b r).tokens = readDirectory toInt c := by
  -- no endpoint renames the backend or matches a prefix
  have hnames : (PolledState.unknown b).Names b := ⟨rfl, rfl⟩
  have hreadyz := elim_rule (P := (·.Names b)) readReadyz hnames (fun _ _ h => ⟨h.1, h.2⟩) r.readyz
  have hstatus := elim_rule (P := (·.Names b)) readStatus hreadyz
    (fun m st h => by unfold readStatus; split <;> exact ⟨h.1, h.2⟩) r.status
  have hqueue := elim_rule (P := (·.Names b)) (readQueue toInt) hstatus
    (fun _ _ h => ⟨h.1, h.2⟩) r.queue
  have hcache : ∀ st : PolledState, r.cache.elim st (readCache toInt · st) = readCache toInt c st :=
    fun st => by rw [hc, Option.elim_some]
  have htokens : r.cache.bind (readDirectory toInt) = readDirectory toInt c := by
    rw [hc, Option.bind_some]
  simp only [polled, pollBackend, hcache, deriveHeadroom_cache, htokens]
  cases r.runtime with
  | none => exact ⟨hqueue.1, hqueue.2, rfl, rfl, trivial⟩
  | some rt => exact ⟨hqueue.1, hqueue.2, rfl, rfl, trivial⟩

/-! ### Agreement -/

section

variable {toInt : ℚ → ℤ} (htoInt : ∀ n : ℤ, toInt n = n)
  {provider : Cache.ExplicitProvider} (feed : Cache.ProviderFeed) (now : ℤ)
  (order : Cache.EntryOrder) (dirMax : ℤ)
  (prev : Counters) (polledAt : ℤ) (b : Backend) {r : Replies}
  (hr : r.cache = some (provider.buildPublicSnapshot feed now order dirMax).2.toJson)
  {ps : List Polled} (hids : (ps.map fun p => p.state.id).Nodup)
  (hp : polled toInt prev polledAt b r ∈ ps)

include htoInt hr hids hp

/-- The registry finds the tokens that the provider published for a key. -/
theorem lookupPrefixTokens_eq {key : String} (hkey : key ≠ "") :
    (refreshOf ps).directory.lookupPrefixTokens b.id key =
      ((provider.directory now order dirMax).lookup key).getD 0 := by
  obtain ⟨hid, -, -, -, htokens⟩ := polled_cache toInt prev polledAt b hr
  have hdir := lookup_readDirectory htoInt
    (provider.buildPublicSnapshot feed now order dirMax).2 key
  rw [← htokens, (provider.buildPublicSnapshot_eq feed now order dirMax).2] at hdir
  rw [Directory.lookupPrefixTokens, if_neg hkey, ← hid, lookup_refreshOf hids hp, ← hdir]
  cases (polled toInt prev polledAt b r).tokens <;> rfl

/-- What the policy matches for an eligible request at a confidence it accepts. -/
theorem matchedTokensFor_eq (h : provider.index.Recorded)
    (hmax : (provider.index.entries.keys.length : ℤ) ≤ dirMax) {cfg : CacheAwareConfig}
    (hfloor : cfg.confidenceFloor ≤ provider.index.confidenceLocked now) {req : RequestFeatures}
    (heligible : req.cacheEligible = decide (req.prefixKeyHash ≠ ""))
    (hinput : ∀ e, provider.index.entries.lookup req.prefixKeyHash = some e →
      e.matchedTokens ≤ req.inputLenEst) :
    (cfg.matchedTokensFor (refreshOf ps).directory.locator req
        (polled toInt prev polledAt b r).state).1 =
      match (provider.directory now order dirMax).lookup req.prefixKeyHash with
      | none => 0
      | some tokens =>
        if 0 < req.prefixTokens ∧ req.prefixTokens < tokens then req.prefixTokens else tokens := by
  obtain ⟨hid, hunmatched, hsup, hconf, -⟩ := polled_cache toInt prev polledAt b hr
  rw [Cache.PublicSnapshot.member_supported] at hsup
  rw [Cache.PublicSnapshot.member_confidence,
    (provider.buildPublicSnapshot_eq feed now order dirMax).1] at hconf
  have hlisted : ∀ tokens, (provider.directory now order dirMax).lookup req.prefixKeyHash =
      some tokens → req.prefixKeyHash ≠ "" ∧ 0 < tokens ∧ tokens ≤ req.inputLenEst := by
    intro tokens hfound
    obtain ⟨-, e, hlookup, -, rfl⟩ := (provider.index.lookup_directory now order hmax).mp hfound
    exact ⟨(h _ e hlookup).1, (h _ e hlookup).2, hinput e hlookup⟩
  replace hsup : (polled toInt prev polledAt b r).state.cacheObservationSupported = true := hsup
  replace hconf : (polled toInt prev polledAt b r).state.cacheConfidence =
      provider.index.confidenceLocked now := hconf
  have hconsults : cfg.consults req (polled toInt prev polledAt b r).state =
      decide (req.prefixKeyHash ≠ "") := by
    simp only [CacheAwareConfig.consults, hsup, hconf, hfloor, heligible, decide_true,
      Bool.true_and, Bool.and_self]
  rw [CacheAwareConfig.matchedTokensFor_eq, hconsults]
  by_cases hkey : req.prefixKeyHash = ""
  · simp only [hkey, ne_eq, not_true_eq_false, decide_false, Bool.false_eq_true, if_false]
    cases hfound : (provider.directory now order dirMax).lookup req.prefixKeyHash with
    | none => rfl
    | some tokens => exact absurd hkey (hlisted tokens hfound).1
  · have hfind := lookupPrefixTokens_eq htoInt feed now order dirMax prev polledAt b hr hids hp hkey
    rw [if_pos (decide_eq_true hkey)]
    simp only [resolvedTokens, Directory.locator, hid, hunmatched, hfind]
    cases hfound : (provider.directory now order dirMax).lookup req.prefixKeyHash with
    | none =>
      simp only [Option.getD_none, cutTo]
      omega
    | some tokens =>
      obtain ⟨-, hpos, hle⟩ := hlisted tokens hfound
      simp only [Option.getD_some, if_pos hpos, cutTo]
      omega

end

/-- An index that is not stale has a present entry under the key that has not expired. -/
def Holds (idx : Cache.Index) (now : ℤ) (key : String) : Prop :=
  idx.lastUpdate ≠ 0 ∧
    (idx.cfg.staleAfter ≤ 0 ∨ Time.sub now idx.lastUpdate ≤ idx.cfg.staleAfter) ∧
    ∃ e, idx.entries.lookup key = some e ∧ e.present = true ∧
      (idx.cfg.entryTTL ≤ 0 ∨ Time.sub now e.updatedAt ≤ idx.cfg.entryTTL)

/-- A large enough directory lists exactly the keys that the index holds. -/
theorem holds_iff_listed {idx : Cache.Index} {now : ℤ} (order : Cache.EntryOrder) {dirMax : ℤ}
    (hmax : (idx.entries.keys.length : ℤ) ≤ dirMax) (key : String) :
    Holds idx now key ↔ ∃ tokens, (idx.directory now order dirMax).lookup key = some tokens := by
  have hstale : idx.lastUpdate ≠ 0 → (idx.isStaleLocked now = false ↔
      idx.cfg.staleAfter ≤ 0 ∨ Time.sub now idx.lastUpdate ≤ idx.cfg.staleAfter) := by
    intro hzero
    by_cases hwindow : 0 < idx.cfg.staleAfter
    · rw [← Bool.not_eq_true, Cache.Index.isStaleLocked_iff hwindow hzero]
      omega
    · rw [Cache.Index.isStaleLocked, if_pos (not_lt.mp hwindow)]
      simp [not_lt.mp hwindow]
  have hfresh : ∀ e, idx.fresh now e = true ↔ e.present = true ∧
      (idx.cfg.entryTTL ≤ 0 ∨ Time.sub now e.updatedAt ≤ idx.cfg.entryTTL) := by
    intro e
    simp [Cache.Index.fresh]
  constructor
  · rintro ⟨hzero, hage, e, hlookup, hentry⟩
    exact ⟨e.matchedTokens, (idx.lookup_directory now order hmax).mpr
      ⟨⟨(hstale hzero).mpr hage, hzero⟩, e, hlookup, (hfresh e).mpr hentry, rfl⟩⟩
  · rintro ⟨tokens, hlisted⟩
    obtain ⟨⟨hage, hzero⟩, e, hlookup, hentry, -⟩ :=
      (idx.lookup_directory now order hmax).mp hlisted
    exact ⟨hzero, (hstale hzero).mp hage, e, hlookup, (hfresh e).mp hentry⟩

/-- In every state that observations and restarts lead to, at every time at which the policy
accepts the confidence, a request is matched for as many tokens as a lookup finds, if and only
if it claims a prefix and the last event is younger than the stale limit, wherever the index
holds its key. -/
theorem matchedTokens_eq_lookup_iff {toInt : ℚ → ℤ} (htoInt : ∀ n : ℤ, toInt n = n)
    {icfg : Cache.IndexConfig} {start : ℤ} {acts : List Cache.ExplicitAction}
    {s : Cache.ExplicitSystem}
    (hrun : Run.exec Cache.ExplicitSystem.step (.init icfg start) acts = some s)
    (feed : Cache.ProviderFeed) (now : ℤ) (order : Cache.EntryOrder) (dirMax : ℤ)
    (hmax : (s.provider.index.entries.keys.length : ℤ) ≤ dirMax)
    (prev : Counters) (polledAt : ℤ) (b : Backend) {r : Replies}
    (hr : r.cache = some (s.provider.buildPublicSnapshot feed now order dirMax).2.toJson)
    (ps : List Polled) (hids : (ps.map fun p => p.state.id).Nodup)
    (hp : polled toInt prev polledAt b r ∈ ps) (cfg : CacheAwareConfig)
    (hfloor : cfg.confidenceFloor ≤ s.provider.index.confidenceLocked now) (req : RequestFeatures)
    (heligible : req.cacheEligible = decide (req.prefixKeyHash ≠ ""))
    (ht : 0 ≤ req.prefixTokens)
    (hinput : ∀ e, s.provider.index.entries.lookup req.prefixKeyHash = some e →
      e.matchedTokens ≤ req.inputLenEst) :
    (cfg.matchedTokensFor (refreshOf ps).directory.locator req
        (polled toInt prev polledAt b r).state).1 =
      (s.provider.lookup now ⟨req.prefixKeyHash, req.prefixTokens⟩).matchedPrefixTokens ↔
    (Holds s.provider.index now req.prefixKeyHash → 0 < req.prefixTokens ∧
      (s.provider.index.cfg.staleAfter ≤ 0 ∨
        Time.sub now s.provider.index.lastUpdate < s.provider.index.cfg.staleAfter)) := by
  have hrecorded := (Cache.ExplicitSystem.recorded_run hrun).index
  rw [holds_iff_listed order hmax, matchedTokensFor_eq htoInt feed now order dirMax prev polledAt b
    hr hids hp hrecorded hmax hfloor heligible hinput,
    Cache.ExplicitProvider.lookup_matchedPrefixTokens hrecorded now order hmax]
  cases hfound : (s.provider.directory now order dirMax).lookup req.prefixKeyHash with
  | none =>
    have hunlisted : (s.provider.index.directory now order dirMax).lookup req.prefixKeyHash =
        none := hfound
    simp [hunlisted]
  | some tokens =>
    obtain ⟨⟨-, hzero⟩, e, hlookup, -, rfl⟩ :=
      (s.provider.index.lookup_directory now order hmax).mp hfound
    have hpos := (hrecorded _ e hlookup).2
    have hyoung := (s.provider.index.confidenceLocked_pos_iff now).trans (and_iff_right hzero)
    rw [forall_prop_of_true ⟨_, hfound⟩, ← hyoung]
    simp only
    by_cases hconf : s.provider.index.confidenceLocked now ≤ 0
    · rw [if_pos hconf]
      refine iff_of_false ?_ fun h => absurd h.2 (not_lt.mpr hconf)
      omega
    · rw [if_neg hconf, and_iff_left (not_le.mp hconf)]
      omega

/-- A provider that has served one prefix of 512 tokens. -/
def warmSystem : Cache.ExplicitSystem where
  provider := ((Cache.newExplicitProvider Cache.defaultIndexConfig 0).takeSeq "k" 512).1
    |>.applyObservation 1000000000 (.stored _) ⟨1, "k", 512⟩
  pending := []
  applied := [1]

/-- The replies of its host, one second later. -/
def warmReplies : Replies where
  readyz := none
  status := none
  queue := none
  runtime := none
  cache := some (warmSystem.provider.buildPublicSnapshot ⟨0, false, true⟩ 2000000000 (.stored _)
    4096).2.toJson

def warmPolled : Polled := polled Rat.floor ∅ 0 ⟨"a", "", "", ""⟩ warmReplies

/-- A request under the recorded key, with a claimed prefix. -/
def warmRequest (claimed : ℤ) : RequestFeatures := ⟨false, 600, 0, "k", claimed, true⟩

/-- A request that claims half of the recorded prefix is matched for it by both. -/
theorem warmRequest_agrees :
    (defaultCacheAwareConfig.matchedTokensFor (refreshOf [warmPolled]).directory.locator
        (warmRequest 256) warmPolled.state).1 =
      (warmSystem.provider.lookup 2000000000 ⟨"k", 256⟩).matchedPrefixTokens := by
  have hrun : Run.exec Cache.ExplicitSystem.step (.init Cache.defaultIndexConfig 0)
      [.observe "k" 512, .apply 0 1000000000 (.stored _)] = some warmSystem := rfl
  have hentry : warmSystem.provider.index.entries.lookup "k" =
      some ⟨"k", "", 512, 0, true, 1, 1000000000⟩ := by decide +kernel
  refine (matchedTokens_eq_lookup_iff (r := warmReplies) Rat.floor_intCast hrun ⟨0, false, true⟩
    2000000000 (.stored _) 4096 (by decide +kernel) ∅ 0 ⟨"a", "", "", ""⟩ rfl [warmPolled]
    (List.nodup_singleton _) List.mem_cons_self defaultCacheAwareConfig (by decide +kernel)
    (warmRequest 256) rfl (by decide) ?_).mpr ?_
  · intro e he
    cases hentry.symm.trans he
    decide
  · intro _
    decide +kernel

/-- A request under the same key that claims no prefix is matched for all that was recorded,
while a lookup finds nothing for it. -/
theorem warmRequest_unclaimed_differs :
    defaultCacheAwareConfig.confidenceFloor ≤
        warmSystem.provider.index.confidenceLocked 2000000000 ∧
      (defaultCacheAwareConfig.matchedTokensFor (refreshOf [warmPolled]).directory.locator
        (warmRequest 0) warmPolled.state).1 = 512 ∧
      (warmSystem.provider.lookup 2000000000 ⟨"k", 0⟩).matchedPrefixTokens = 0 := by
  decide +kernel

end GpuSidecar.Routing
