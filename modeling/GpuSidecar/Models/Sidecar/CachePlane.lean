import GpuSidecar.Models.Cache.Provider
import GpuSidecar.Models.Dataplane.Proxy
import GpuSidecar.Models.Routing.Agreement
import GpuSidecar.Models.Routing.Prompt

/-!
# The cache plane of a sidecar

The wiring of the cache plane in `cmd/sidecar/main.go`: the proxy reports the prefixes that it
dispatches to the explicit provider, `/v1/cache` publishes what the provider has recorded, and a
loop of its own feeds the headroom and watches the runtime. A runtime that comes back has lost
its cache, so the loop then resets the provider. The requests, the loops of the runtime adapter,
the readers of `/v1/cache` and the watching loop interleave in any order.

The loop only knows the health that it reads, once in a round. What it guarantees is that after
a round that found the runtime up, no prefix is published that was recorded before the last
round that found it down; and what is not published, the router does not match.
-/

namespace GpuSidecar.Sidecar

open Run Cache Routing Dataplane Json

/-- The flags of the cache plane, and the hash of prefix keys. -/
structure PlaneConfig where
  mode : Mode
  cacheIndexMax : ℤ
  cacheEntryTTL : ℤ
  cacheStaleAfter : ℤ
  cacheExplicitHeader : Bool
  sha256Hex : String → String

/-- Where the watching loop is in its round. -/
inductive Watch where
  | waiting
  /-- It has taken a snapshot of the runtime's metrics, of which it reads one. -/
  | feeding (kvCacheUtil : Runtime.Field ℚ)
  | checking
  /-- It has read that the runtime is up again. -/
  | restarting

def Watch.isRestarting : Watch → Bool
  | .restarting => true
  | _ => false

structure CachePlane where
  adapter : Runtime.Adapter
  provider : Provider
  /-- The calls of `Observe` that hold a number and have not applied it yet. -/
  pending : List Observation
  watch : Watch
  lastUp : Bool
  -- the last three are not kept by the program, and have the latest first
  /-- The observations that were applied since the provider was last reset. -/
  recorded : List Observation
  /-- The observations that were applied since the loop last read that the runtime is down. -/
  sinceDown : List Observation
  /-- The health that the loop has read. -/
  readings : List Bool

inductive PlaneAction where
  /-- A round of one of the runtime adapter's loops. -/
  | round (r : Runtime.AdapterRound)
  /-- The proxy dispatches a request, and its observation takes a number. -/
  | dispatch (req : ProxyRequest) (body : ChatBody)
  /-- A pending observation is applied. -/
  | apply (i : ℕ) (now : ℤ) (order : EntryOrder)
  /-- A transport delivers a block event. -/
  | ingest (now : ℤ) (order : EntryOrder) (ev : BlockEvent)
  /-- The next step of the watching loop. -/
  | watch (now : ℤ)
  /-- A reader takes a snapshot, which counts invalidations. -/
  | snapshot (now : ℤ)

namespace PlaneConfig

variable (c : PlaneConfig)

def indexConfig : IndexConfig := ⟨c.cacheIndexMax, c.cacheEntryTTL, c.cacheStaleAfter⟩

/-- The proxy as it is wired: it observes for the explicit provider only. -/
def proxy : Proxy where
  cfg := { defaultProxyConfig with explicitHeaderEnabled := c.cacheExplicitHeader }
  sha256Hex := c.sha256Hex
  cacheObs := c.mode = .explicit
  work := c.mode ≠ .disabled

/-- The bound of the published directory. -/
def dirMax : ℤ := if 4096 < c.cacheIndexMax then 4096 else c.cacheIndexMax

/-- The key and the tokens that the proxy observes for a request that it dispatches. -/
def observation (req : ProxyRequest) (body : ChatBody) : Option (String × ℤ) :=
  let (keyHash, tokens) := c.proxy.extractPrefixHeaders req
  match c.proxy.observeAtDispatch keyHash tokens (estimateInputTokens body) with
  | [.observe keyHash tok] => some (keyHash, tok)
  | _ => none

def init (start : ℤ) : CachePlane where
  adapter := .new start
  provider := (newProvider c.mode c.indexConfig start).start
  pending := []
  watch := .waiting
  lastUp := true
  recorded := []
  sinceDown := []
  readings := []

/-- The next step of the watching loop, which only runs if there is a provider to watch for. -/
def watchStep (s : CachePlane) (now : ℤ) : Option CachePlane :=
  match s.watch with
  | .waiting =>
    if c.mode = .disabled then none
    else some { s with watch := .feeding (s.adapter.snapshot now).kvCacheUtil }
  | .feeding util => some
    { s with
      provider := if util.supported then s.provider.setKVHeadroom (1 - util.value) true
        else s.provider.setKVHeadroom 0 false
      watch := .checking }
  | .checking =>
    let up := s.adapter.healthy
    if up && !s.lastUp then some
      { s with watch := .restarting, readings := up :: s.readings }
    else some
      { s with
        lastUp := up
        watch := .waiting
        sinceDown := if up then s.sinceDown else []
        readings := up :: s.readings }
  | .restarting => some
    { s with
      provider := s.provider.onRuntimeRestart now
      lastUp := true
      watch := .waiting
      recorded := [] }

def step (parseFloat : Text.Chars → Option ℚ) (s : CachePlane) : PlaneAction → Option CachePlane
  | .round r => some { s with adapter := s.adapter.round parseFloat r }
  | .dispatch req body =>
    match c.observation req body, s.provider with
    | some (keyHash, tok), .explicit p feed =>
      match p.takeSeq keyHash tok with
      | (p, none) => some { s with provider := .explicit p feed }
      | (p, some o) => some { s with provider := .explicit p feed, pending := s.pending ++ [o] }
    | _, _ => some s
  | .apply i now order =>
    match s.pending[i]?, s.provider with
    | some o, .explicit p feed => some
      { s with
        provider := .explicit (p.applyObservation now order o) feed
        pending := s.pending.eraseIdx i
        recorded := o :: s.recorded
        sinceDown := o :: s.sinceDown }
    | _, _ => none
  | .ingest now order ev =>
    match s.provider with
    | .vllmEvents p feed => some { s with provider := .vllmEvents (p.ingest now order ev) feed }
    | _ => none
  | .watch now => c.watchStep s now
  | .snapshot now => some { s with provider := (s.provider.snapshot now).1 }

/-- The reply of `/v1/cache`. The snapshot and the directory in it are taken one after the other
in the source, here with nothing in between. -/
def cacheDocument (s : CachePlane) (now : ℤ) (order : EntryOrder) : Object :=
  if c.mode = .disabled then
    [("enabled", .bool false), ("provider", .str "disabled"), ("supported", .bool false),
      ("match_supported", .bool false), ("ready", .bool false), ("confidence", .num 0)]
  else (s.provider.buildPublicSnapshot now order c.dirMax).2.toJson

end PlaneConfig

/-! ### What the provider has recorded -/

/-- The number of times that the runtime was read to be up after it was read to be down; the
loop starts as if it had been up. -/
def restarts : List Bool → ℕ
  | [] => 0
  | up :: before => restarts before + if up && !before.headD true then 1 else 0

/-- The steps that neither record nor read nor reset anything. -/
structure CachePlane.Quiet (s t : CachePlane) : Prop where
  mode : t.provider.mode = s.provider.mode
  explicit : ∀ q, t.provider.explicit? = some q → ∃ p, s.provider.explicit? = some p ∧
    q.seq = p.seq ∧ q.index.entries = p.index.entries ∧ q.index.resets = p.index.resets ∧
    q.index.cfg = p.index.cfg
  pending : t.pending = s.pending
  isRestarting : t.watch.isRestarting = s.watch.isRestarting
  lastUp : t.lastUp = s.lastUp
  recorded : t.recorded = s.recorded
  sinceDown : t.sinceDown = s.sinceDown
  readings : t.readings = s.readings

/-- A step that changes none of these fields, nor the provider, is quiet. -/
theorem CachePlane.Quiet.of_provider {s t : CachePlane} (hprovider : t.provider = s.provider)
    (hpending : t.pending = s.pending) (hwatch : t.watch.isRestarting = s.watch.isRestarting)
    (hup : t.lastUp = s.lastUp) (hrecorded : t.recorded = s.recorded)
    (hdown : t.sinceDown = s.sinceDown) (hread : t.readings = s.readings) : s.Quiet t where
  mode := by rw [hprovider]
  explicit q hq := ⟨q, hprovider ▸ hq, rfl, rfl, rfl, rfl⟩
  pending := hpending
  isRestarting := hwatch
  lastUp := hup
  recorded := hrecorded
  sinceDown := hdown
  readings := hread

namespace PlaneConfig

variable {c : PlaneConfig} {parseFloat : Text.Chars → Option ℚ} {s t : CachePlane}
  {a : PlaneAction}

/-- An observation names a key and a positive number of tokens. -/
theorem observation_pos {req : ProxyRequest} {body : ChatBody} {keyHash : String} {tok : ℤ}
    (h : c.observation req body = some (keyHash, tok)) : keyHash ≠ "" ∧ 0 < tok := by
  rw [observation] at h
  generalize c.proxy.extractPrefixHeaders req = headers at h
  obtain ⟨key, tokens⟩ := headers
  simp only [Proxy.observeAtDispatch] at h
  generalize (if tokens ≤ 0 then (estimateInputTokens body : ℤ) else tokens) = n at h
  by_cases hkey : c.proxy.cacheObs = true ∧ key ≠ ""
  · rw [if_pos hkey] at h
    by_cases hpos : 0 < n
    · rw [if_pos hpos] at h
      cases h
      exact ⟨hkey.2, hpos⟩
    · rw [if_neg hpos] at h
      cases h
  · rw [if_neg hkey] at h
    cases h

/-- What one step can do. -/
theorem step_cases (h : c.step parseFloat s a = some t) :
    s.Quiet t ∨
    (∃ req body p feed o, a = .dispatch req body ∧ s.provider = .explicit p feed ∧
      c.observation req body = some (o.keyHash, o.tokens) ∧ o.seq = p.seq + 1 ∧
      t = { s with
        provider := .explicit { p with seq := p.seq + 1 } feed, pending := s.pending ++ [o] }) ∨
    (∃ i now order o p feed, s.pending[i]? = some o ∧ s.provider = .explicit p feed ∧
      t = { s with
        provider := .explicit (p.applyObservation now order o) feed
        pending := s.pending.eraseIdx i
        recorded := o :: s.recorded
        sinceDown := o :: s.sinceDown }) ∨
    (s.watch = .checking ∧ s.lastUp = false ∧
      t = { s with watch := .restarting, readings := true :: s.readings }) ∨
    (∃ up, s.watch = .checking ∧ (up = true → s.lastUp = true) ∧
      t = { s with
        lastUp := up
        watch := .waiting
        sinceDown := if up then s.sinceDown else []
        readings := up :: s.readings }) ∨
    (∃ now, s.watch = .restarting ∧
      t = { s with
        provider := s.provider.onRuntimeRestart now
        lastUp := true
        watch := .waiting
        recorded := [] }) := by
  cases a with
  | round r =>
    cases h
    exact .inl (.of_provider rfl rfl rfl rfl rfl rfl rfl)
  | dispatch req body =>
    simp only [step] at h
    split at h
    · rename_i keyHash tok p feed hobs hprovider
      obtain ⟨hkey, hpos⟩ := observation_pos hobs
      have hkeep : ¬ (keyHash = "" ∨ tok ≤ 0) := fun h =>
        h.elim hkey fun hle => absurd hpos (not_lt.mpr hle)
      simp only [ExplicitProvider.takeSeq, if_neg hkeep, Option.some.injEq] at h
      exact .inr (.inl ⟨req, body, p, feed, ⟨p.seq + 1, keyHash, tok⟩, rfl, hprovider, hobs, rfl,
        h.symm⟩)
    · cases h
      exact .inl (.of_provider rfl rfl rfl rfl rfl rfl rfl)
  | apply i now order =>
    simp only [step] at h
    split at h
    · rename_i o p feed ho hprovider
      cases h
      exact .inr (.inr (.inl ⟨i, now, order, o, p, feed, ho, hprovider, rfl⟩))
    · cases h
  | ingest now order ev =>
    simp only [step] at h
    split at h
    · rename_i p feed hprovider
      cases h
      refine .inl ⟨by rw [hprovider]; rfl, ?_, rfl, rfl, rfl, rfl, rfl, rfl⟩
      rintro q ⟨⟩
    · cases h
  | watch now =>
    simp only [step, watchStep] at h
    split at h
    · rename_i hwatch
      simp only [Option.ite_none_left_eq_some, Option.some.injEq] at h
      obtain ⟨-, rfl⟩ := h
      exact .inl (.of_provider rfl rfl (by rw [hwatch]; rfl) rfl rfl rfl rfl)
    · rename_i util hwatch
      cases h
      refine .inl ⟨?_, fun q hq => ?_, rfl, by rw [hwatch]; rfl, rfl, rfl, rfl, rfl⟩
      · simp only
        split <;> simp
      · refine ⟨q, ?_, rfl, rfl, rfl, rfl⟩
        simp only at hq
        split at hq <;> simpa using hq
    · rename_i hwatch
      right; right; right
      split at h
      · rename_i hback
        cases h
        simp only [Bool.and_eq_true, Bool.not_eq_true'] at hback
        exact .inl ⟨hwatch, hback.2, by rw [hback.1]⟩
      · rename_i hsame
        cases h
        refine .inr (.inl ⟨s.adapter.healthy, hwatch, fun hup => ?_, rfl⟩)
        simpa [hup] using hsame
    · rename_i hwatch
      cases h
      exact .inr (.inr (.inr (.inr (.inr ⟨now, hwatch, rfl⟩))))
  | snapshot now =>
    cases h
    refine .inl ⟨by simp, ?_, rfl, rfl, rfl, rfl, rfl, rfl⟩
    intro q hq
    cases hprovider : s.provider with
    | disabled => simp [hprovider, Provider.snapshot, Provider.explicit?] at hq
    | vllmEvents p feed => simp [hprovider, Provider.snapshot, Provider.explicit?] at hq
    | explicit p feed =>
      simp only [hprovider, Provider.snapshot, Provider.explicit?, Option.some.injEq] at hq
      subst hq
      refine ⟨p, rfl, rfl, p.snapshot_entries feed now, ?_⟩
      simp only [ExplicitProvider.snapshot, Index.snapshotMeta, Index.snapshotMetaAt]
      split <;> exact ⟨rfl, rfl⟩

end PlaneConfig

/-- What holds of a cache plane at any time. -/
structure CachePlane.Sound (c : PlaneConfig) (s : CachePlane) : Prop where
  mode : s.provider.mode = c.mode
  seqs : ((s.recorded ++ s.pending).map Observation.seq).Nodup
  taken : ∀ p, s.provider.explicit? = some p → ∀ o ∈ s.recorded ++ s.pending, o.seq ≤ p.seq
  positive : ∀ o ∈ s.pending, 0 < o.tokens
  /-- An entry is what the last observation of its key has left. -/
  latest : ∀ p, s.provider.explicit? = some p → ∀ key e, p.index.entries.lookup key = some e →
    ∃ o, s.recorded.find? (fun o => o.keyHash == key) = some o ∧ o.tokens = e.matchedTokens ∧
      o.seq = e.lastSeq
  since : s.lastUp = true → s.recorded <+: s.sinceDown
  reads : s.readings.headD true = (s.lastUp || s.watch.isRestarting)
  down : s.watch.isRestarting = true → s.lastUp = false
  resets : ∀ p, s.provider.explicit? = some p →
    p.index.resets + (if s.watch.isRestarting then 1 else 0) = restarts s.readings

namespace CachePlane

variable {c : PlaneConfig} {parseFloat : Text.Chars → Option ℚ} {s t : CachePlane}
  {a : PlaneAction}

theorem sound_init (c : PlaneConfig) (start : ℤ) : (c.init start).Sound c where
  mode := by simp [PlaneConfig.init]
  seqs := List.nodup_nil
  taken p _ o ho := by cases ho
  positive o ho := by cases ho
  latest p hp key e he := by
    cases hmode : c.mode <;>
      simp only [PlaneConfig.init, hmode, newProvider, Provider.start, Provider.explicit?,
        Option.some.injEq, reduceCtorEq] at hp
    subst hp
    cases he
  since _ := List.nil_prefix
  reads := rfl
  down h := by cases h
  resets p hp := by
    cases hmode : c.mode <;>
      simp only [PlaneConfig.init, hmode, newProvider, Provider.start, Provider.explicit?,
        Option.some.injEq, reduceCtorEq] at hp
    subst hp
    rfl

theorem Sound.quiet (h : s.Sound c) (hquiet : s.Quiet t) : t.Sound c where
  mode := hquiet.mode.trans h.mode
  seqs := by
    rw [hquiet.recorded, hquiet.pending]
    exact h.seqs
  taken q hq o ho := by
    obtain ⟨p, hp, hseq, -, -, -⟩ := hquiet.explicit q hq
    rw [hquiet.recorded, hquiet.pending] at ho
    rw [hseq]
    exact h.taken p hp o ho
  positive := by
    rw [hquiet.pending]
    exact h.positive
  latest q hq key e he := by
    obtain ⟨p, hp, -, hentries, -, -⟩ := hquiet.explicit q hq
    rw [hentries] at he
    rw [hquiet.recorded]
    exact h.latest p hp key e he
  since := by
    rw [hquiet.lastUp, hquiet.recorded, hquiet.sinceDown]
    exact h.since
  reads := by
    rw [hquiet.readings, hquiet.lastUp, hquiet.isRestarting]
    exact h.reads
  down := by
    rw [hquiet.isRestarting, hquiet.lastUp]
    exact h.down
  resets q hq := by
    obtain ⟨p, hp, -, -, hresets, -⟩ := hquiet.explicit q hq
    rw [hresets, hquiet.isRestarting, hquiet.readings]
    exact h.resets p hp

/-- An observation takes a number that no other has. -/
theorem Sound.dispatch (h : s.Sound c) {p : ExplicitProvider} {feed : ProviderFeed}
    (hprovider : s.provider = .explicit p feed) {o : Observation} (hseq : o.seq = p.seq + 1)
    (hpos : 0 < o.tokens) :
    ({ s with
      provider := .explicit { p with seq := p.seq + 1 } feed
      pending := s.pending ++ [o] } : CachePlane).Sound c := by
  have hp : s.provider.explicit? = some p := by rw [hprovider]; rfl
  have htaken := h.taken p hp
  refine ⟨by rw [← h.mode, hprovider]; rfl, ?_, ?_, ?_, ?_, h.since, h.reads, h.down, ?_⟩
  · rw [← List.append_assoc, List.map_append, List.map_singleton]
    refine List.nodup_append.mpr ⟨h.seqs, List.nodup_singleton _, ?_⟩
    rintro n hn m hm rfl
    obtain ⟨o', ho', rfl⟩ := List.mem_map.mp hn
    rw [List.mem_singleton] at hm
    have := htaken o' ho'
    omega
  · rintro q ⟨⟩ o' ho'
    rw [← List.append_assoc] at ho'
    rcases List.mem_append.mp ho' with ho' | ho'
    · have := htaken o' ho'
      simp only
      omega
    · rw [List.mem_singleton] at ho'
      simp only [ho', hseq, le_refl]
  · intro o' ho'
    rcases List.mem_append.mp ho' with ho' | ho'
    · exact h.positive o' ho'
    · rw [List.mem_singleton] at ho'
      rwa [ho']
  · rintro q ⟨⟩
    exact h.latest p hp
  · rintro q ⟨⟩
    exact h.resets p hp

/-- The observations that are applied and pending, when a pending one is applied. -/
theorem perm_apply {i : ℕ} {o : Observation} (ho : s.pending[i]? = some o) :
    (o :: s.recorded ++ s.pending.eraseIdx i).Perm (s.recorded ++ s.pending) := by
  obtain ⟨hi, hget⟩ := List.getElem?_eq_some_iff.mp ho
  rw [List.cons_append]
  refine List.perm_middle.symm.trans (List.Perm.append_left _ ?_)
  rw [← hget]
  exact List.getElem_cons_eraseIdx_perm hi

/-- No entry has the number of a pending observation. -/
theorem Sound.lastSeq_ne (h : s.Sound c) {p : ExplicitProvider}
    (hp : s.provider.explicit? = some p) {i : ℕ} {o : Observation} (ho : s.pending[i]? = some o) :
    ∀ e, p.index.entries.lookup o.keyHash = some e → e.lastSeq ≠ o.seq := by
  intro e he heq
  obtain ⟨o', ho', -, hseq⟩ := h.latest p hp _ e he
  have hnodup := ((perm_apply ho).map Observation.seq).nodup_iff.mpr h.seqs
  rw [List.cons_append, List.map_cons, List.nodup_cons] at hnodup
  refine hnodup.1 (List.mem_map.mpr ⟨o', ?_, hseq.trans heq⟩)
  exact List.mem_append_left _ (List.mem_of_find?_eq_some ho')

/-- An observation that is applied is the last one of its key. -/
theorem Sound.apply (h : s.Sound c) {p : ExplicitProvider} {feed : ProviderFeed}
    (hprovider : s.provider = .explicit p feed) {i : ℕ} {o : Observation}
    (ho : s.pending[i]? = some o) (now : ℤ) (order : EntryOrder) :
    ({ s with
      provider := .explicit (p.applyObservation now order o) feed
      pending := s.pending.eraseIdx i
      recorded := o :: s.recorded
      sinceDown := o :: s.sinceDown } : CachePlane).Sound c := by
  have hp : s.provider.explicit? = some p := by rw [hprovider]; rfl
  have hnodup := ((perm_apply ho).map Observation.seq).nodup_iff.mpr h.seqs
  refine ⟨by rw [← h.mode, hprovider]; rfl, hnodup, ?_, ?_, ?_, ?_, h.reads, h.down, ?_⟩
  · rintro q ⟨⟩ o' ho'
    exact h.taken p hp o' ((perm_apply ho).subset ho')
  · exact fun o' ho' => h.positive o' (List.mem_of_mem_eraseIdx ho')
  · rintro q ⟨⟩ key e he
    rcases Index.lookup_applyStore (h.lastSeq_ne hp ho) he with ⟨rfl, rfl⟩ | ⟨hkey, hold⟩
    · refine ⟨o, List.find?_cons_of_pos (beq_self_eq_true _), ?_, ?_⟩
      · have hpos := h.positive o (List.mem_of_getElem? ho)
        cases p.index.entries.lookup o.keyHash with
        | none => rfl
        | some e => exact (if_pos hpos).symm
      · cases p.index.entries.lookup o.keyHash <;> rfl
    · obtain ⟨o', ho', htokens, hseq⟩ := h.latest p hp key e hold
      refine ⟨o', ?_, htokens, hseq⟩
      rw [List.find?_cons_of_neg (by simpa using fun h => hkey h.symm)]
      exact ho'
  · exact fun hup => List.cons_prefix_cons.mpr ⟨rfl, h.since hup⟩
  · rintro q ⟨⟩
    rw [← h.resets p hp]
    congr 1
    exact Index.resets_applyStore ..

/-- Every step keeps the plane sound. -/
theorem Sound.step (h : s.Sound c) (hstep : c.step parseFloat s a = some t) : t.Sound c := by
  rcases PlaneConfig.step_cases hstep with hquiet |
    ⟨req, body, p, feed, o, -, hp, hobs, hseq, rfl⟩ | ⟨i, now, order, o, p, feed, ho, hp, rfl⟩ |
    ⟨hwatch, hup, rfl⟩ | ⟨up, hwatch, hup, rfl⟩ |
    ⟨now, hwatch, rfl⟩
  · exact h.quiet hquiet
  · exact h.dispatch hp hseq (PlaneConfig.observation_pos hobs).2
  · exact h.apply hp ho now order
  · have hhead := h.reads
    rw [hup, hwatch] at hhead
    refine ⟨h.mode, h.seqs, h.taken, h.positive, h.latest, h.since, ?_, fun _ => hup, ?_⟩
    · simp [Watch.isRestarting]
    · intro p hp
      have hresets := h.resets p hp
      rw [hwatch] at hresets
      simp only [restarts, hhead]
      simp only [Watch.isRestarting] at hresets ⊢
      simpa using hresets
  · have hhead := h.reads
    rw [hwatch] at hhead
    refine ⟨h.mode, h.seqs, h.taken, h.positive, h.latest, fun hup' => ?_, ?_, ?_, ?_⟩
    · simp only at hup'
      subst hup'
      exact h.since (hup rfl)
    · simp [Watch.isRestarting]
    · intro hrestarting
      cases hrestarting
    · intro p hp
      have hresets := h.resets p hp
      rw [hwatch] at hresets
      have hsame : (up && !s.readings.headD true) = false := by
        cases up
        · rfl
        · rw [hhead, hup rfl]
          rfl
      simp only [restarts, hsame]
      simpa [Watch.isRestarting] using hresets
  · refine ⟨by simpa using h.mode, ?_, ?_, h.positive, ?_, fun _ => List.nil_prefix, ?_, ?_, ?_⟩
    · exact h.seqs.sublist ((List.sublist_append_right _ _).map _)
    · intro q hq o ho
      rw [Provider.explicit?_onRuntimeRestart, Option.map_eq_some_iff] at hq
      obtain ⟨p, hp, rfl⟩ := hq
      exact h.taken p hp o (List.mem_append_right _ ho)
    · intro q hq key e he
      rw [Provider.explicit?_onRuntimeRestart, Option.map_eq_some_iff] at hq
      obtain ⟨p, hp, rfl⟩ := hq
      cases he
    · have hhead := h.reads
      rw [hwatch] at hhead
      simpa [Watch.isRestarting] using hhead
    · intro hrestarting
      cases hrestarting
    · intro q hq
      rw [Provider.explicit?_onRuntimeRestart, Option.map_eq_some_iff] at hq
      obtain ⟨p, hp, rfl⟩ := hq
      have hresets := h.resets p hp
      rw [hwatch] at hresets
      exact hresets

end CachePlane

/-! ### What the router matches -/

section

variable {toInt : ℚ → ℤ} (htoInt : ∀ n : ℤ, toInt n = n) (prev : Counters) (polledAt : ℤ)
  (b : Backend) {r : Replies} {ps : List Polled} (hids : (ps.map fun p => p.state.id).Nodup)
  (hp : polled toInt prev polledAt b r ∈ ps) (cfg : CacheAwareConfig) (req : RequestFeatures)

include htoInt hids hp in
/-- A request whose locality is consulted is matched with the published directory. -/
theorem matched_eq_published {doc : PublicSnapshot} (hr : r.cache = some doc.toJson) :
    (cfg.matchedTokensFor (refreshOf ps).directory.locator req
        (polled toInt prev polledAt b r).state).1 =
      if cfg.consults req (polled toInt prev polledAt b r).state then
        cutTo req.inputLenEst (cutTo req.prefixTokens
          (max 0 ((doc.directory.lookup req.prefixKeyHash).getD 0)))
      else 0 := by
  obtain ⟨hid, hunmatched, -, -, htokens⟩ := polled_cache toInt prev polledAt b hr
  rw [CacheAwareConfig.matchedTokensFor_eq]
  split
  · rename_i hconsults
    have hkey : req.prefixKeyHash ≠ "" := by
      simp only [CacheAwareConfig.consults, Bool.and_eq_true, decide_eq_true_eq] at hconsults
      exact hconsults.2
    have hlookup : (refreshOf ps).directory.lookupPrefixTokens b.id req.prefixKeyHash =
        (doc.directory.lookup req.prefixKeyHash).getD 0 := by
      rw [Directory.lookupPrefixTokens, if_neg hkey, ← hid, lookup_refreshOf hids hp, htokens,
        ← lookup_readDirectory htoInt doc]
      cases readDirectory toInt doc.toJson <;> rfl
    simp only [resolvedTokens, Directory.locator, hid, hunmatched, hlookup]
    congr 2
    split
    · rename_i hpos
      exact (max_eq_right hpos.le).symm
    · rename_i hneg
      exact (max_eq_left (not_lt.mp hneg)).symm
  · rfl

end

namespace CachePlane

variable {c : PlaneConfig} {parseFloat : Text.Chars → Option ℚ} {start : ℤ}
  {as : List PlaneAction} {s : CachePlane}

/-- Every observation comes from a request that the proxy has dispatched. -/
theorem exists_dispatch (h : exec (c.step parseFloat) (c.init start) as = some s) :
    ∀ o ∈ s.pending ++ s.recorded ++ s.sinceDown, ∃ req body, .dispatch req body ∈ as ∧
      c.observation req body = some (o.keyHash, o.tokens) := by
  induction as using List.reverseRecOn generalizing s with
  | nil =>
    cases h
    rintro o ⟨⟩
  | append_singleton as a ih =>
    obtain ⟨r, hr, hlast⟩ := exec_concat_eq_some.mp h
    have hold : ∀ o, o ∈ r.pending ∨ o ∈ r.recorded ∨ o ∈ r.sinceDown →
        ∃ req body, .dispatch req body ∈ as ++ [a] ∧
          c.observation req body = some (o.keyHash, o.tokens) := by
      intro o ho
      obtain ⟨req, body, hmem, hobs⟩ := ih hr o (by simpa [or_assoc] using ho)
      exact ⟨req, body, List.mem_append_left _ hmem, hobs⟩
    intro o' ho'
    simp only [List.append_assoc, List.mem_append] at ho'
    rcases PlaneConfig.step_cases hlast with hquiet |
      ⟨req, body, p, feed, o, rfl, -, hobs, -, rfl⟩ | ⟨i, now, order, o, p, feed, ho, -, rfl⟩ |
      ⟨-, -, rfl⟩ | ⟨up, -, -, rfl⟩ | ⟨now, -, rfl⟩
    · rw [hquiet.pending, hquiet.recorded, hquiet.sinceDown] at ho'
      exact hold o' ho'
    · simp only [List.mem_append, List.mem_singleton] at ho'
      rcases ho' with (ho' | rfl) | ho'
      · exact hold o' (.inl ho')
      · exact ⟨req, body, List.mem_append_right _ (List.mem_singleton.mpr rfl), hobs⟩
      · exact hold o' (.inr ho')
    · simp only [List.mem_cons] at ho'
      rcases ho' with ho' | (rfl | ho') | rfl | ho'
      · exact hold o' (.inl (List.mem_of_mem_eraseIdx ho'))
      · exact hold o' (.inl (List.mem_of_getElem? ho))
      · exact hold o' (.inr (.inl ho'))
      · exact hold o' (.inl (List.mem_of_getElem? ho))
      · exact hold o' (.inr (.inr ho'))
    · exact hold o' ho'
    · rcases ho' with ho' | ho' | ho'
      · exact hold o' (.inl ho')
      · exact hold o' (.inr (.inl ho'))
      · cases up with
        | true => exact hold o' (.inr (.inr ho'))
        | false => cases ho'
    · rcases ho' with ho' | ho' | ho'
      · exact hold o' (.inl ho')
      · cases ho'
      · exact hold o' (.inr (.inr ho'))

/-- A plane of explicit keys, with the default flags otherwise. -/
def explicitPlane : PlaneConfig where
  mode := .explicit
  cacheIndexMax := 100000
  cacheEntryTTL := 600000000000
  cacheStaleAfter := 30000000000
  cacheExplicitHeader := true
  sha256Hex := id

/-- A request that claims 512 tokens under a prefix key. -/
def keyed (key : String) : PlaneAction :=
  .dispatch ⟨"r", key, some 512, .ok ⟨0, none, none, none⟩⟩ ⟨0, none, none, none⟩

end CachePlane

end GpuSidecar.Sidecar
