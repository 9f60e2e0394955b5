import GpuSidecar.Models.Cache.Directory
import GpuSidecar.Models.Cache.Native

/-!
# The providers of the cache plane

The embedding of `internal/cache/provider.go`, of the modes in `internal/cache/model.go`, and of
the parts of `internal/cache/vllm_provider.go` that publish. A sidecar has one provider, chosen
by its mode. All of them answer `/v1/cache`, but only the explicit provider publishes a
directory: block events cannot be matched to requests.
-/

namespace GpuSidecar.Cache

open Map

inductive Mode where
  | disabled
  | explicit
  | vllmEvents
  deriving DecidableEq, Repr

/-- The mode that a flag names; an unknown name disables the plane. -/
def parseMode (s : String) : Mode :=
  if s = "explicit" then .explicit
  else if s = "vllm_events" ∨ s = "vllm-events" then .vllmEvents
  else .disabled

/-- The provider of a sidecar, with the fields that observations do not use. -/
inductive Provider where
  | disabled
  | explicit (p : ExplicitProvider) (feed : ProviderFeed)
  | vllmEvents (p : VLLMProvider) (feed : ProviderFeed)

def newProvider (mode : Mode) (cfg : IndexConfig) (now : ℤ) : Provider :=
  match mode with
  | .explicit => .explicit (newExplicitProvider cfg now) ⟨0, false, false⟩
  | .vllmEvents => .vllmEvents (newVLLMProvider cfg now) ⟨0, false, false⟩
  | .disabled => .disabled

namespace Provider

def mode : Provider → Mode
  | .disabled => .disabled
  | .explicit _ _ => .explicit
  | .vllmEvents _ _ => .vllmEvents

/-- No transport of block events is attached, so starting cannot fail. -/
def start : Provider → Provider
  | .disabled => .disabled
  | .explicit p feed => .explicit p { feed with started := true }
  | .vllmEvents p feed => .vllmEvents p { feed with started := true }

def onRuntimeRestart (now : ℤ) : Provider → Provider
  | .disabled => .disabled
  | .explicit p feed => .explicit (p.onRuntimeRestart now) feed
  | .vllmEvents p feed => .vllmEvents (p.onRuntimeRestart now) feed

def setKVHeadroom (headroom : ℚ) (supported : Bool) : Provider → Provider
  | .disabled => .disabled
  | .explicit p feed => .explicit p { feed with kvHeadroom := headroom, kvSupported := supported }
  | .vllmEvents p feed =>
    .vllmEvents p { feed with kvHeadroom := headroom, kvSupported := supported }

end Provider

/-- The metadata of a provider that observes nothing. -/
def disabledSnapshot : Snapshot where
  confidence := 0
  snapshotAgeMs := -1
  lastEventSequence := -1
  cacheResetEpoch := 0
  indexEntries := 0
  indexMaxEntries := 0
  eventsReceivedTotal := 0
  eventsDroppedTotal := 0
  sequenceGapsTotal := 0
  staleInvalidations := 0
  duplicateEventsTotal := 0
  outOfOrderEventsTotal := 0
  resetsTotal := 0
  ready := false
  updatedAt := 0
  enabled := false
  provider := "disabled"
  supported := false
  matchSupported := false
  kvHeadroom := 0
  kvHeadroomSupported := false

def VLLMProvider.snapshot (p : VLLMProvider) (feed : ProviderFeed) (now : ℤ) :
    VLLMProvider × Snapshot :=
  let (index, s) := p.index.snapshotMeta now
  (⟨index⟩,
    { toSnapshotMeta := s
      enabled := true
      provider := "vllm_events"
      supported := true
      matchSupported := false
      kvHeadroom := feed.kvHeadroom
      kvHeadroomSupported := feed.kvSupported })

namespace Provider

def snapshot (now : ℤ) : Provider → Provider × Snapshot
  | .disabled => (.disabled, disabledSnapshot)
  | .explicit p feed => ((.explicit (p.snapshot feed now).1 feed), (p.snapshot feed now).2)
  | .vllmEvents p feed => ((.vllmEvents (p.snapshot feed now).1 feed), (p.snapshot feed now).2)

/-- The directory for the router: empty unless requests can be matched. -/
def directory (now : ℤ) (order : EntryOrder) (max : ℤ) : Provider → KeyTokens
  | .disabled => ∅
  | .explicit p _ => p.directory now order max
  | .vllmEvents _ _ => ∅

/-- The body of `/v1/cache`: `Snapshot` and then `Directory`, with no call and no tick of the
clock in between. -/
def buildPublicSnapshot (p : Provider) (now : ℤ) (order : EntryOrder) (dirMax : ℤ) :
    Provider × PublicSnapshot :=
  let (p, s) := p.snapshot now
  (p, ⟨s, p.directory now order dirMax⟩)

/-- The explicit provider, if the sidecar has it. -/
def explicit? : Provider → Option ExplicitProvider
  | .explicit p _ => some p
  | _ => none

@[simp] theorem mode_newProvider (mode : Mode) (cfg : IndexConfig) (now : ℤ) :
    (newProvider mode cfg now).mode = mode := by
  cases mode <;> rfl

@[simp] theorem mode_start (p : Provider) : p.start.mode = p.mode := by
  cases p <;> rfl

@[simp] theorem mode_onRuntimeRestart (p : Provider) (now : ℤ) :
    (p.onRuntimeRestart now).mode = p.mode := by
  cases p <;> rfl

@[simp] theorem mode_setKVHeadroom (p : Provider) (headroom : ℚ) (supported : Bool) :
    (p.setKVHeadroom headroom supported).mode = p.mode := by
  cases p <;> rfl

@[simp] theorem mode_snapshot (p : Provider) (now : ℤ) : (p.snapshot now).1.mode = p.mode := by
  cases p <;> rfl

@[simp] theorem explicit?_start (p : Provider) : p.start.explicit? = p.explicit? := by
  cases p <;> rfl

@[simp] theorem explicit?_onRuntimeRestart (p : Provider) (now : ℤ) :
    (p.onRuntimeRestart now).explicit? = p.explicit?.map (·.onRuntimeRestart now) := by
  cases p <;> rfl

@[simp] theorem explicit?_setKVHeadroom (p : Provider) (headroom : ℚ) (supported : Bool) :
    (p.setKVHeadroom headroom supported).explicit? = p.explicit? := by
  cases p <;> rfl

end Provider

/-! ### What is behind a published key -/

namespace Index

/-- A directory of any size lists fresh entries only. -/
theorem fresh_of_lookup_directory {idx : Index} {now : ℤ} {order : EntryOrder} {max : ℤ}
    {key : String} {tokens : ℤ} (h : (idx.directory now order max).lookup key = some tokens) :
    ∃ e, idx.entries.lookup key = some e ∧ idx.fresh now e = true ∧ e.matchedTokens = tokens := by
  rw [directory, directoryAt] at h
  split at h
  · cases h
  · simp only at h
    generalize (if max ≤ 0 then idx.cfg.maxEntries else max) = cap at h
    -- what is listed is a part of the fresh entries, in some order
    have hlisted : ∀ chosen : List (Sigma fun _ : String => IndexEntry),
        chosen.Subperm (idx.freshEntries now order) →
        (writeAll (chosen.map fun e => (e.1, e.2.matchedTokens))).lookup key = some tokens →
        ∃ e, idx.entries.lookup key = some e ∧ idx.fresh now e = true ∧
          e.matchedTokens = tokens := by
      intro chosen hsub hlookup
      have hnodup : ((chosen.map fun e => (e.1, e.2.matchedTokens)).map Prod.fst).Nodup := by
        obtain ⟨part, hperm, hpart⟩ := hsub
        rw [List.map_map]
        exact (hperm.map Sigma.fst).nodup_iff.mp
          ((idx.nodup_freshEntries now order).sublist (hpart.map Sigma.fst))
      obtain ⟨⟨k, e⟩, he, hpair⟩ := List.mem_map.mp ((lookup_writeAll hnodup).mp hlookup)
      obtain ⟨rfl, rfl⟩ := Prod.ext_iff.mp hpair
      obtain ⟨hfound, hfresh⟩ := (idx.mem_freshEntries now order).mp (hsub.subset he)
      exact ⟨e, hfound, hfresh, rfl⟩
    refine hlisted _ ?_ h
    split
    · exact List.Subperm.refl _
    · exact (List.take_sublist _ _).subperm.trans (List.mergeSort_perm _ _).subperm

/-- What a store under a new number leaves behind: its own entry and the old ones of other keys,
as far as they are not evicted. -/
theorem lookup_applyStore {idx : Index} {now : ℤ} {order : EntryOrder} {seq : ℤ}
    {key parent : String} {tokens blockSize : ℤ}
    (hnew : ∀ e, idx.entries.lookup key = some e → e.lastSeq ≠ seq) {k : String} {e' : IndexEntry}
    (h : (idx.applyStore now order seq key parent tokens blockSize).entries.lookup k = some e') :
    (k = key ∧ e' = storedEntry (idx.entries.lookup key) now seq key parent tokens blockSize) ∨
      (k ≠ key ∧ idx.entries.lookup k = some e') := by
  have hinsert : ∀ e, (idx.entries.insert key e).lookup k = some e' →
      (k = key ∧ e' = e) ∨ (k ≠ key ∧ idx.entries.lookup k = some e') := by
    intro e hlookup
    by_cases hk : k = key
    · subst hk
      rw [AList.lookup_insert, Option.some_inj] at hlookup
      exact .inl ⟨rfl, hlookup.symm⟩
    · rw [AList.lookup_insert_ne hk] at hlookup
      exact .inr ⟨hk, hlookup⟩
  cases hl : idx.entries.lookup key with
  | none =>
    rw [idx.applyStore_new now order seq hl] at h
    exact hinsert _ (lookup_of_evictLoop order h)
  | some e =>
    rw [applyStore, checkSeqLocked_eq] at h
    simp only [Bool.not_true, Bool.false_eq_true, if_false, hl,
      if_neg (fun hdup => hnew e hl hdup.2 : ¬ (e.present = true ∧ e.lastSeq = seq))] at h
    exact hinsert _ h

/-- With room for one more entry, such a store leaves behind all of them. -/
theorem lookup_applyStore_of_room {idx : Index} {now : ℤ} {order : EntryOrder} {seq : ℤ}
    {key parent : String} {tokens blockSize : ℤ}
    (hnew : ∀ e, idx.entries.lookup key = some e → e.lastSeq ≠ seq)
    (hroom : (idx.entries.keys.length : ℤ) < idx.cfg.maxEntries) (k : String) :
    (idx.applyStore now order seq key parent tokens blockSize).entries.lookup k =
      if k = key then
        some (storedEntry (idx.entries.lookup key) now seq key parent tokens blockSize)
      else idx.entries.lookup k := by
  have hinsert : ∀ e, (idx.entries.insert key e).lookup k =
      if k = key then some e else idx.entries.lookup k := by
    intro e
    by_cases hk : k = key
    · rw [hk, AList.lookup_insert, if_pos rfl]
    · rw [AList.lookup_insert_ne hk, if_neg hk]
  cases hl : idx.entries.lookup key with
  | none =>
    rw [idx.applyStore_new now order seq hl, evictIfNeededLocked, length_insert_new hl]
    have hexcess : ((idx.entries.keys.length + 1 : ℕ) - (idx.received now seq).cfg.maxEntries :
        ℤ).toNat = 0 := by
      have hcfg : (idx.received now seq).cfg = idx.cfg := rfl
      rw [hcfg]
      omega
    rw [hexcess]
    exact hinsert _
  | some e =>
    rw [applyStore, checkSeqLocked_eq]
    simp only [Bool.not_true, Bool.false_eq_true, if_false, hl,
      if_neg (fun hdup => hnew e hl hdup.2 : ¬ (e.present = true ∧ e.lastSeq = seq))]
    exact hinsert _

theorem resets_applyStore (idx : Index) (now : ℤ) (order : EntryOrder) (seq : ℤ)
    (key parent : String) (tokens blockSize : ℤ) :
    (idx.applyStore now order seq key parent tokens blockSize).resets = idx.resets := by
  rcases idx.applyStore_cases now order seq key parent tokens blockSize with
    ⟨e, -, -, hdup⟩ | ⟨entries, dropped, hstore, -⟩
  · rw [hdup]
    rfl
  · rw [hstore]
    rfl

end Index

/-- A snapshot leaves the entries as they are. -/
theorem ExplicitProvider.snapshot_entries (p : ExplicitProvider) (feed : ProviderFeed) (now : ℤ) :
    (p.snapshot feed now).1.index.entries = p.index.entries := by
  simp only [snapshot, Index.snapshotMeta, Index.snapshotMetaAt]
  split <;> rfl

/-- A key that a provider publishes stands for an entry of its explicit index. -/
theorem Provider.exists_entry {p : Provider} {now : ℤ} {order : EntryOrder} {dirMax : ℤ}
    {key : String} {tokens : ℤ}
    (h : (p.buildPublicSnapshot now order dirMax).2.directory.lookup key = some tokens) :
    ∃ q e, p.explicit? = some q ∧ q.index.entries.lookup key = some e ∧
      e.matchedTokens = tokens := by
  cases p with
  | disabled => cases h
  | vllmEvents p feed => cases h
  | explicit p feed =>
    have hdir : ((p.snapshot feed now).1.index.directory now order dirMax).lookup key =
        some tokens := h
    obtain ⟨e, he, -, htokens⟩ := Index.fresh_of_lookup_directory hdir
    rw [p.snapshot_entries feed now] at he
    exact ⟨p, e, rfl, he, htokens⟩

end GpuSidecar.Cache
