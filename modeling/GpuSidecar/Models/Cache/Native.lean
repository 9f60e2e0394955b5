import GpuSidecar.Core.Run.Guarded
import GpuSidecar.Models.Cache.Events
import Mathlib.Data.List.MinMax

/-!
# The bound of the native-events index

The embedding of `VLLMProvider.Ingest` in `internal/cache/vllm_provider.go`, and the bound
that the eviction loop keeps. The loop takes the empty key for the sign that it found
nothing to evict, so an entry with the empty key stops it when it is the oldest one.
The index keeps its bound in a run if and only if this never happens.
-/

namespace GpuSidecar.Cache

open Run Map

/-- The kinds of block events; any other text is ignored. -/
inductive EventKind where
  | blockStored
  | blockRemoved
  | allCleared
  | other
  deriving DecidableEq, Repr

/-- A sanitised block event. -/
structure BlockEvent where
  kind : EventKind
  seq : ℤ
  blockKeyHash : String
  parentKeyHash : String
  blockSize : ℤ
  deriving DecidableEq, Repr

/-- The provider of native block events. -/
structure VLLMProvider where
  index : Index

def newVLLMProvider (cfg : IndexConfig) (now : ℤ) : VLLMProvider where
  index := newIndex (if cfg.maxEntries = 0 then defaultIndexConfig else cfg) now

/-- One call on the provider, with the clock reading and the iteration order it meets. -/
inductive ProviderAction where
  | ingest (now : ℤ) (order : EntryOrder) (ev : BlockEvent)
  | onRuntimeRestart (now : ℤ)

namespace VLLMProvider

/-- Applies one block event to the index. -/
def ingest (p : VLLMProvider) (now : ℤ) (order : EntryOrder) (ev : BlockEvent) : VLLMProvider :=
  match ev.kind with
  | .blockStored =>
    ⟨p.index.applyStore now order ev.seq ev.blockKeyHash ev.parentKeyHash ev.blockSize
      ev.blockSize⟩
  | .blockRemoved => ⟨p.index.applyRemove now ev.seq ev.blockKeyHash⟩
  | .allCleared => ⟨p.index.applyClear now ev.seq⟩
  | .other => p

/-- Invalidates the index on a restart of the runtime. -/
def onRuntimeRestart (p : VLLMProvider) (now : ℤ) : VLLMProvider := ⟨p.index.reset now⟩

def act (p : VLLMProvider) : ProviderAction → VLLMProvider
  | .ingest now order ev => p.ingest now order ev
  | .onRuntimeRestart now => p.onRuntimeRestart now

def step (p : VLLMProvider) (a : ProviderAction) : Option VLLMProvider := some (p.act a)

end VLLMProvider

/-! ### Eviction -/

namespace Index

/-- The first visited entry of those that were updated longest ago. -/
def firstOldest (visited : List (Sigma fun _ : String => IndexEntry)) :
    Option (Sigma fun _ : String => IndexEntry) :=
  @List.argmin _ ℤ Int.instLinearOrder.toPreorder Int.instLinearOrder.toDecidableLT
    (fun e => e.2.updatedAt) visited

/-- The entry that was updated longest ago, the first visited one of several. -/
def leastRecent (order : EntryOrder) (entries : Entries) :
    Option (Sigma fun _ : String => IndexEntry) :=
  firstOldest (order.visit entries.entries)

/-- A further visited entry is the oldest only if it is older than all before. -/
theorem firstOldest_concat (visited : List (Sigma fun _ : String => IndexEntry))
    (e : Sigma fun _ : String => IndexEntry) :
    firstOldest (visited ++ [e]) = match firstOldest visited with
      | none => some e
      | some c => if e.2.updatedAt < c.2.updatedAt then some e else some c := by
  rw [firstOldest, List.argmin_concat]
  cases hc : firstOldest visited with
  | none =>
    rw [firstOldest] at hc
    rw [hc]
  | some c =>
    rw [firstOldest] at hc
    rw [hc]

/-- The scan of the eviction loop finds the entry that was updated longest ago. -/
theorem scanOldest_eq (visited : List (Sigma fun _ : String => IndexEntry)) :
    scanOldest visited = match firstOldest visited with
      | none => ("", 0, true)
      | some e => (e.1, e.2.updatedAt, false) := by
  induction visited using List.reverseRecOn with
  | nil => rfl
  | append_singleton visited e ih =>
    have hfold : scanOldest (visited ++ [e]) =
        if (scanOldest visited).2.2 ∨ e.2.updatedAt < (scanOldest visited).2.1 then
          (e.1, e.2.updatedAt, false)
        else scanOldest visited := by
      rw [scanOldest, List.foldl_append]
      rfl
    rw [hfold, ih, firstOldest_concat]
    cases firstOldest visited with
    | none => simp
    | some c =>
      by_cases hlt : e.2.updatedAt < c.2.updatedAt
      · simp [hlt]
      · simp [hlt]

/-- An index with an entry has one that was updated longest ago. -/
theorem exists_leastRecent (order : EntryOrder) {entries : Entries} (h : entries.keys ≠ []) :
    ∃ e, leastRecent order entries = some e ∧ e.1 ∈ entries.keys := by
  have hperm := order.perm entries.entries
  have hne : order.visit entries.entries ≠ [] := by
    intro hnil
    rw [hnil] at hperm
    apply h
    rw [AList.keys, List.nil_perm.mp hperm]
    rfl
  have hsome : leastRecent order entries ≠ none := by
    intro hnone
    exact hne (List.argmin_eq_none.mp hnone)
  obtain ⟨e, he⟩ := Option.ne_none_iff_exists'.mp hsome
  refine ⟨e, he, ?_⟩
  have hmem : e ∈ order.visit entries.entries := List.argmin_mem he
  exact List.mem_map_of_mem (hperm.mem_iff.mp hmem)

/-- Within the bound nothing is evicted. -/
theorem evictIfNeededLocked_of_le (idx : Index) (order : EntryOrder)
    (h : (idx.entries.keys.length : ℤ) ≤ idx.cfg.maxEntries) :
    idx.evictIfNeededLocked order = idx := by
  have hzero : ((idx.entries.keys.length : ℤ) - idx.cfg.maxEntries).toNat = 0 := by omega
  rw [evictIfNeededLocked, hzero, evictLoop]

/-- One entry too many is evicted exactly if the oldest one does not have the empty key. -/
theorem evictIfNeededLocked_excess (idx : Index) (order : EntryOrder)
    (hpos : 0 < idx.cfg.maxEntries)
    (h : (idx.entries.keys.length : ℤ) = idx.cfg.maxEntries + 1) :
    ((idx.evictIfNeededLocked order).entries.keys.length : ℤ) ≤ idx.cfg.maxEntries ↔
      ∀ e ∈ leastRecent order idx.entries, e.1 ≠ "" := by
  have hone : ((idx.entries.keys.length : ℤ) - idx.cfg.maxEntries).toNat = 1 := by omega
  have hne : idx.entries.keys ≠ [] := by
    intro hnil
    rw [hnil, List.length_nil] at h
    omega
  obtain ⟨e, he, hmem⟩ := exists_leastRecent order hne
  have hscan : (scanOldest (order.visit idx.entries.entries)).1 = e.1 := by
    rw [scanOldest_eq, show firstOldest (order.visit idx.entries.entries) = some e from he]
  have hall : (∀ e ∈ leastRecent order idx.entries, e.1 ≠ "") ↔ e.1 ≠ "" := by simp [he]
  rw [evictIfNeededLocked, hone, evictLoop, hscan, hall]
  by_cases hkey : e.1 = ""
  · rw [if_pos hkey]
    refine iff_of_false ?_ (not_not_intro hkey)
    omega
  · rw [if_neg hkey, evictLoop]
    refine iff_of_true ?_ hkey
    have herase : ((idx.entries.erase e.1).keys.length : ℤ) = idx.entries.keys.length - 1 := by
      rw [AList.keys_erase, List.length_erase_of_mem hmem]
      have hlength := List.length_pos_of_mem hmem
      omega
    rw [herase]
    omega

/-- Writing an entry of a known key keeps the number of entries. -/
theorem length_insert_known {entries : Entries} {key : String} {old : IndexEntry}
    (h : entries.lookup key = some old) (e : IndexEntry) :
    (entries.insert key e).keys.length = entries.keys.length := by
  have hmem : key ∈ entries.keys := AList.mem_keys.mp (AList.lookup_isSome.mp (by rw [h]; rfl))
  have hlength := List.length_pos_of_mem hmem
  rw [AList.keys_insert, List.length_cons, List.length_erase_of_mem hmem]
  omega

/-- Writing an entry of a new key adds one. -/
theorem length_insert_new {entries : Entries} {key : String} (h : entries.lookup key = none)
    (e : IndexEntry) : (entries.insert key e).keys.length = entries.keys.length + 1 := by
  have hmem : key ∉ entries.keys := fun hmem =>
    AList.lookup_eq_none.mp h (AList.mem_keys.mpr hmem)
  rw [AList.keys_insert, List.length_cons, List.erase_of_not_mem hmem]

/-- A removal keeps the number of entries. -/
theorem length_applyRemove (idx : Index) (now seq : ℤ) (key : String) :
    (idx.applyRemove now seq key).entries.keys.length = idx.entries.keys.length := by
  rw [applyRemove_eq]
  cases hl : idx.entries.lookup key with
  | none => rfl
  | some e => exact length_insert_known hl _

/-- A store of a known key keeps the number of entries. -/
theorem length_applyStore_known (idx : Index) (now : ℤ) (order : EntryOrder) (seq : ℤ)
    {key : String} {e : IndexEntry} (hl : idx.entries.lookup key = some e) (parent : String)
    (tokens size : ℤ) :
    (idx.applyStore now order seq key parent tokens size).entries.keys.length =
      idx.entries.keys.length := by
  rcases idx.applyStore_known now order seq hl parent tokens size with ⟨-, h⟩ | h
  · rw [h]
    rfl
  · rw [h]
    exact length_insert_known hl _

end Index

/-! ### The bound in runs -/

namespace VLLMProvider

/-- The index holds at most as many entries as configured. -/
def WithinBound (cfg : IndexConfig) (p : VLLMProvider) : Prop :=
  (p.index.entries.keys.length : ℤ) ≤ cfg.maxEntries

/-- The entries with the one that a store event adds for a new key. -/
def withNew (p : VLLMProvider) (now : ℤ) (ev : BlockEvent) : Entries :=
  p.index.entries.insert ev.blockKeyHash (Index.storedEntry none now ev.seq ev.blockKeyHash
    ev.parentKeyHash ev.blockSize ev.blockSize)

/-- When a store event brings a new key to a full index, the entry that was updated longest
ago does not have the empty key; the other calls are free. -/
def EvictsNamed (cfg : IndexConfig) (p : VLLMProvider) : ProviderAction → Prop
  | .ingest now order ev =>
    ev.kind = .blockStored → p.index.entries.lookup ev.blockKeyHash = none →
      cfg.maxEntries ≤ p.index.entries.keys.length →
      ∀ e ∈ Index.leastRecent order (p.withNew now ev), e.1 ≠ ""
  | .onRuntimeRestart _ => True

/-- The number of entries of a provider after a store event for a new key. -/
theorem withinBound_store_new {cfg : IndexConfig} (hpos : 0 < cfg.maxEntries) {p : VLLMProvider}
    (hcfg : p.index.cfg = cfg) (hp : p.WithinBound cfg) (now : ℤ) (order : EntryOrder)
    {ev : BlockEvent} (hkind : ev.kind = .blockStored)
    (hnew : p.index.entries.lookup ev.blockKeyHash = none) :
    (p.ingest now order ev).WithinBound cfg ↔
      (cfg.maxEntries ≤ p.index.entries.keys.length →
        ∀ e ∈ Index.leastRecent order (p.withNew now ev), e.1 ≠ "") := by
  have hingest : (p.ingest now order ev).index =
      { p.index.received now ev.seq with entries := p.withNew now ev }.evictIfNeededLocked
        order := by
    simp only [ingest, hkind]
    exact p.index.applyStore_new now order ev.seq hnew ev.parentKeyHash ev.blockSize ev.blockSize
  have hlength : (p.withNew now ev).keys.length = p.index.entries.keys.length + 1 :=
    Index.length_insert_new hnew _
  rw [WithinBound] at hp
  rw [WithinBound, hingest]
  subst hcfg
  by_cases hfull : p.index.cfg.maxEntries ≤ p.index.entries.keys.length
  · rw [forall_prop_of_true hfull]
    refine Index.evictIfNeededLocked_excess { p.index.received now ev.seq with
      entries := p.withNew now ev } order hpos ?_
    change ((p.withNew now ev).keys.length : ℤ) = p.index.cfg.maxEntries + 1
    omega
  · refine iff_of_true ?_ fun h => absurd h hfull
    have hroom : ((p.withNew now ev).keys.length : ℤ) ≤ p.index.cfg.maxEntries := by omega
    rw [Index.evictIfNeededLocked_of_le { p.index.received now ev.seq with
      entries := p.withNew now ev } order hroom]
    exact hroom

/-- From a state within the bound, a call leads to one within the bound exactly if it
evicts what it has to. -/
theorem withinBound_act_iff {cfg : IndexConfig} (hpos : 0 < cfg.maxEntries) {p : VLLMProvider}
    (hcfg : p.index.cfg = cfg) (hp : p.WithinBound cfg) (a : ProviderAction) :
    (p.act a).WithinBound cfg ↔ p.EvictsNamed cfg a := by
  cases a with
  | onRuntimeRestart now =>
    refine iff_of_true ?_ trivial
    change ((0 : ℕ) : ℤ) ≤ cfg.maxEntries
    omega
  | ingest now order ev =>
    cases hkind : ev.kind with
    | blockStored =>
      simp only [EvictsNamed, hkind, forall_const]
      cases hl : p.index.entries.lookup ev.blockKeyHash with
      | none => simpa [act] using withinBound_store_new hpos hcfg hp now order hkind hl
      | some e =>
        refine iff_of_true ?_ (by simp)
        have hlength := p.index.length_applyStore_known now order ev.seq hl ev.parentKeyHash
          ev.blockSize ev.blockSize
        simp only [act, ingest, hkind, WithinBound, hlength]
        exact hp
    | blockRemoved =>
      refine iff_of_true ?_ (by simp [EvictsNamed, hkind])
      simp only [act, ingest, hkind, WithinBound, Index.length_applyRemove]
      exact hp
    | allCleared =>
      refine iff_of_true ?_ (by simp [EvictsNamed, hkind])
      simp only [act, ingest, hkind, WithinBound, Index.applyClear_eq]
      change ((0 : ℕ) : ℤ) ≤ cfg.maxEntries
      omega
    | other =>
      refine iff_of_true ?_ (by simp [EvictsNamed, hkind])
      simp only [act, ingest, hkind]
      exact hp

/-- No call changes the configuration. -/
theorem act_cfg (p : VLLMProvider) (a : ProviderAction) : (p.act a).index.cfg = p.index.cfg := by
  cases a with
  | onRuntimeRestart now => exact p.index.call_cfg (.reset now)
  | ingest now order ev =>
    cases hkind : ev.kind with
    | blockStored =>
      simp only [act, ingest, hkind]
      exact p.index.call_cfg (.store now order ev.seq ev.blockKeyHash ev.parentKeyHash
        ev.blockSize ev.blockSize)
    | blockRemoved =>
      simp only [act, ingest, hkind]
      exact p.index.call_cfg (.remove now ev.seq ev.blockKeyHash)
    | allCleared =>
      simp only [act, ingest, hkind]
      exact p.index.call_cfg (.clear now ev.seq)
    | other => simp only [act, ingest, hkind]

/-- For every positive bound and every sequence of events, restarts and clock readings, the
index keeps the bound after every call if and only if no entry with the empty key is the
oldest one when a new key comes to a full index. -/
theorem withinBound_iff_evictsNamed (cfg : IndexConfig) (hpos : 0 < cfg.maxEntries) (start : ℤ)
    (as : List ProviderAction) :
    Always step (WithinBound cfg) (newVLLMProvider cfg start) as ↔
      StepsMeet step (EvictsNamed cfg) (newVLLMProvider cfg start) as := by
  have hcfg : (newVLLMProvider cfg start).index.cfg = cfg := by
    have hne : cfg.maxEntries ≠ 0 := by omega
    have hle : ¬ cfg.maxEntries ≤ 0 := by omega
    simp [newVLLMProvider, newIndex, hne, hle]
  refine always_iff_stepsMeet (I := fun p => p.index.cfg = cfg) hcfg ?_ ?_ ?_
    (exec_total act (newVLLMProvider cfg start) as)
  · rintro p a q hp ⟨⟩
    exact (p.act_cfg a).trans hp
  · change ((0 : ℕ) : ℤ) ≤ cfg.maxEntries
    omega
  · rintro p a q hp hbound ⟨⟩
    exact withinBound_act_iff hpos hp hbound a

/-- A bound of one entry. -/
def oneEntry : IndexConfig := { defaultIndexConfig with maxEntries := 1 }

/-- A stored block. -/
def blockStored (seq : ℤ) (key : String) : BlockEvent := ⟨.blockStored, seq, key, "", 16⟩

/-- Two named blocks share an index of one entry. -/
theorem namedBlocks_withinBound :
    Always step (WithinBound oneEntry) (newVLLMProvider oneEntry 0)
      [.ingest 1 (.stored _) (blockStored 1 "a"), .ingest 2 (.stored _) (blockStored 2 "b")] := by
  refine (withinBound_iff_evictsNamed oneEntry (by decide) 0 _).mpr ?_
  refine stepsMeet_cons.mpr ⟨?_, fun _ h₁ => stepsMeet_cons.mpr
    ⟨?_, fun _ _ => stepsMeet_nil _ _ _⟩⟩
  · intro _ _ hfull
    exact absurd hfull (by decide)
  · cases h₁
    intro _ _ _
    decide +kernel

/-- A block with the empty key, then another one. -/
def unnamedThenNamed : List ProviderAction :=
  [.ingest 1 (.stored _) (blockStored 1 ""), .ingest 2 (.stored _) (blockStored 2 "a")]

/-- The entry with the empty key is not evicted, and an index of one entry holds two. -/
theorem unnamedThenNamed_exceeds :
    ((exec step (newVLLMProvider oneEntry 0) unnamedThenNamed).map fun p =>
        p.index.entries.keys.length) = some 2 ∧
      ¬ Always step (WithinBound oneEntry) (newVLLMProvider oneEntry 0) unnamedThenNamed := by
  have hend : ((exec step (newVLLMProvider oneEntry 0) unnamedThenNamed).map fun p =>
      p.index.entries.keys.length) = some 2 := by decide +kernel
  refine ⟨hend, fun halways => ?_⟩
  obtain ⟨p, hp, hlength⟩ := Option.map_eq_some_iff.mp hend
  have hbound : (p.index.entries.keys.length : ℤ) ≤ 1 :=
    halways unnamedThenNamed [] (by simp) p hp
  omega

end VLLMProvider

end GpuSidecar.Cache
