import GpuSidecar.Core.Map.LeastOut
import GpuSidecar.Models.Cache.Native

/-!
# Eviction by age

When a store brings one key too many, the index removes entries one at a time, each time
the first visited one of those updated longest ago. Unless the empty key stands in the
way, what leaves is therefore no more recent than what stays, whatever the order in which
the map is visited, and a key stored after all others were updated is never the one to go.
-/

namespace GpuSidecar.Cache

open Map

namespace Index

theorem lookup_leastRecent {order : EntryOrder} {entries : Entries}
    {e : Sigma fun _ : String => IndexEntry} (h : leastRecent order entries = some e) :
    entries.lookup e.1 = some e.2 ∧
      ∀ k e', entries.lookup k = some e' → e.2.updatedAt ≤ e'.updatedAt := by
  have hperm := order.perm entries.entries
  refine ⟨AList.mem_lookup_iff.mpr (hperm.mem_iff.mp (List.argmin_mem h)), ?_⟩
  intro k e' hk
  have hmem : (⟨k, e'⟩ : Sigma fun _ : String => IndexEntry) ∈ order.visit entries.entries :=
    hperm.mem_iff.mpr (AList.mem_lookup_iff.mp hk)
  exact List.le_of_mem_argmin (f := fun e => e.2.updatedAt) hmem h

/-- Without an entry for the empty key, the loop removes as many entries as it is asked to,
each of them updated no later than any other at its turn, and counts them. -/
theorem evictLoop_leastOut (order : EntryOrder) {excess : ℕ} (idx : Index)
    (hnamed : idx.entries.lookup "" = none) (hexcess : excess ≤ idx.entries.keys.length) :
    LeastOut IndexEntry.updatedAt excess idx.entries (evictLoop order excess idx).entries ∧
      (evictLoop order excess idx).eventsDropped = idx.eventsDropped + excess := by
  induction excess generalizing idx with
  | zero => exact ⟨.done _, rfl⟩
  | succ excess ih =>
    have hne : idx.entries.keys ≠ [] := by
      rintro hnil
      rw [hnil] at hexcess
      exact Nat.not_succ_le_zero excess hexcess
    obtain ⟨e, he, -⟩ := exists_leastRecent order hne
    obtain ⟨hlookup, hleast⟩ := lookup_leastRecent he
    have hkey : e.1 ≠ "" := by
      intro hkey
      rw [hkey, hnamed] at hlookup
      cases hlookup
    have hscan : (scanOldest (order.visit idx.entries.entries)).1 = e.1 := by
      rw [scanOldest_eq, show firstOldest (order.visit idx.entries.entries) = some e from he]
    have hlength := length_keys_erase hlookup
    rw [evictLoop, hscan, if_neg hkey]
    obtain ⟨hout, hdropped⟩ := ih
      { idx with entries := idx.entries.erase e.1, eventsDropped := idx.eventsDropped + 1 }
      (by rwa [AList.lookup_erase_ne hkey.symm]) (by simp only; omega)
    exact ⟨.more hlookup hleast hout, by rw [hdropped]; simp only; omega⟩

/-- The store of a new key removes what exceeds the bound, with the new entry counted. -/
theorem applyStore_leastOut (idx : Index) (now : ℤ) (order : EntryOrder) (seq : ℤ)
    {key : String} (hkey : key ≠ "") (parent : String) (matchedTokens blockSize : ℤ)
    (hnamed : idx.entries.lookup "" = none) (hnew : idx.entries.lookup key = none)
    (hpos : 0 < idx.cfg.maxEntries) :
    let stored :=
      idx.entries.insert key (storedEntry none now seq key parent matchedTokens blockSize)
    let after := idx.applyStore now order seq key parent matchedTokens blockSize
    let excess := (stored.keys.length - idx.cfg.maxEntries : ℤ).toNat
    LeastOut IndexEntry.updatedAt excess stored after.entries ∧
      after.eventsDropped = idx.eventsDropped + excess := by
  intro stored after excess
  have hafter : after = evictLoop order excess { idx.received now seq with entries := stored } :=
    idx.applyStore_new now order seq hnew parent matchedTokens blockSize
  have hnamed' : stored.lookup "" = none := by
    rw [AList.lookup_insert_ne hkey.symm]
    exact hnamed
  rw [hafter]
  exact evictLoop_leastOut order { idx.received now seq with entries := stored } hnamed'
    (show excess ≤ stored.keys.length by omega)

theorem use_cfg (idx : Index) (u : IndexUse) : (idx.use u).cfg = idx.cfg := by
  cases u with
  | call c => exact idx.call_cfg c
  | snapshotMeta now =>
    obtain ⟨n, hn⟩ := idx.snapshotMeta_fst now
    rw [use, hn]

theorem uses_cfg (idx : Index) (us : List IndexUse) : (idx.uses us).cfg = idx.cfg := by
  induction us generalizing idx with
  | nil => rfl
  | cons u us ih => exact (ih (idx.use u)).trans (idx.use_cfg u)

end Index

/-- A new index replaces a bound that is not positive by the default. -/
theorem newIndex_maxEntries_pos (cfg : IndexConfig) (now : ℤ) :
    0 < (newIndex cfg now).cfg.maxEntries := by
  by_cases h : cfg.maxEntries ≤ 0
  · simp [newIndex, h, defaultIndexConfig]
  · simp only [newIndex, if_neg h]
    omega

/-- What the store of a new key does to a full index: `stored` are the entries with the new
one, `after` the index that the store leaves. -/
structure EvictsOldest (idx : Index) (stored : Entries) (key : String) (now : ℤ) (after : Index) :
    Prop where
  surplus : (after.entries.keys.length : ℤ) = idx.cfg.maxEntries
  oldest : ∀ k e k' e', stored.lookup k = some e → after.entries.lookup k = none →
    after.entries.lookup k' = some e' → e.updatedAt ≤ e'.updatedAt
  unchanged : ∀ k e, after.entries.lookup k = some e → stored.lookup k = some e
  counted : after.eventsDropped + after.entries.keys.length =
    idx.eventsDropped + stored.keys.length
  newest : (∀ k e, idx.entries.lookup k = some e → e.updatedAt < now) →
    (after.entries.lookup key).isSome

/-- From every state that events and snapshots lead to, and without an entry for the empty
key, the store of a new key that exceeds the bound removes exactly the surplus, and of the
entries those updated longest ago. -/
theorem applyStore_evictsOldest (cfg : IndexConfig) (start : ℤ) (us : List IndexUse) (now : ℤ)
    (order : EntryOrder) (seq : ℤ) (key parent : String) (matchedTokens blockSize : ℤ)
    (hunnamed : ((newIndex cfg start).uses us).entries.lookup "" = none) (hkey : key ≠ "")
    (hnew : ((newIndex cfg start).uses us).entries.lookup key = none)
    (hfull : (newIndex cfg start).cfg.maxEntries ≤
      ((newIndex cfg start).uses us).entries.keys.length) :
    let idx := (newIndex cfg start).uses us
    EvictsOldest idx
      (idx.entries.insert key (Index.storedEntry none now seq key parent matchedTokens blockSize))
      key now (idx.applyStore now order seq key parent matchedTokens blockSize) := by
  intro idx
  have hcfg : idx.cfg = (newIndex cfg start).cfg := Index.uses_cfg _ us
  have hpos : 0 < idx.cfg.maxEntries := hcfg ▸ newIndex_maxEntries_pos cfg start
  have hfull : idx.cfg.maxEntries ≤ idx.entries.keys.length := hcfg ▸ hfull
  have hlength : (idx.entries.insert key (Index.storedEntry none now seq key parent matchedTokens
      blockSize)).keys.length = idx.entries.keys.length + 1 := Index.length_insert_new hnew _
  obtain ⟨hout, hdropped⟩ := idx.applyStore_leastOut now order seq hkey parent matchedTokens
    blockSize hunnamed hnew hpos
  have hremoved := hout.length_keys
  refine ⟨by omega, ?_, ?_, by omega, ?_⟩
  · intro k e k' e' hk hgone hk'
    exact hout.score_le hk hgone hk'
  · intro k e hk
    exact hout.lookup hk
  · intro hlate
    rw [hout.lookup_greatest (by omega) (AList.lookup_insert idx.entries), Option.isSome_some]
    intro k e hne hk
    rw [AList.lookup_insert_ne hne] at hk
    exact hlate k e hk

/-- Two stores and a snapshot between them. -/
def twoStores : List IndexUse :=
  [.call (.store 1 (.stored _) 1 "a" "" 16 16), .snapshotMeta 2,
    .call (.store 3 (.stored _) 2 "b" "" 16 16)]

/-- With a bound of two entries, the store of a third key removes the first. -/
theorem thirdStore_evicts_first :
    let idx := (newIndex { defaultIndexConfig with maxEntries := 2 } 0).uses twoStores
    let after := idx.applyStore 4 (.stored _) 3 "c" "" 16 16
    after.entries.lookup "a" = none ∧ (after.entries.lookup "c").isSome ∧
      EvictsOldest idx (idx.entries.insert "c" (Index.storedEntry none 4 3 "c" "" 16 16)) "c" 4
        after := by
  refine ⟨by decide +kernel, by decide +kernel, ?_⟩
  exact applyStore_evictsOldest { defaultIndexConfig with maxEntries := 2 } 0 twoStores 4
    (.stored _) 3 "c" "" 16 16 (by decide +kernel) (by decide) (by decide +kernel)
    (by decide +kernel)

end GpuSidecar.Cache
