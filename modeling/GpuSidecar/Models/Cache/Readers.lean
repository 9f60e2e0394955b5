import GpuSidecar.Models.Cache.Directory
import Mathlib.Data.Finset.Card

/-!
# The readers of the index

Lookups, the directory and the published metadata each decide for themselves which
entries count. They are compared here with one description of the usable keys: those of
present entries that have not expired, as long as the index is not stale.

Lookups and the directory follow it. The metadata counts expired entries too, and at an
age of exactly the stale limit the index is still trusted although its confidence has
run out. An instant read from the clock is never the zero instant, which stands for
"no event yet".
-/

namespace GpuSidecar.Cache

open Map Time

/-- The clock reading of a use. -/
def IndexUse.now : IndexUse → ℤ
  | .call c => c.now
  | .snapshotMeta now => now

namespace Index

/-- Whether an entry has outlived the configured age. -/
def expired (idx : Index) (now : ℤ) (e : IndexEntry) : Bool :=
  decide (0 < idx.cfg.entryTTL ∧ idx.cfg.entryTTL < sub now e.updatedAt)

/-- The keys that the index can answer for. -/
def usable (idx : Index) (now : ℤ) : Finset String :=
  if idx.isStaleLocked now then ∅
  else ((idx.entries.entries.filter fun e => e.2.present && !idx.expired now e.2).map
    Sigma.fst).toFinset

variable {idx : Index} {now : ℤ}

theorem fresh_eq (idx : Index) (now : ℤ) (e : IndexEntry) :
    idx.fresh now e = (e.present && !idx.expired now e) := by
  rw [fresh, expired, ← decide_not, ← Bool.decide_or]
  congr 1
  refine decide_eq_decide.mpr ?_
  omega

theorem mem_usable {key : String} :
    key ∈ idx.usable now ↔ idx.isStaleLocked now = false ∧
      ∃ e, idx.entries.lookup key = some e ∧ idx.fresh now e = true := by
  rw [usable]
  cases idx.isStaleLocked now with
  | true => simp
  | false =>
    rw [if_neg Bool.false_ne_true, List.mem_toFinset, List.mem_map]
    refine ⟨?_, ?_⟩
    · rintro ⟨⟨k, e⟩, hmem, rfl⟩
      obtain ⟨hmem, hfresh⟩ := List.mem_filter.mp hmem
      exact ⟨rfl, e, AList.mem_lookup_iff.mpr hmem, (idx.fresh_eq now e).trans hfresh⟩
    · rintro ⟨-, e, hlookup, hfresh⟩
      refine ⟨⟨key, e⟩, List.mem_filter.mpr ⟨AList.mem_lookup_iff.mp hlookup, ?_⟩, rfl⟩
      exact (idx.fresh_eq now e).symm.trans hfresh

theorem lookupKey_of_usable {key : String} (hkey : key ∈ idx.usable now) {e : IndexEntry}
    (hlookup : idx.entries.lookup key = some e) :
    (idx.lookupKey now key).1 = e.matchedTokens := by
  obtain ⟨hstale, e', hlookup', hfresh⟩ := mem_usable.mp hkey
  obtain rfl : e' = e := Option.some.inj (hlookup'.symm.trans hlookup)
  simp [lookupKey, lookupKeyAt, hstale, lookupKeyLocked_eq, hlookup, hfresh]

/-- A lookup finds nothing under a key that is not usable. -/
theorem lookupKey_of_not_usable {key : String} (hkey : key ∉ idx.usable now) :
    (idx.lookupKey now key).1 = 0 := by
  rw [lookupKey, lookupKeyAt]
  cases hstale : idx.isStaleLocked now with
  | true => rfl
  | false =>
    rw [if_neg Bool.false_ne_true, lookupKeyLocked_eq]
    cases hlookup : idx.entries.lookup key with
    | none => rfl
    | some e =>
      have hfresh : ¬ idx.fresh now e = true := fun hfresh =>
        hkey (mem_usable.mpr ⟨hstale, e, hlookup, hfresh⟩)
      simp [hfresh]

/-! ### The directory -/

variable (idx now) in
/-- The entries that a directory of a positive size lists. -/
def listed (order : EntryOrder) (max : ℤ) : List (Sigma fun _ : String => IndexEntry) :=
  if (idx.entries.keys.length : ℤ) ≤ max then idx.freshEntries now order
  else ((idx.freshEntries now order).mergeSort fun a b =>
    decide (b.2.updatedAt ≤ a.2.updatedAt)).take max.toNat

variable {order : EntryOrder} {max : ℤ}

theorem directory_eq_listed (hstale : idx.isStaleLocked now = false) (hzero : idx.lastUpdate ≠ 0)
    (hmax : 0 < max) :
    idx.directory now order max =
      writeAll ((idx.listed now order max).map fun e => (e.1, e.2.matchedTokens)) := by
  rw [directory, directoryAt, if_neg (by simp [hstale, hzero]), if_neg (not_le.mpr hmax), listed]

theorem card_usable (hstale : idx.isStaleLocked now = false) (order : EntryOrder) :
    (idx.usable now).card = (idx.freshEntries now order).length := by
  have hperm : (idx.freshEntries now order).Perm
      (idx.entries.entries.filter fun e => e.2.present && !idx.expired now e.2) := by
    simp only [freshEntries, fresh_eq]
    exact (order.perm idx.entries.entries).filter _
  have hnodup := (hperm.map Sigma.fst).nodup_iff.mp (idx.nodup_freshEntries now order)
  rw [usable, hstale, if_neg Bool.false_ne_true, List.toFinset_card_of_nodup hnodup,
    List.length_map, hperm.length_eq]

theorem pairwise_byAge (entries : List (Sigma fun _ : String => IndexEntry)) :
    (entries.mergeSort fun a b => decide (b.2.updatedAt ≤ a.2.updatedAt)).Pairwise
      fun a b => b.2.updatedAt ≤ a.2.updatedAt := by
  let newer (a b : Sigma fun _ : String => IndexEntry) : Prop := b.2.updatedAt ≤ a.2.updatedAt
  have : IsTrans _ newer := ⟨fun _ _ _ hab hbc => le_trans hbc hab⟩
  have : Std.Total newer := ⟨fun a b => le_total b.2.updatedAt a.2.updatedAt⟩
  exact List.pairwise_mergeSort' newer entries

/-- The listed entries and the others together are the fresh ones, and none of the others
is more recent than a listed one. -/
theorem exists_rest (idx : Index) (now : ℤ) (order : EntryOrder) (max : ℤ) (hmax : 0 < max) :
    ∃ rest, (idx.listed now order max ++ rest).Perm (idx.freshEntries now order) ∧
      (idx.listed now order max).length = min max.toNat (idx.freshEntries now order).length ∧
      ∀ e ∈ rest, ∀ e' ∈ idx.listed now order max, e.2.updatedAt ≤ e'.2.updatedAt := by
  rw [listed]
  split_ifs with hcap
  · refine ⟨[], ?_, ?_, ?_⟩
    · rw [List.append_nil]
    · have hle : (idx.freshEntries now order).length ≤ idx.entries.keys.length := by
        rw [freshEntries, AList.keys, List.keys, List.length_map,
          ← (order.perm idx.entries.entries).length_eq]
        exact List.length_filter_le _ _
      omega
    · exact fun e he => absurd he List.not_mem_nil
  · set byAge := (idx.freshEntries now order).mergeSort fun a b =>
      decide (b.2.updatedAt ≤ a.2.updatedAt) with hsort
    have hperm : byAge.Perm (idx.freshEntries now order) := List.mergeSort_perm _ _
    refine ⟨byAge.drop max.toNat, ?_, ?_, ?_⟩
    · rwa [List.take_append_drop]
    · rw [List.length_take, hperm.length_eq]
    · have hsorted : byAge.Pairwise fun a b => b.2.updatedAt ≤ a.2.updatedAt :=
        pairwise_byAge _
      rw [← List.take_append_drop max.toNat byAge, List.pairwise_append] at hsorted
      exact fun e he e' he' => hsorted.2.2 e' he' e he

theorem nodup_listed (idx : Index) (now : ℤ) (order : EntryOrder) (hmax : 0 < max) :
    ((idx.listed now order max).map Sigma.fst).Nodup := by
  obtain ⟨rest, hperm, -⟩ := idx.exists_rest now order max hmax
  have hall := (hperm.map Sigma.fst).nodup_iff.mpr (idx.nodup_freshEntries now order)
  exact hall.sublist ((List.sublist_append_left _ rest).map Sigma.fst)

theorem lookup_directory_listed (hstale : idx.isStaleLocked now = false)
    (hzero : idx.lastUpdate ≠ 0) (hmax : 0 < max) {key : String} {tokens : ℤ} :
    (idx.directory now order max).lookup key = some tokens ↔
      ∃ e, (⟨key, e⟩ : Sigma fun _ : String => IndexEntry) ∈ idx.listed now order max ∧
        e.matchedTokens = tokens := by
  have hnodup := idx.nodup_listed now order hmax
  rw [directory_eq_listed hstale hzero hmax, lookup_writeAll (by rwa [List.map_map]),
    List.mem_map]
  constructor
  · rintro ⟨⟨k, e⟩, hmem, heq⟩
    obtain ⟨rfl, rfl⟩ := Prod.ext_iff.mp heq
    exact ⟨e, hmem, rfl⟩
  · rintro ⟨e, hmem, rfl⟩
    exact ⟨⟨key, e⟩, hmem, rfl⟩

theorem length_directory (hstale : idx.isStaleLocked now = false) (hzero : idx.lastUpdate ≠ 0)
    (hmax : 0 < max) :
    (idx.directory now order max).keys.length = (idx.listed now order max).length := by
  have hnodup := idx.nodup_listed now order hmax
  rw [directory_eq_listed hstale hzero hmax, (keys_writeAll (by rwa [List.map_map])).length_eq,
    List.length_map, List.length_map]

/-- The directory and the lookups answer for the same keys. -/
structure ReadersAgree (idx : Index) (now : ℤ) (order : EntryOrder) (max : ℤ) : Prop where
  subset : ∀ key ∈ idx.directory now order max, key ∈ idx.usable now
  size : ((idx.directory now order max).keys.length : ℤ) = min max (idx.usable now).card
  tokens : ∀ key tokens, (idx.directory now order max).lookup key = some tokens →
    (idx.lookupKey now key).1 = tokens
  recent : ∀ key e key' e', key ∈ idx.usable now → key ∉ idx.directory now order max →
    key' ∈ idx.directory now order max → idx.entries.lookup key = some e →
    idx.entries.lookup key' = some e' → e.updatedAt ≤ e'.updatedAt
  outside : ∀ key ∉ idx.usable now, (idx.lookupKey now key).1 = 0

theorem readersAgree_of_trusted (hstale : idx.isStaleLocked now = false)
    (hzero : idx.lastUpdate ≠ 0) (order : EntryOrder) (hmax : 0 < max) :
    idx.ReadersAgree now order max := by
  obtain ⟨rest, hperm, hlength, hrecent⟩ := idx.exists_rest now order max hmax
  have hentry : ∀ k e, (⟨k, e⟩ : Sigma fun _ : String => IndexEntry) ∈
      idx.freshEntries now order → idx.entries.lookup k = some e ∧ k ∈ idx.usable now := by
    intro k e hmem
    obtain ⟨hlookup, hfresh⟩ := (idx.mem_freshEntries now order).mp hmem
    exact ⟨hlookup, mem_usable.mpr ⟨hstale, e, hlookup, hfresh⟩⟩
  have hlisted : ∀ k e, (⟨k, e⟩ : Sigma fun _ : String => IndexEntry) ∈
      idx.listed now order max → idx.entries.lookup k = some e ∧ k ∈ idx.usable now :=
    fun k e hmem => hentry k e (hperm.mem_iff.mp (List.mem_append_left rest hmem))
  have hmem : ∀ k, k ∈ idx.directory now order max ↔
      ∃ e, (⟨k, e⟩ : Sigma fun _ : String => IndexEntry) ∈ idx.listed now order max := by
    intro k
    rw [← AList.lookup_isSome, Option.isSome_iff_exists]
    simp only [lookup_directory_listed hstale hzero hmax, exists_comm, exists_eq_right']
  refine ⟨?_, ?_, ?_, ?_, fun key => lookupKey_of_not_usable⟩
  · intro key hkey
    obtain ⟨e, he⟩ := (hmem key).mp hkey
    exact (hlisted key e he).2
  · rw [length_directory hstale hzero hmax, hlength, card_usable hstale order]
    omega
  · intro key tokens hkey
    obtain ⟨e, he, rfl⟩ := (lookup_directory_listed hstale hzero hmax).mp hkey
    exact lookupKey_of_usable (hlisted key e he).2 (hlisted key e he).1
  · intro key e key' e' hkey hout hin he he'
    obtain ⟨w', hw'⟩ := (hmem key').mp hin
    obtain rfl : w' = e' := Option.some.inj ((hlisted key' w' hw').1.symm.trans he')
    obtain ⟨-, w, hw, hfresh⟩ := mem_usable.mp hkey
    obtain rfl : w = e := Option.some.inj (hw.symm.trans he)
    have hcand : (⟨key, w⟩ : Sigma fun _ : String => IndexEntry) ∈ idx.freshEntries now order :=
      (idx.mem_freshEntries now order).mpr ⟨hw, hfresh⟩
    rcases List.mem_append.mp (hperm.mem_iff.mpr hcand) with hin | hrest
    · exact absurd ((hmem key).mpr ⟨w, hin⟩) hout
    · exact hrecent _ hrest _ hw'

theorem readersAgree_of_empty (hempty : idx.usable now = ∅)
    (hdir : idx.directory now order max = ∅) (hmax : 0 < max) :
    idx.ReadersAgree now order max where
  subset key hkey := by
    rw [hdir] at hkey
    exact absurd hkey (AList.notMem_empty key)
  size := by
    rw [hdir, hempty, Finset.card_empty, Int.natCast_zero, min_eq_right hmax.le]
    rfl
  tokens key tokens hkey := by
    rw [hdir] at hkey
    cases hkey
  recent key e key' e' hkey := by
    rw [hempty] at hkey
    exact absurd hkey (Finset.notMem_empty key)
  outside key := lookupKey_of_not_usable

/-! ### Reachable states -/

theorem call_lastUpdate (idx : Index) {c : IndexCall} {seq : ℤ} (h : c.seq? = some seq) :
    (idx.call c).lastUpdate = c.now :=
  congrArg Tracking.lastUpdate (idx.call_event h).1

/-- While the clock never reads the zero instant, an index that shows no event has no
entries. -/
theorem entries_of_no_event (cfg : IndexConfig) (start : ℤ) {us : List IndexUse}
    (hclock : ∀ u ∈ us, u.now ≠ 0) :
    ((newIndex cfg start).uses us).lastUpdate = 0 →
      ((newIndex cfg start).uses us).entries = ∅ := by
  refine List.foldlRecOn us Index.use
    (motive := fun idx : Index => idx.lastUpdate = 0 → idx.entries = ∅) (fun _ => rfl) ?_
  intro idx ih u hu hzero
  cases u with
  | snapshotMeta now =>
    obtain ⟨n, hn⟩ := idx.snapshotMeta_fst now
    rw [use, hn] at hzero ⊢
    exact ih hzero
  | call c =>
    cases hs : c.seq? with
    | none => rw [use, idx.call_of_seq?_eq_none hs, reset]
    | some seq => exact absurd ((idx.call_lastUpdate hs).symm.trans hzero) (hclock _ hu)

theorem lastUpdate_le (cfg : IndexConfig) (start : ℤ) {us : List IndexUse}
    (hpast : ∀ u ∈ us, u.now ≤ now) :
    ((newIndex cfg start).uses us).lastUpdate ≠ 0 →
      ((newIndex cfg start).uses us).lastUpdate ≤ now := by
  refine List.foldlRecOn us Index.use
    (motive := fun idx : Index => idx.lastUpdate ≠ 0 → idx.lastUpdate ≤ now)
    (fun h => absurd rfl h) ?_
  intro idx ih u hu hne
  cases u with
  | snapshotMeta now =>
    obtain ⟨n, hn⟩ := idx.snapshotMeta_fst now
    rw [use, hn] at hne ⊢
    exact ih hne
  | call c =>
    cases hs : c.seq? with
    | none =>
      rw [use, idx.call_of_seq?_eq_none hs] at hne
      exact absurd rfl hne
    | some seq => exact (idx.call_lastUpdate hs).le.trans (hpast _ hu)

end Index

/-- In every state that events and snapshots lead to, and at every instant, the directory of
any positive size lists usable keys with the tokens of a lookup, as many as fit and the
most recent ones first, and a lookup finds nothing under any other key. -/
theorem readersAgree_of_reachable (cfg : IndexConfig) (start : ℤ) (us : List IndexUse)
    (hclock : ∀ u ∈ us, u.now ≠ 0) (now : ℤ) (order : EntryOrder) (max : ℤ) (hmax : 0 < max) :
    ((newIndex cfg start).uses us).ReadersAgree now order max := by
  have hempty := Index.entries_of_no_event cfg start hclock
  set idx := (newIndex cfg start).uses us
  cases hstale : idx.isStaleLocked now with
  | true =>
    refine Index.readersAgree_of_empty ?_ ?_ hmax
    · rw [Index.usable, if_pos hstale]
    · rw [Index.directory, Index.directoryAt, if_pos (Or.inl hstale)]
  | false =>
    by_cases hzero : idx.lastUpdate = 0
    · refine Index.readersAgree_of_empty ?_ ?_ hmax
      · rw [Index.usable, hstale, if_neg Bool.false_ne_true, hempty hzero]
        rfl
      · rw [Index.directory, Index.directoryAt, if_pos (Or.inr hzero)]
    · exact Index.readersAgree_of_trusted hstale hzero order hmax

/-- Three stores, a removal and a snapshot, the first store long before the others. -/
def mixedUses : List IndexUse :=
  [.call (.store 1 (.stored _) 1 "a" "" 16 16),
    .call (.store 700000000000 (.stored _) 2 "b" "" 32 16),
    .call (.store 700000000001 (.stored _) 3 "c" "" 48 16),
    .call (.store 700000000002 (.stored _) 4 "d" "" 64 16),
    .call (.remove 700000000003 5 "d"), .snapshotMeta 700000000004]

/-- Of an expired, two live and a removed key, the live ones are usable, and a directory of
one entry agrees with the lookups about them. -/
theorem mixedUses_readersAgree :
    let idx := (newIndex defaultIndexConfig 0).uses mixedUses
    idx.usable 700000000005 = {"b", "c"} ∧ idx.ReadersAgree 700000000005 (.stored _) 1 := by
  refine ⟨by decide +kernel, ?_⟩
  exact readersAgree_of_reachable defaultIndexConfig 0 mixedUses (by decide +kernel) _ _ 1
    (by decide)

/-! ### The published size -/

/-- The keys that a lookup reports as present. -/
def Index.presentKeys (idx : Index) (now : ℤ) : List String :=
  idx.entries.keys.filter fun key => (idx.lookupKeyLocked now key).2

theorem Index.presentKeys_eq (idx : Index) (now : ℤ) :
    idx.presentKeys now =
      (idx.entries.entries.filter fun e => idx.fresh now e.2).map Sigma.fst := by
  rw [presentKeys, AList.keys, List.keys, List.filter_map]
  congr 1
  refine List.filter_congr fun e he => ?_
  have hlookup : idx.entries.lookup e.1 = some e.2 := AList.mem_lookup_iff.mpr he
  rw [Function.comp_apply, lookupKeyLocked_eq, hlookup]
  cases hfresh : idx.fresh now e.2 <;> simp [hfresh]

theorem Index.snapshotMeta_indexEntries (idx : Index) (now : ℤ) :
    (idx.snapshotMeta now).2.indexEntries =
      (idx.entries.entries.filter fun e => e.2.present).length := by
  rw [snapshotMeta, snapshotMetaAt]
  split <;> rfl

/-- The published size is the number of keys that a lookup reports as present if and only
if no present entry has expired. -/
theorem indexEntries_eq_presentKeys_iff (idx : Index) (now : ℤ) :
    (idx.snapshotMeta now).2.indexEntries = (idx.presentKeys now).length ↔
      ∀ key e, idx.entries.lookup key = some e → e.present = true →
        idx.expired now e = false := by
  have hsub : (idx.entries.entries.filter fun e => idx.fresh now e.2).Sublist
      (idx.entries.entries.filter fun e => e.2.present) := by
    refine List.monotone_filter_right _ fun e hfresh => ?_
    rw [Index.fresh_eq, Bool.and_eq_true] at hfresh
    exact hfresh.1
  rw [idx.snapshotMeta_indexEntries, idx.presentKeys_eq, List.length_map]
  constructor
  · intro hlength key e hlookup hpresent
    have hall := hsub.eq_of_length hlength.symm
    have hmem : (⟨key, e⟩ : Sigma fun _ : String => IndexEntry) ∈
        idx.entries.entries.filter fun e => e.2.present :=
      List.mem_filter.mpr ⟨AList.mem_lookup_iff.mp hlookup, hpresent⟩
    rw [← hall, List.mem_filter, Index.fresh_eq] at hmem
    simpa [hpresent] using hmem.2
  · intro hlive
    congr 1
    refine List.filter_congr fun e he => ?_
    rw [Index.fresh_eq]
    cases hpresent : e.2.present with
    | false => rfl
    | true => simp [hlive e.1 e.2 (AList.mem_lookup_iff.mpr he) hpresent]

/-- A key stored long before another still counts when the index publishes its size. -/
theorem mixedUses_counts_expired :
    let idx := (newIndex defaultIndexConfig 0).uses mixedUses
    idx.isStaleLocked 700000000005 = false ∧
      (idx.snapshotMeta 700000000005).2.indexEntries = 3 ∧
      (idx.presentKeys 700000000005).length = 2 := by
  decide +kernel

end GpuSidecar.Cache
