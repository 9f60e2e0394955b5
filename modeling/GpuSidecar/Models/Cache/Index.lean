import GpuSidecar.Core.Map.RangeOrder
import GpuSidecar.Core.Time.Duration

/-!
# The prefix index

The embedding of `internal/cache/index.go`. A single lock guards the whole index,
so every method is one function on its state. The injected clock is read into an
argument `now`, an integer instant whose zero is the zero time of the language; a method
that reads the clock several times has all its readings as an argument, and a version for
a clock that stands still meanwhile. Freshness and confidence are exact rationals. The
eviction loop ranges over a map, and its iteration order is an argument.
-/

namespace GpuSidecar.Cache

open Time Map

/-- One prefix or block entry, metadata only (`cache.IndexEntry`). -/
structure IndexEntry where
  key : String
  parent : String
  matchedTokens : ℤ
  blockSize : ℤ
  /-- Whether the block is currently stored; false after a remove. -/
  present : Bool
  /-- The last event sequence number that touched this entry. -/
  lastSeq : ℤ
  updatedAt : ℤ
  deriving DecidableEq, Repr

/-- Bounds and ages of the index. Durations are nanoseconds. -/
structure IndexConfig where
  maxEntries : ℤ
  entryTTL : ℤ
  staleAfter : ℤ
  deriving DecidableEq, Repr

def defaultIndexConfig : IndexConfig where
  maxEntries := 100000
  entryTTL := 10 * 60 * 1000000000
  staleAfter := 30 * 1000000000

/-- The entries by key. -/
abbrev Entries := AList fun _ : String => IndexEntry

/-- An order in which a loop may visit the entries. -/
abbrev EntryOrder := RangeOrder (Sigma fun _ : String => IndexEntry)

/-- The index, with its counters. -/
structure Index where
  cfg : IndexConfig
  entries : Entries
  lastSeq : ℤ
  haveSeq : Bool
  resetEpoch : ℤ
  /-- The instant of the last event; the zero instant before the first one. -/
  lastUpdate : ℤ
  startedAt : ℤ
  eventsReceived : ℕ
  eventsDropped : ℕ
  sequenceGaps : ℕ
  duplicates : ℕ
  outOfOrder : ℕ
  staleInvalidated : ℕ
  resets : ℕ
  deriving DecidableEq

def newIndex (cfg : IndexConfig) (now : ℤ) : Index where
  cfg := if cfg.maxEntries ≤ 0 then { cfg with maxEntries := defaultIndexConfig.maxEntries }
    else cfg
  entries := ∅
  lastSeq := 0
  haveSeq := false
  resetEpoch := 0
  lastUpdate := 0
  startedAt := now
  eventsReceived := 0
  eventsDropped := 0
  sequenceGaps := 0
  duplicates := 0
  outOfOrder := 0
  staleInvalidated := 0
  resets := 0

namespace Index

/-! ### Event application -/

/-- Validates a batch sequence number against the last one seen. The boolean says
whether to apply the event. The successor of the last number is a 64-bit sum in the source,
which is exact until the greatest number has been seen. -/
def checkSeqLocked (idx : Index) (seq : ℤ) : Index × Bool :=
  if !idx.haveSeq then ({ idx with haveSeq := true, lastSeq := seq }, true)
  else if seq = idx.lastSeq + 1 then ({ idx with lastSeq := seq }, true)
  else if seq = idx.lastSeq then (idx, true)
  else if seq < idx.lastSeq then ({ idx with outOfOrder := idx.outOfOrder + 1 }, true)
  else ({ idx with sequenceGaps := idx.sequenceGaps + 1, lastSeq := seq }, true)

/-- The scan for the oldest entry: its key, its update time, and whether none was seen. -/
def scanOldest (visited : List (Sigma fun _ : String => IndexEntry)) : String × ℤ × Bool :=
  visited.foldl (fun (oldestKey, oldest, first) e =>
    if first ∨ e.2.updatedAt < oldest then (e.1, e.2.updatedAt, false)
    else (oldestKey, oldest, first)) ("", 0, true)

/-- The eviction loop; `excess` is the number of entries still to remove. -/
def evictLoop (order : EntryOrder) : ℕ → Index → Index
  | 0, idx => idx
  | excess + 1, idx =>
    let oldestKey := (scanOldest (order.visit idx.entries.entries)).1
    if oldestKey = "" then idx
    else evictLoop order excess
      { idx with
        entries := idx.entries.erase oldestKey
        eventsDropped := idx.eventsDropped + 1 }

/-- Enforces the bound by removing the oldest-updated entries. -/
def evictIfNeededLocked (idx : Index) (order : EntryOrder) : Index :=
  evictLoop order (idx.entries.keys.length - idx.cfg.maxEntries).toNat idx

/-- Records a store event. -/
def applyStore (idx : Index) (now : ℤ) (order : EntryOrder) (seq : ℤ) (key parent : String)
    (matchedTokens blockSize : ℤ) : Index :=
  let (idx, accept) :=
    { idx with eventsReceived := idx.eventsReceived + 1 }.checkSeqLocked seq
  if !accept then idx
  else
    let idx := { idx with lastUpdate := now }
    match idx.entries.lookup key with
    | some e =>
      if e.present ∧ e.lastSeq = seq then { idx with duplicates := idx.duplicates + 1 }
      else
        { idx with
          entries := idx.entries.insert key
            { e with
              present := true
              parent := parent
              matchedTokens := if 0 < matchedTokens then matchedTokens else e.matchedTokens
              blockSize := if 0 < blockSize then blockSize else e.blockSize
              lastSeq := seq
              updatedAt := now } }
    | none =>
      { idx with
        entries := idx.entries.insert key
          { key := key, parent := parent, matchedTokens := matchedTokens, blockSize := blockSize,
            present := true, lastSeq := seq, updatedAt := now } }.evictIfNeededLocked order

/-- Records a block removal. -/
def applyRemove (idx : Index) (now seq : ℤ) (key : String) : Index :=
  let (idx, accept) :=
    { idx with eventsReceived := idx.eventsReceived + 1 }.checkSeqLocked seq
  if !accept then idx
  else
    let idx := { idx with lastUpdate := now }
    match idx.entries.lookup key with
    | some e =>
      { idx with
        entries := idx.entries.insert key
          { e with present := false, lastSeq := seq, updatedAt := now } }
    | none => idx

/-- Handles the all-blocks-cleared event, whatever its sequence number. -/
def applyClear (idx : Index) (now seq : ℤ) : Index :=
  let (idx, _) := { idx with eventsReceived := idx.eventsReceived + 1 }.checkSeqLocked seq
  { idx with
    entries := ∅
    resetEpoch := idx.resetEpoch + 1
    resets := idx.resets + 1
    lastUpdate := now }

/-- The reset on an observed runtime restart. -/
def reset (idx : Index) (now : ℤ) : Index :=
  { idx with
    entries := ∅
    haveSeq := false
    lastSeq := 0
    resetEpoch := idx.resetEpoch + 1
    resets := idx.resets + 1
    lastUpdate := 0
    startedAt := now }

/-! ### Reads -/

end Index

/-- The readings that one call makes of the clock, in the order of the source. -/
abbrev Readings := ℕ → ℤ

namespace Index

/-- Whether the index is too old to trust. -/
def isStaleLocked (idx : Index) (now : ℤ) : Bool :=
  if idx.cfg.staleAfter ≤ 0 then false
  else if idx.lastUpdate = 0 then true
  else decide (idx.cfg.staleAfter < sub now idx.lastUpdate)

/-- The confidence before the gap penalty: a linear decay across the stale window. -/
def freshness (idx : Index) (now : ℤ) : ℚ :=
  if 0 < idx.cfg.staleAfter then
    let conf := 1 - seconds (sub now idx.lastUpdate) / seconds idx.cfg.staleAfter
    if conf < 0 then 0 else conf
  else 1

/-- The share of confidence that the counted gaps take away. -/
def gapPenalty (gaps : ℕ) : ℚ :=
  let penalty := (1 / 4 : ℚ) * gaps
  if 3 / 4 < penalty then 3 / 4 else penalty

/-- The confidence from freshness and gap pressure. -/
def confidenceLockedAt (idx : Index) (clock : Readings) : ℚ :=
  if idx.lastUpdate = 0 ∨ idx.isStaleLocked (clock 0) then 0
  else
    let conf := idx.freshness (clock 1)
    let conf := if 0 < idx.sequenceGaps then conf * (1 - gapPenalty idx.sequenceGaps) else conf
    if conf < 0 then 0 else conf

/-- The confidence while the clock stands still. -/
def confidenceLocked (idx : Index) (now : ℤ) : ℚ := idx.confidenceLockedAt fun _ => now

/-- The matched tokens of a key that is present and not expired. -/
def lookupKeyLocked (idx : Index) (now : ℤ) (key : String) : ℤ × Bool :=
  match idx.entries.lookup key with
  | none => (0, false)
  | some e =>
    if !e.present then (0, false)
    else if 0 < idx.cfg.entryTTL ∧ idx.cfg.entryTTL < sub now e.updatedAt then (0, false)
    else (e.matchedTokens, true)

def ageMsLocked (idx : Index) (now : ℤ) : ℤ :=
  if idx.lastUpdate = 0 then -1 else milliseconds (sub now idx.lastUpdate)

/-- Tokens, confidence and age of a single key. -/
def lookupKeyAt (idx : Index) (clock : Readings) (key : String) : ℤ × ℚ × ℤ :=
  if idx.isStaleLocked (clock 0) then (0, 0, idx.ageMsLocked (clock 1))
  else
    let conf := idx.confidenceLockedAt fun n => clock (n + 1)
    let (t, present) := idx.lookupKeyLocked (clock 3) key
    if !present then (0, conf, idx.ageMsLocked (clock 4))
    else (t, conf, idx.ageMsLocked (clock 4))

/-- A lookup while the clock stands still. -/
def lookupKey (idx : Index) (now : ℤ) (key : String) : ℤ × ℚ × ℤ :=
  idx.lookupKeyAt (fun _ => now) key

end Index

/-- The metadata that the index publishes (the fields of `cache.Snapshot` it fills). -/
structure SnapshotMeta where
  confidence : ℚ
  snapshotAgeMs : ℤ
  lastEventSequence : ℤ
  cacheResetEpoch : ℤ
  indexEntries : ℕ
  indexMaxEntries : ℤ
  eventsReceivedTotal : ℕ
  eventsDroppedTotal : ℕ
  sequenceGapsTotal : ℕ
  staleInvalidations : ℕ
  duplicateEventsTotal : ℕ
  outOfOrderEventsTotal : ℕ
  resetsTotal : ℕ
  ready : Bool
  updatedAt : ℤ
  deriving DecidableEq, Repr

/-- Reads the metadata; a stale index that has seen an event is counted as invalidated. -/
def Index.snapshotMetaAt (idx : Index) (clock : Readings) : Index × SnapshotMeta :=
  let stale := idx.isStaleLocked (clock 0)
  let idx := if stale ∧ idx.lastUpdate ≠ 0 then
      { idx with staleInvalidated := idx.staleInvalidated + 1 }
    else idx
  (idx,
    { confidence := idx.confidenceLockedAt fun n => clock (n + 1)
      snapshotAgeMs := idx.ageMsLocked (clock 3)
      lastEventSequence := idx.lastSeq
      cacheResetEpoch := idx.resetEpoch
      indexEntries := (idx.entries.entries.filter fun e => e.2.present).length
      indexMaxEntries := idx.cfg.maxEntries
      eventsReceivedTotal := idx.eventsReceived
      eventsDroppedTotal := idx.eventsDropped
      sequenceGapsTotal := idx.sequenceGaps
      staleInvalidations := idx.staleInvalidated
      duplicateEventsTotal := idx.duplicates
      outOfOrderEventsTotal := idx.outOfOrder
      resetsTotal := idx.resets
      ready := !stale && decide (idx.lastUpdate ≠ 0)
      updatedAt := idx.lastUpdate })

/-- The metadata read while the clock stands still. -/
def Index.snapshotMeta (idx : Index) (now : ℤ) : Index × SnapshotMeta :=
  idx.snapshotMetaAt fun _ => now

/-- A snapshot changes nothing but the count of invalidations. -/
theorem Index.snapshotMeta_fst (idx : Index) (now : ℤ) :
    ∃ n, (idx.snapshotMeta now).1 = { idx with staleInvalidated := n } := by
  rw [snapshotMeta, snapshotMetaAt]
  split
  · exact ⟨_, rfl⟩
  · exact ⟨_, rfl⟩

/-! ### Histories of calls -/

/-- One call that changes the index, with the clock reading it takes. -/
inductive IndexCall where
  | store (now : ℤ) (order : EntryOrder) (seq : ℤ) (key parent : String)
      (matchedTokens blockSize : ℤ)
  | remove (now seq : ℤ) (key : String)
  | clear (now seq : ℤ)
  | reset (now : ℤ)

/-- The effect of one call. -/
def Index.call (idx : Index) : IndexCall → Index
  | .store now order seq key parent matchedTokens blockSize =>
    idx.applyStore now order seq key parent matchedTokens blockSize
  | .remove now seq key => idx.applyRemove now seq key
  | .clear now seq => idx.applyClear now seq
  | .reset now => idx.reset now

/-- The effect of a history of calls. -/
def Index.run (idx : Index) (calls : List IndexCall) : Index := calls.foldl Index.call idx

@[simp] theorem Index.run_nil (idx : Index) : idx.run [] = idx := rfl

@[simp] theorem Index.run_cons (idx : Index) (c : IndexCall) (calls : List IndexCall) :
    idx.run (c :: calls) = (idx.call c).run calls := rfl

theorem Index.run_append (idx : Index) (before after : List IndexCall) :
    idx.run (before ++ after) = (idx.run before).run after := List.foldl_append

/-- A call of the feed or of a reader; only the metadata's reader changes the index. -/
inductive IndexUse where
  | call (c : IndexCall)
  | snapshotMeta (now : ℤ)

/-- The effect of one use. -/
def Index.use (idx : Index) : IndexUse → Index
  | .call c => idx.call c
  | .snapshotMeta now => (idx.snapshotMeta now).1

/-- The effect of a history of uses. -/
def Index.uses (idx : Index) (us : List IndexUse) : Index := us.foldl Index.use idx

end GpuSidecar.Cache
