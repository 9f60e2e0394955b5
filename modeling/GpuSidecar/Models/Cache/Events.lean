import GpuSidecar.Models.Cache.Index
import Mathlib.Tactic.Common

/-!
# What the calls do to the index

One closed form for the sequence check, one for the eviction loop, and from them the
effect of every call on sequencing, freshness and presence. Later results about
whole histories use these equations and never unfold the calls again.
-/

namespace GpuSidecar.Cache

open Map

namespace Index

/-- The event would be counted as a gap: at least one whole batch was skipped. -/
def skips (idx : Index) (seq : ℤ) : Prop := idx.haveSeq = true ∧ idx.lastSeq + 1 < seq

instance (idx : Index) (seq : ℤ) : Decidable (idx.skips seq) :=
  inferInstanceAs (Decidable (_ ∧ _))

/-- The event belongs to a batch older than the newest one seen. -/
def late (idx : Index) (seq : ℤ) : Prop := idx.haveSeq = true ∧ seq < idx.lastSeq

instance (idx : Index) (seq : ℤ) : Decidable (idx.late seq) :=
  inferInstanceAs (Decidable (_ ∧ _))

/-- The sequence check in closed form: every event is accepted, the newest number is the
maximum, and the two counters record skipped and late batches. -/
theorem checkSeqLocked_eq (idx : Index) (seq : ℤ) :
    idx.checkSeqLocked seq =
      ({ idx with
          haveSeq := true
          lastSeq := if idx.haveSeq then max idx.lastSeq seq else seq
          outOfOrder := idx.outOfOrder + if idx.late seq then 1 else 0
          sequenceGaps := idx.sequenceGaps + if idx.skips seq then 1 else 0 }, true) := by
  rcases idx with ⟨cfg, entries, lastSeq, haveSeq, e1, e2, e3, e4, e5, e6, e7, e8, e9, e10⟩
  unfold checkSeqLocked skips late
  cases haveSeq with
  | false => simp
  | true =>
    rcases lt_trichotomy seq lastSeq with h | h | h
    · have h1 : ¬ seq = lastSeq + 1 := by omega
      have h2 : ¬ lastSeq + 1 < seq := by omega
      simp [h, h1, h2, ne_of_lt h, le_of_lt h]
    · simp [h]
    · by_cases hn : seq = lastSeq + 1
      · simp [hn]
      · have h1 : ¬ seq < lastSeq := by omega
        have h2 : lastSeq + 1 < seq := by omega
        simp [hn, h1, h2, ne_of_gt h, le_of_lt h]

/-- The eviction loop touches only the entries and the drop counter, and it drops
nothing without counting it. -/
theorem evictLoop_eq (order : EntryOrder) (excess : ℕ) (idx : Index) :
    ∃ entries dropped, evictLoop order excess idx =
      { idx with entries := entries, eventsDropped := idx.eventsDropped + dropped } ∧
      (dropped = 0 → entries = idx.entries) := by
  induction excess generalizing idx with
  | zero => exact ⟨idx.entries, 0, rfl, fun _ => rfl⟩
  | succ excess ih =>
    rw [evictLoop]
    split
    · exact ⟨idx.entries, 0, rfl, fun _ => rfl⟩
    · obtain ⟨entries, dropped, he, -⟩ := ih
        { idx with
          entries := idx.entries.erase (scanOldest (order.visit idx.entries.entries)).1
          eventsDropped := idx.eventsDropped + 1 }
      refine ⟨entries, dropped + 1, ?_, fun h => absurd h (Nat.succ_ne_zero dropped)⟩
      rw [he]
      simp only [Nat.add_assoc, Nat.add_comm 1 dropped]

/-- The index after the sequence check and the clock update that every event makes. -/
def received (idx : Index) (now seq : ℤ) : Index :=
  { idx with
    eventsReceived := idx.eventsReceived + 1
    haveSeq := true
    lastSeq := if idx.haveSeq then max idx.lastSeq seq else seq
    outOfOrder := idx.outOfOrder + if idx.late seq then 1 else 0
    sequenceGaps := idx.sequenceGaps + if idx.skips seq then 1 else 0
    lastUpdate := now }

/-- The entry that a store leaves for its key. -/
def storedEntry (previous : Option IndexEntry) (now seq : ℤ) (key parent : String)
    (matchedTokens blockSize : ℤ) : IndexEntry :=
  match previous with
  | some e =>
    { e with
      present := true
      parent := parent
      matchedTokens := if 0 < matchedTokens then matchedTokens else e.matchedTokens
      blockSize := if 0 < blockSize then blockSize else e.blockSize
      lastSeq := seq
      updatedAt := now }
  | none =>
    { key := key, parent := parent, matchedTokens := matchedTokens, blockSize := blockSize,
      present := true, lastSeq := seq, updatedAt := now }

/-- The entry of a stored key is present. -/
theorem storedEntry_present (previous : Option IndexEntry) (now seq : ℤ) (key parent : String)
    (tokens size : ℤ) : (storedEntry previous now seq key parent tokens size).present = true := by
  cases previous <;> rfl

/-- A store of a new key writes its entry and evicts what exceeds the bound. -/
theorem applyStore_new (idx : Index) (now : ℤ) (order : EntryOrder) (seq : ℤ)
    {key : String} (hl : idx.entries.lookup key = none) (parent : String)
    (matchedTokens blockSize : ℤ) :
    idx.applyStore now order seq key parent matchedTokens blockSize =
      { idx.received now seq with
        entries := idx.entries.insert key
          (storedEntry none now seq key parent matchedTokens blockSize) }.evictIfNeededLocked
        order := by
  rw [applyStore, checkSeqLocked_eq]
  simp only [Bool.not_true, Bool.false_eq_true, if_false, hl]
  rfl

/-- A store of a known key is a counted duplicate of a present entry, or writes its entry. -/
theorem applyStore_known (idx : Index) (now : ℤ) (order : EntryOrder) (seq : ℤ) {key : String}
    {e : IndexEntry} (hl : idx.entries.lookup key = some e) (parent : String)
    (matchedTokens blockSize : ℤ) :
    (e.present = true ∧ idx.applyStore now order seq key parent matchedTokens blockSize =
        { idx.received now seq with duplicates := idx.duplicates + 1 }) ∨
      idx.applyStore now order seq key parent matchedTokens blockSize =
        { idx.received now seq with
          entries := idx.entries.insert key
            (storedEntry (some e) now seq key parent matchedTokens blockSize) } := by
  rw [applyStore, checkSeqLocked_eq]
  simp only [Bool.not_true, Bool.false_eq_true, if_false, hl]
  by_cases hdup : e.present = true ∧ e.lastSeq = seq
  · left
    refine ⟨hdup.1, ?_⟩
    rw [if_pos hdup]
    rfl
  · right
    rw [if_neg hdup]
    rfl

/-- A store either is a counted duplicate of a present entry, or writes its entry and
evicts what exceeds the bound. -/
theorem applyStore_cases (idx : Index) (now : ℤ) (order : EntryOrder) (seq : ℤ)
    (key parent : String) (matchedTokens blockSize : ℤ) :
    (∃ e, idx.entries.lookup key = some e ∧ e.present = true ∧
      idx.applyStore now order seq key parent matchedTokens blockSize =
        { idx.received now seq with duplicates := idx.duplicates + 1 }) ∨
    (∃ entries dropped,
      idx.applyStore now order seq key parent matchedTokens blockSize =
        { idx.received now seq with
          entries := entries, eventsDropped := idx.eventsDropped + dropped } ∧
      (dropped = 0 → entries = idx.entries.insert key
        (storedEntry (idx.entries.lookup key) now seq key parent matchedTokens blockSize))) := by
  cases hl : idx.entries.lookup key with
  | none =>
    right
    rw [idx.applyStore_new now order seq hl]
    obtain ⟨entries, dropped, he, hd⟩ := evictLoop_eq order
      (((idx.entries.insert key (storedEntry none now seq key parent matchedTokens
        blockSize)).keys.length : ℤ) - idx.cfg.maxEntries).toNat
      { idx.received now seq with
        entries := idx.entries.insert key
          (storedEntry none now seq key parent matchedTokens blockSize) }
    exact ⟨entries, dropped, he, hd⟩
  | some e =>
    rcases idx.applyStore_known now order seq hl parent matchedTokens blockSize with
      ⟨hpresent, hdup⟩ | hwrite
    · exact Or.inl ⟨e, rfl, hpresent, hdup⟩
    · exact Or.inr ⟨_, 0, hwrite, fun _ => rfl⟩

/-- A removal marks the entry of its key, if there is one. -/
theorem applyRemove_eq (idx : Index) (now seq : ℤ) (key : String) :
    idx.applyRemove now seq key =
      { idx.received now seq with
        entries := match idx.entries.lookup key with
          | some e => idx.entries.insert key
              { e with present := false, lastSeq := seq, updatedAt := now }
          | none => idx.entries } := by
  rw [applyRemove, checkSeqLocked_eq]
  simp only [Bool.not_true, Bool.false_eq_true, if_false]
  cases idx.entries.lookup key <;> rfl

/-- A clear drops every entry. -/
theorem applyClear_eq (idx : Index) (now seq : ℤ) :
    idx.applyClear now seq =
      { idx.received now seq with
        entries := ∅, resetEpoch := idx.resetEpoch + 1, resets := idx.resets + 1 } := by
  rw [applyClear, checkSeqLocked_eq]
  rfl

end Index

/-! ### Sequencing and freshness -/

/-- The sequence number of an event; a reset has none. -/
def IndexCall.seq? : IndexCall → Option ℤ
  | .store _ _ seq _ _ _ _ => some seq
  | .remove _ seq _ => some seq
  | .clear _ seq => some seq
  | .reset _ => none

/-- The clock reading of a call. -/
def IndexCall.now : IndexCall → ℤ
  | .store now _ _ _ _ _ _ => now
  | .remove now _ _ => now
  | .clear now _ => now
  | .reset now => now

namespace Index

/-- The fields on which confidence depends, apart from the gap counter. -/
structure Tracking where
  cfg : IndexConfig
  haveSeq : Bool
  lastSeq : ℤ
  lastUpdate : ℤ
  deriving DecidableEq, Repr

/-- The tracking fields of an index. -/
def tracking (idx : Index) : Tracking := ⟨idx.cfg, idx.haveSeq, idx.lastSeq, idx.lastUpdate⟩

/-- An event moves the tracking fields and the two counters, whatever it does to entries. -/
theorem call_event (idx : Index) {c : IndexCall} {seq : ℤ} (h : c.seq? = some seq) :
    (idx.call c).tracking = (idx.received c.now seq).tracking ∧
      (idx.call c).sequenceGaps = idx.sequenceGaps + (if idx.skips seq then 1 else 0) ∧
      (idx.call c).outOfOrder = idx.outOfOrder + if idx.late seq then 1 else 0 := by
  cases c with
  | store now order s key parent tokens size =>
    obtain rfl : s = seq := Option.some.inj h
    rcases idx.applyStore_cases now order s key parent tokens size with
      ⟨e, -, -, he⟩ | ⟨entries, dropped, he, -⟩
    · rw [call, he]
      exact ⟨rfl, rfl, rfl⟩
    · rw [call, he]
      exact ⟨rfl, rfl, rfl⟩
  | remove now s key =>
    obtain rfl : s = seq := Option.some.inj h
    rw [call, applyRemove_eq]
    exact ⟨rfl, rfl, rfl⟩
  | clear now s =>
    obtain rfl : s = seq := Option.some.inj h
    rw [call, applyClear_eq]
    exact ⟨rfl, rfl, rfl⟩
  | reset now => simp [IndexCall.seq?] at h

/-- Indexes with equal tracking fields count the same events as gaps. -/
theorem skips_congr {a b : Index} (h : a.tracking = b.tracking) (seq : ℤ) :
    a.skips seq ↔ b.skips seq := by
  have hh := congrArg Tracking.haveSeq h
  have hl := congrArg Tracking.lastSeq h
  simp only [tracking] at hh hl
  rw [skips, skips, hh, hl]

/-- Confidence is a function of the tracking fields and the gap counter. -/
theorem confidenceLocked_congr {a b : Index} (h : a.tracking = b.tracking)
    (hg : a.sequenceGaps = b.sequenceGaps) (now : ℤ) :
    a.confidenceLocked now = b.confidenceLocked now := by
  have hc := congrArg Tracking.cfg h
  have hu := congrArg Tracking.lastUpdate h
  simp only [tracking] at hc hu
  simp only [confidenceLocked, confidenceLockedAt, isStaleLocked, freshness, hc, hu, hg]

/-- The highest number seen since the last reset. -/
def newest (idx : Index) : Option ℤ := if idx.haveSeq then some idx.lastSeq else none

/-- An event skips a batch exactly if it is more than one above the newest number. -/
theorem not_skips_iff (idx : Index) (seq : ℤ) :
    ¬ idx.skips seq ↔ ∀ l ∈ idx.newest, seq ≤ l + 1 := by
  rw [skips, newest]
  cases idx.haveSeq <;> simp

/-- An event makes its number the newest if it is. -/
theorem newest_call_event (idx : Index) {c : IndexCall} {seq : ℤ} (h : c.seq? = some seq) :
    (idx.call c).newest = some (idx.newest.elim seq fun l => max l seq) := by
  have ht := (idx.call_event h).1
  have hh : (idx.call c).haveSeq = true := congrArg Tracking.haveSeq ht
  have hl : (idx.call c).lastSeq = if idx.haveSeq then max idx.lastSeq seq else seq :=
    congrArg Tracking.lastSeq ht
  rw [newest, newest, hh, hl]
  cases idx.haveSeq <;> simp

/-- A call without a number is a reset, which keeps the gap counter and forgets the
numbers. -/
theorem call_of_seq?_eq_none (idx : Index) {c : IndexCall} (h : c.seq? = none) :
    idx.call c = idx.reset c.now := by
  cases c with
  | reset now => rfl
  | store | remove | clear => simp [IndexCall.seq?] at h

/-- No call changes the configuration. -/
theorem call_cfg (idx : Index) (c : IndexCall) : (idx.call c).cfg = idx.cfg := by
  cases hs : c.seq? with
  | none => rw [idx.call_of_seq?_eq_none hs, reset]
  | some seq => exact congrArg Tracking.cfg (idx.call_event hs).1

/-- No call lowers the gap counter. -/
theorem sequenceGaps_le_call (idx : Index) (c : IndexCall) :
    idx.sequenceGaps ≤ (idx.call c).sequenceGaps := by
  cases hs : c.seq? with
  | some seq =>
    rw [(idx.call_event hs).2.1]
    exact Nat.le_add_right _ _
  | none =>
    rw [idx.call_of_seq?_eq_none hs]
    exact le_rfl

/-! ### Presence -/

/-- Whether a key is marked as stored. -/
def presentKey (idx : Index) (key : String) : Bool :=
  match idx.entries.lookup key with
  | some e => e.present
  | none => false

/-- A store that evicts nothing makes its key present and leaves all other keys alone. -/
theorem presentKey_applyStore (idx : Index) (now : ℤ) (order : EntryOrder) (seq : ℤ)
    (key parent : String) (tokens size : ℤ)
    (hkeep : (idx.applyStore now order seq key parent tokens size).eventsDropped =
      idx.eventsDropped) (k : String) :
    (idx.applyStore now order seq key parent tokens size).presentKey k =
      if k = key then true else idx.presentKey k := by
  rcases idx.applyStore_cases now order seq key parent tokens size with
    ⟨e, hl, hp, he⟩ | ⟨entries, dropped, he, hd⟩
  · rw [he]
    by_cases hk : k = key
    · subst k
      simp [presentKey, received, hl, hp]
    · rw [if_neg hk]
      rfl
  · rw [he] at hkeep ⊢
    have hzero : dropped = 0 := by simpa using hkeep
    rw [presentKey, hd hzero]
    by_cases hk : k = key
    · subst k
      rw [AList.lookup_insert, if_pos rfl]
      exact storedEntry_present _ _ _ _ _ _ _
    · rw [AList.lookup_insert_ne hk, if_neg hk]
      rfl

/-- A removal makes its key absent and leaves all other keys alone. -/
theorem presentKey_applyRemove (idx : Index) (now seq : ℤ) (key k : String) :
    (idx.applyRemove now seq key).presentKey k =
      if k = key then false else idx.presentKey k := by
  rw [applyRemove_eq]
  cases hl : idx.entries.lookup key with
  | none =>
    by_cases hk : k = key
    · subst k
      simp [presentKey, hl]
    · rw [if_neg hk]
      rfl
  | some e =>
    by_cases hk : k = key
    · subst k
      simp [presentKey]
    · simp [presentKey, AList.lookup_insert_ne hk, hk]

/-- No call lowers the drop counter. -/
theorem eventsDropped_le_call (idx : Index) (c : IndexCall) :
    idx.eventsDropped ≤ (idx.call c).eventsDropped := by
  cases c with
  | store now order seq key parent tokens size =>
    rcases idx.applyStore_cases now order seq key parent tokens size with
      ⟨e, -, -, he⟩ | ⟨entries, dropped, he, -⟩
    · rw [call, he]
      exact le_rfl
    · rw [call, he]
      exact Nat.le_add_right _ _
  | remove now seq key =>
    rw [call, applyRemove_eq]
    exact le_rfl
  | clear now seq =>
    rw [call, applyClear_eq]
    exact le_rfl
  | reset now => exact le_rfl

/-- A measure that no call lowers is not lowered by a history. -/
theorem le_run_of_le_call {f : Index → ℕ} (h : ∀ idx c, f idx ≤ f (idx.call c)) (idx : Index)
    (calls : List IndexCall) : f idx ≤ f (idx.run calls) := by
  induction calls generalizing idx with
  | nil => exact le_rfl
  | cons c calls ih => exact (h idx c).trans (ih (idx.call c))

end Index

end GpuSidecar.Cache
