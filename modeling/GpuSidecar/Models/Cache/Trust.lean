import GpuSidecar.Core.Word.Int64
import GpuSidecar.Models.Cache.Events
import Mathlib.Tactic.Linarith
import Mathlib.Tactic.Positivity

/-!
# Confidence after a runtime restart

A restart resets the sequence tracking but keeps the gap counter, on which confidence
depends. Compared with a new index on the same later events, the reset index differs
by exactly the gaps counted before: it is trusted like a new one if and only if the
history before the restart skipped no batch. Sequence numbers are below the greatest 64-bit
integer, so that the successors the index computes are numbers as well.
-/

namespace GpuSidecar.Cache

open Word

/-- The event's number and its successor are 64-bit integers. -/
def IndexCall.Numbered (c : IndexCall) : Prop := ∀ seq ∈ c.seq?, InRange seq ∧ InRange (seq + 1)

/-- The successors that the sequence checks of a history compute fit into 64 bits. -/
def Index.SuccessorsFit (idx : Index) (calls : List IndexCall) : Prop :=
  ∀ done rest, calls = done ++ rest →
    int64 ((idx.run done).lastSeq + 1) = (idx.run done).lastSeq + 1

/-- The stream skips no batch: after its first event, and after the first event that
follows a reset, every number is at most one above the highest number before it. -/
def NeverSkips : Option ℤ → List IndexCall → Prop
  | _, [] => True
  | last, c :: calls =>
    match c.seq? with
    | none => NeverSkips none calls
    | some seq =>
      (∀ l ∈ last, seq ≤ l + 1) ∧ NeverSkips (some (last.elim seq fun l => max l seq)) calls

namespace Index

/-- The gap counter stands still exactly on the streams that skip no batch. -/
theorem sequenceGaps_run_eq_iff (idx : Index) (calls : List IndexCall) :
    (idx.run calls).sequenceGaps = idx.sequenceGaps ↔ NeverSkips idx.newest calls := by
  induction calls generalizing idx with
  | nil => simp [NeverSkips]
  | cons c calls ih =>
    rw [run_cons]
    cases hs : c.seq? with
    | none =>
      have hreset := idx.call_of_seq?_eq_none hs
      simp only [NeverSkips, hs]
      rw [← show (idx.call c).newest = none by rw [hreset]; rfl, ← ih (idx.call c), hreset]
      rfl
    | some seq =>
      simp only [NeverSkips, hs]
      rw [← idx.not_skips_iff, ← idx.newest_call_event hs, ← ih (idx.call c),
        (idx.call_event hs).2.1]
      have hmono := le_run_of_le_call sequenceGaps_le_call (idx.call c) calls
      rw [(idx.call_event hs).2.1] at hmono
      by_cases hskip : idx.skips seq
      · simp only [hskip, if_true] at hmono ⊢
        simp only [not_true_eq_false, false_and, iff_false]
        omega
      · simp [hskip]

/-- The successor of the number that an index starts from. -/
theorem inRange_one : InRange (0 + 1) := ⟨by decide, by decide⟩

/-- A numbered event leaves a number that has a successor. -/
theorem inRange_succ_call {idx : Index} (h : InRange (idx.lastSeq + 1)) {c : IndexCall}
    (hc : c.Numbered) : InRange ((idx.call c).lastSeq + 1) := by
  cases hs : c.seq? with
  | none =>
    rw [idx.call_of_seq?_eq_none hs]
    exact inRange_one
  | some seq =>
    have hlast : (idx.call c).lastSeq = if idx.haveSeq then max idx.lastSeq seq else seq :=
      congrArg Tracking.lastSeq (idx.call_event hs).1
    have hseq := (hc seq hs).2
    rw [hlast]
    split
    · rcases max_choice idx.lastSeq seq with hmax | hmax
      · rwa [hmax]
      · rwa [hmax]
    · exact hseq

theorem successorsFit_of_numbered {idx : Index} (h : InRange (idx.lastSeq + 1))
    {calls : List IndexCall} (hcalls : ∀ c ∈ calls, c.Numbered) : idx.SuccessorsFit calls := by
  rintro done rest rfl
  apply int64_eq_self
  induction done using List.reverseRecOn with
  | nil => exact h
  | append_singleton done c ih =>
    rw [run_append]
    apply inRange_succ_call
    · apply ih
      intro c' hc'
      apply hcalls
      simp only [List.append_assoc, List.mem_append] at hc' ⊢
      tauto
    · exact hcalls c (by simp)

/-- One call on two indexes with equal tracking fields. -/
theorem call_lockstep {a b : Index} (h : a.tracking = b.tracking) (c : IndexCall) :
    (a.call c).tracking = (b.call c).tracking ∧
      (a.call c).sequenceGaps + b.sequenceGaps = (b.call c).sequenceGaps + a.sequenceGaps := by
  have hc : a.cfg = b.cfg := congrArg Tracking.cfg h
  have hh : a.haveSeq = b.haveSeq := congrArg Tracking.haveSeq h
  have hl : a.lastSeq = b.lastSeq := congrArg Tracking.lastSeq h
  cases hs : c.seq? with
  | none =>
    rw [a.call_of_seq?_eq_none hs, b.call_of_seq?_eq_none hs]
    refine ⟨?_, Nat.add_comm _ _⟩
    simp only [tracking, reset, hc]
  | some seq =>
    obtain ⟨hta, hga, -⟩ := a.call_event hs
    obtain ⟨htb, hgb, -⟩ := b.call_event hs
    refine ⟨?_, ?_⟩
    · rw [hta, htb]
      simp only [tracking, received, hc, hh, hl]
    · rw [hga, hgb, if_congr (skips_congr h seq) rfl rfl]
      omega

/-- Two indexes with equal tracking fields keep them equal and keep their gap counters
apart by the same number. -/
theorem run_lockstep {a b : Index} (h : a.tracking = b.tracking) (calls : List IndexCall) :
    (a.run calls).tracking = (b.run calls).tracking ∧
      (a.run calls).sequenceGaps + b.sequenceGaps =
        (b.run calls).sequenceGaps + a.sequenceGaps := by
  induction calls generalizing a b with
  | nil => exact ⟨h, Nat.add_comm _ _⟩
  | cons c calls ih =>
    obtain ⟨ht, hg⟩ := call_lockstep h c
    obtain ⟨ht', hg'⟩ := ih ht
    refine ⟨ht', ?_⟩
    rw [run_cons, run_cons]
    omega

/-- No history changes the configuration. -/
theorem run_cfg (idx : Index) (calls : List IndexCall) : (idx.run calls).cfg = idx.cfg := by
  induction calls generalizing idx with
  | nil => rfl
  | cons c calls ih => rw [run_cons, ih, call_cfg]

/-- The confidence of a key lookup, present or not, is that of the index. -/
theorem lookupKey_confidence (idx : Index) (now : ℤ) (key : String) :
    (idx.lookupKey now key).2.1 = idx.confidenceLocked now := by
  rw [lookupKey, lookupKeyAt]
  by_cases hs : idx.isStaleLocked now = true
  · rw [if_pos hs, confidenceLocked, confidenceLockedAt, if_pos (Or.inr hs)]
  · rw [if_neg hs]
    rcases idx.lookupKeyLocked now key with ⟨t, _ | _⟩ <;> rfl

/-- The published confidence is that of the index. -/
theorem snapshotMeta_confidence (idx : Index) (now : ℤ) :
    (idx.snapshotMeta now).2.confidence = idx.confidenceLocked now := by
  rw [snapshotMeta, snapshotMetaAt]
  split <;> rfl

/-- Every counted gap costs confidence. -/
theorem gapPenalty_pos {gaps : ℕ} (h : 0 < gaps) : 0 < gapPenalty gaps := by
  have hcast : (0 : ℚ) < gaps := Nat.cast_pos.mpr h
  rw [gapPenalty]
  split
  · norm_num
  · positivity

/-- At the instant of its last event an index is not stale, and fresh in full. -/
theorem fresh_at_lastUpdate (idx : Index) (h : idx.lastUpdate ≠ 0) :
    idx.isStaleLocked idx.lastUpdate = false ∧ idx.freshness idx.lastUpdate = 1 := by
  by_cases hs : 0 < idx.cfg.staleAfter
  · have hs' : ¬ idx.cfg.staleAfter ≤ 0 := not_le.mpr hs
    simp [isStaleLocked, freshness, h, hs, hs', Time.sub_self, Time.seconds_zero, le_of_lt hs]
  · simp [isStaleLocked, freshness, hs, not_lt.mp hs]

/-- At the instant of its last event an index is fully trusted if and only if it has
counted no gap. -/
theorem confidenceLocked_at_lastUpdate_eq_one_iff (idx : Index) (h : idx.lastUpdate ≠ 0) :
    idx.confidenceLocked idx.lastUpdate = 1 ↔ idx.sequenceGaps = 0 := by
  obtain ⟨hstale, hfresh⟩ := idx.fresh_at_lastUpdate h
  rw [confidenceLocked, confidenceLockedAt, if_neg (by simp [h, hstale]), hfresh]
  by_cases hg : idx.sequenceGaps = 0
  · simp [hg]
  · have hpos : 0 < idx.sequenceGaps := Nat.pos_of_ne_zero hg
    have hpenalty : 0 < gapPenalty idx.sequenceGaps := gapPenalty_pos hpos
    simp only [hpos, if_true, one_mul, hg, iff_false]
    split
    · exact zero_ne_one
    · intro hone
      linarith

end Index

/-- The confidence that a restarted index reports equals, at every clock value and for
every key, the confidence that a new index reports after the same stream. -/
def TrustedLikeNew (cfg : IndexConfig) (start : ℤ) (before : List IndexCall) (restart : ℤ) :
    Prop :=
  ∀ (start' : ℤ) (after : List IndexCall), (∀ c ∈ after, c.Numbered) → NeverSkips none after →
    ∀ (now : ℤ) (key : String),
    let restarted := (((newIndex cfg start).run before).reset restart).run after
    let new := (newIndex cfg start').run after
    (restarted.lookupKey now key).2.1 = (new.lookupKey now key).2.1 ∧
      (restarted.snapshotMeta now).2.confidence = (new.snapshotMeta now).2.confidence

/-- The history before a restart, the restart and what follows compute no successor that
does not fit, as long as every number has one. -/
theorem successorsFit_restart (cfg : IndexConfig) (start : ℤ) {before : List IndexCall}
    (hbefore : ∀ c ∈ before, c.Numbered) (restart : ℤ) {after : List IndexCall}
    (hafter : ∀ c ∈ after, c.Numbered) :
    (newIndex cfg start).SuccessorsFit (before ++ .reset restart :: after) := by
  apply Index.successorsFit_of_numbered Index.inRange_one
  intro c hc
  rcases List.mem_append.mp hc with hc | hc
  · exact hbefore c hc
  · rcases List.mem_cons.mp hc with rfl | hc
    · rintro seq ⟨⟩
    · exact hafter c hc

/-- For every history of events whose numbers are below the greatest 64-bit integer: no
successor overflows before or after a restart, and the restart restores trust if and only if
the history skipped no batch. -/
theorem trustedLikeNew_iff_neverSkips (cfg : IndexConfig) (start : ℤ) (before : List IndexCall)
    (hbefore : ∀ c ∈ before, c.Numbered) (restart : ℤ) :
    (∀ after : List IndexCall, (∀ c ∈ after, c.Numbered) →
        (newIndex cfg start).SuccessorsFit (before ++ .reset restart :: after)) ∧
      (TrustedLikeNew cfg start before restart ↔ NeverSkips none before) := by
  refine ⟨fun after => successorsFit_restart cfg start hbefore restart, ?_⟩
  have hgaps : ((newIndex cfg start).run before).sequenceGaps = 0 ↔ NeverSkips none before :=
    (newIndex cfg start).sequenceGaps_run_eq_iff before
  have htracking (start' : ℤ) : (((newIndex cfg start).run before).reset restart).tracking =
      (newIndex cfg start').tracking := by
    simp only [Index.tracking, Index.reset, Index.run_cfg]
    rfl
  rw [← hgaps]
  constructor
  · intro htrust
    have hnumbered : ∀ c ∈ [IndexCall.clear 1 0], c.Numbered := by
      simp [IndexCall.Numbered, IndexCall.seq?, InRange]
    have hconf := (htrust start [.clear 1 0] hnumbered
      (by simp [NeverSkips, IndexCall.seq?]) 1 "").2
    rw [Index.snapshotMeta_confidence, Index.snapshotMeta_confidence] at hconf
    have hnew := ((newIndex cfg start).run [.clear 1 0]).confidenceLocked_at_lastUpdate_eq_one_iff
      one_ne_zero
    have hold := ((((newIndex cfg start).run before).reset restart).run
      [.clear 1 0]).confidenceLocked_at_lastUpdate_eq_one_iff one_ne_zero
    have hcounted : ((((newIndex cfg start).run before).reset restart).run
        [.clear 1 0]).sequenceGaps = 0 := hold.mp (hconf.trans (hnew.mpr rfl))
    exact hcounted
  · intro hzero start' after _ _ now key
    obtain ⟨ht, hg⟩ := Index.run_lockstep (htracking start') after
    have hconf := Index.confidenceLocked_congr ht
      (hg.trans (congrArg _ hzero)) now
    simp only [Index.lookupKey_confidence, Index.snapshotMeta_confidence, hconf, and_self]

/-- Two batches in a row and the first one again. -/
def repeatedHistory : List IndexCall :=
  [.store 1 (.stored _) 1 "a" "" 16 16, .remove 2 2 "a", .store 3 (.stored _) 1 "a" "" 16 16]

/-- After a history without a gap the index is trusted like a new one. -/
theorem repeatedHistory_trustedLikeNew :
    TrustedLikeNew defaultIndexConfig 0 repeatedHistory 10 := by
  refine (trustedLikeNew_iff_neverSkips defaultIndexConfig 0 repeatedHistory ?_ 10).2.mpr ?_
  · simp [repeatedHistory, IndexCall.Numbered, IndexCall.seq?, InRange]
  · simp [repeatedHistory, NeverSkips, IndexCall.seq?]

/-- A store of batch 1 and one of batch 5: three batches were skipped. -/
def skippedHistory : List IndexCall :=
  [.store 1 (.stored _) 1 "a" "" 16 16, .store 2 (.stored _) 5 "b" "" 16 16]

/-- After a restart and one clean store, the index is trusted at three quarters where a
new one is trusted in full. -/
theorem skippedHistory_not_trustedLikeNew :
    let after : List IndexCall := [.store 20 (.stored _) 1 "a" "" 16 16]
    ((((newIndex defaultIndexConfig 0).run skippedHistory).reset 10).run after).confidenceLocked 20
        = 3 / 4 ∧
      ((newIndex defaultIndexConfig 0).run after).confidenceLocked 20 = 1 ∧
      ¬ TrustedLikeNew defaultIndexConfig 0 skippedHistory 10 := by
  intro after
  have hold : ((((newIndex defaultIndexConfig 0).run skippedHistory).reset 10).run
      after).confidenceLocked 20 = 3 / 4 := by
    decide +kernel
  have hnew : ((newIndex defaultIndexConfig 0).run after).confidenceLocked 20 = 1 := by
    decide +kernel
  refine ⟨hold, hnew, fun htrust => ?_⟩
  have hnumbered : ∀ c ∈ after, c.Numbered := by
    simp [after, IndexCall.Numbered, IndexCall.seq?, InRange]
  have hconf := (htrust 0 after hnumbered (by simp [after, NeverSkips, IndexCall.seq?]) 20 "a").2
  rw [Index.snapshotMeta_confidence, Index.snapshotMeta_confidence, hold, hnew] at hconf
  norm_num at hconf

end GpuSidecar.Cache
