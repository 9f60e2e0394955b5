import GpuSidecar.Core.List.RunningMax
import GpuSidecar.Models.Cache.Events
import Mathlib.Data.List.DropRight

/-!
# The index as a function of the delivered events

What a history of events leaves in the index can be said without the index: which keys
are stored after the last clear, the highest sequence number, and how many numbers
skipped or fell behind the highest one before them. Since its construction or its last
reset, and as long as it evicts nothing, the index agrees with that account.
-/

namespace GpuSidecar.Cache

open RunningMax

/-! ### The account of a history -/

namespace IndexCall

def isClear : IndexCall → Bool
  | clear _ _ => true
  | _ => false

def isStore : IndexCall → Bool
  | store _ _ _ _ _ _ _ => true
  | _ => false

/-- The key that a store or a removal is about. -/
def key? : IndexCall → Option String
  | store _ _ _ key _ _ _ => some key
  | remove _ _ key => some key
  | _ => none

end IndexCall

/-- The events delivered after the last clear. -/
def sinceClear (calls : List IndexCall) : List IndexCall :=
  calls.rtakeWhile fun c => !c.isClear

/-- The last event delivered for a key since the last clear. -/
def lastFor (calls : List IndexCall) (key : String) : Option IndexCall :=
  ((sinceClear calls).filter fun c => c.key? = some key).getLast?

/-- The sequence numbers delivered. -/
def numbers (calls : List IndexCall) : List ℤ := calls.filterMap IndexCall.seq?

/-- A clear forgets every key. -/
theorem lastFor_concat_clear (calls : List IndexCall) {c : IndexCall} (h : c.isClear = true)
    (key : String) : lastFor (calls ++ [c]) key = none := by
  rw [lastFor, sinceClear, List.rtakeWhile_concat_neg _ _ _ (by simp [h])]
  rfl

/-- A store or a removal is the last event of its key. -/
theorem lastFor_concat (calls : List IndexCall) {c : IndexCall} (h : c.isClear = false)
    (key : String) :
    lastFor (calls ++ [c]) key = if c.key? = some key then some c else lastFor calls key := by
  rw [lastFor, sinceClear, List.rtakeWhile_concat_pos _ _ _ (by simp [h]), List.filter_append]
  by_cases hk : c.key? = some key
  · simp [hk]
  · simp [hk, lastFor, sinceClear]

theorem numbers_concat {calls : List IndexCall} {c : IndexCall} {seq : ℤ}
    (h : c.seq? = some seq) : numbers (calls ++ [c]) = numbers calls ++ [seq] := by
  simp [numbers, List.filterMap_append, h]

/-- The index agrees with the account of the events delivered since a base state. -/
structure Refines (base : Index) (calls : List IndexCall) (idx : Index) : Prop where
  present : ∀ key, idx.presentKey key = true ↔ ∃ c, lastFor calls key = some c ∧ c.isStore = true
  lastSeq : ∀ seq, (numbers calls).max? = some seq → idx.lastSeq = seq
  sequenceGaps : idx.sequenceGaps =
    base.sequenceGaps + countAgainstMax (fun highest seq => highest + 1 < seq) (numbers calls)
  outOfOrder : idx.outOfOrder =
    base.outOfOrder + countAgainstMax (fun highest seq => seq < highest) (numbers calls)

/-! ### Agreement -/

namespace Index

/-- The index has no entries and no sequence number. -/
def Blank (idx : Index) : Prop := idx.entries = ∅ ∧ idx.haveSeq = false

/-- What one event does to presence, if it evicts nothing. -/
theorem presentKey_call (idx : Index) {c : IndexCall} {seq : ℤ} (h : c.seq? = some seq)
    (hkeep : (idx.call c).eventsDropped = idx.eventsDropped) (key : String) :
    (idx.call c).presentKey key =
      if c.isClear then false
      else if c.key? = some key then c.isStore else idx.presentKey key := by
  cases c with
  | store now order s k parent tokens size =>
    rw [call, idx.presentKey_applyStore now order s k parent tokens size hkeep key]
    simp [IndexCall.isClear, IndexCall.key?, IndexCall.isStore, eq_comm]
  | remove now s k =>
    rw [call, idx.presentKey_applyRemove now s k key]
    simp [IndexCall.isClear, IndexCall.key?, IndexCall.isStore, eq_comm]
  | clear now s =>
    rw [call, applyClear_eq]
    rfl
  | reset now => simp [IndexCall.seq?] at h

/-- An index that remembers the highest number counts a later one as late or as a gap
exactly by comparing it with that number. -/
theorem counts_of_newest {idx : Index} {seqs : List ℤ} (h : idx.newest = seqs.max?) (seq : ℤ) :
    (idx.skips seq ↔ (seqs.max?.any fun highest => highest + 1 < seq) = true) ∧
      (idx.late seq ↔ (seqs.max?.any fun highest => seq < highest) = true) := by
  rw [← h, newest, skips, late]
  cases idx.haveSeq <;> simp

/-- What is kept along a history from a blank index that evicts nothing. -/
theorem refines_of_blank {base : Index} (hblank : base.Blank) {calls : List IndexCall}
    (hevents : ∀ c ∈ calls, c.seq? ≠ none)
    (hkeep : (base.run calls).eventsDropped = base.eventsDropped) :
    (base.run calls).newest = (numbers calls).max? ∧ Refines base calls (base.run calls) := by
  induction calls using List.reverseRecOn with
  | nil =>
    obtain ⟨hentries, hhave⟩ := hblank
    refine ⟨by simp [newest, hhave, numbers], ?_, ?_, rfl, rfl⟩
    · intro key
      simp [presentKey, hentries, lastFor, sinceClear]
    · simp [numbers]
  | append_singleton calls c ih =>
    have hrun : base.run (calls ++ [c]) = (base.run calls).call c := by
      rw [run_append]
      rfl
    obtain ⟨hevents, hlast⟩ := List.forall_mem_append.mp hevents
    obtain ⟨seq, hseq⟩ := Option.ne_none_iff_exists'.mp (hlast c (List.mem_singleton_self c))
    have hle := le_run_of_le_call eventsDropped_le_call base calls
    have hstep := (base.run calls).eventsDropped_le_call c
    rw [hrun] at hkeep ⊢
    have hbefore : (base.run calls).eventsDropped = base.eventsDropped := by omega
    obtain ⟨hnewest, hprev⟩ := ih hevents hbefore
    obtain ⟨hskips, hlate⟩ := counts_of_newest hnewest seq
    obtain ⟨htracking, hgaps, hout⟩ := (base.run calls).call_event hseq
    have hnew : ((base.run calls).call c).newest = (numbers (calls ++ [c])).max? := by
      rw [newest_call_event _ hseq, numbers_concat hseq, max?_concat, hnewest]
    refine ⟨hnew, ?_, ?_, ?_, ?_⟩
    · intro key
      rw [presentKey_call _ hseq (hkeep.trans hbefore.symm) key]
      cases hclear : c.isClear with
      | true => simp [lastFor_concat_clear calls hclear]
      | false =>
        rw [lastFor_concat calls hclear]
        by_cases hkey : c.key? = some key
        · simp [hkey]
        · simpa [hkey] using hprev.present key
    · intro highest hmax
      have hhave : ((base.run calls).call c).haveSeq = true := congrArg Tracking.haveSeq htracking
      rw [← hnew, newest, hhave] at hmax
      exact Option.some.inj hmax
    · rw [hgaps, hprev.sequenceGaps, numbers_concat hseq, countAgainstMax_concat, Nat.add_assoc]
      simp only [hskips]
    · rw [hout, hprev.outOfOrder, numbers_concat hseq, countAgainstMax_concat, Nat.add_assoc]
      simp only [hlate]

end Index

/-- For every history of stores, removals and clears with arbitrary sequence numbers since
the index was made or reset, and without an eviction, the index agrees with the account
of the delivered events. -/
theorem index_refines_delivered (base : Index)
    (hbase : (∃ cfg start, base = newIndex cfg start) ∨ ∃ idx now, base = Index.reset idx now)
    (calls : List IndexCall) (hevents : ∀ c ∈ calls, c.seq? ≠ none)
    (hkeep : (base.run calls).eventsDropped = base.eventsDropped) :
    Refines base calls (base.run calls) := by
  have hblank : base.Blank := by
    rcases hbase with ⟨cfg, start, rfl⟩ | ⟨idx, now, rfl⟩
    · exact ⟨rfl, rfl⟩
    · exact ⟨rfl, rfl⟩
  exact (Index.refines_of_blank hblank hevents hkeep).2

/-- A skipped number, a late store and a clear between two keys. -/
def skippedThenLate : List IndexCall :=
  [.store 1 (.stored _) 1 "a" "" 16 16, .clear 2 4, .store 3 (.stored _) 2 "b" "a" 16 16,
    .remove 4 5 "a"]

/-- Of the two keys only the one stored after the clear is present; one number skipped, and
one was late. -/
theorem skippedThenLate_refines :
    ((newIndex defaultIndexConfig 0).run skippedThenLate).sequenceGaps = 1 ∧
      ((newIndex defaultIndexConfig 0).run skippedThenLate).outOfOrder = 1 ∧
      Refines (newIndex defaultIndexConfig 0) skippedThenLate
        ((newIndex defaultIndexConfig 0).run skippedThenLate) := by
  refine ⟨by decide +kernel, by decide +kernel, index_refines_delivered _
    (Or.inl ⟨defaultIndexConfig, 0, rfl⟩) skippedThenLate ?_ (by decide +kernel)⟩
  simp [skippedThenLate, IndexCall.seq?]

end GpuSidecar.Cache
