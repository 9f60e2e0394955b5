import GpuSidecar.Core.Run.Guarded
import GpuSidecar.Models.Cache.Trust

/-!
# The explicit provider under concurrent observations

The embedding of `internal/cache/explicit_provider.go`. `Observe` takes the next
number from an atomic counter and then applies a store under the lock of the index, so
concurrent calls interleave between the two steps and a runtime restart may fall
anywhere. A number that overtakes its predecessor is counted as a gap although no
number is lost; the gap counter stays at zero exactly on the schedules in which no
application overtakes.
-/

namespace GpuSidecar.Cache

open Run

/-- The state of `cache.ExplicitProvider` that observations use. -/
structure ExplicitProvider where
  index : Index
  /-- The last sequence number taken. -/
  seq : ℤ

def newExplicitProvider (cfg : IndexConfig) (now : ℤ) : ExplicitProvider where
  index := newIndex (if cfg.maxEntries = 0 then defaultIndexConfig else cfg) now
  seq := 0

/-- A call of `Observe` that holds its number and has not applied it yet. -/
structure Observation where
  seq : ℤ
  keyHash : String
  tokens : ℤ
  deriving DecidableEq, Repr

namespace ExplicitProvider

/-- The first step of `Observe`: an early return, or the next number. -/
def takeSeq (p : ExplicitProvider) (keyHash : String) (tokens : ℤ) :
    ExplicitProvider × Option Observation :=
  if keyHash = "" ∨ tokens ≤ 0 then (p, none)
  else ({ p with seq := p.seq + 1 }, some ⟨p.seq + 1, keyHash, tokens⟩)

/-- The second step of `Observe`. -/
def applyObservation (p : ExplicitProvider) (now : ℤ) (order : EntryOrder) (o : Observation) :
    ExplicitProvider :=
  { p with index := p.index.applyStore now order o.seq o.keyHash "" o.tokens 0 }

/-- The runtime restart; the epoch counter of the provider itself is never read. -/
def onRuntimeRestart (p : ExplicitProvider) (now : ℤ) : ExplicitProvider :=
  { p with index := p.index.reset now }

end ExplicitProvider

/-- The provider with the calls of `Observe` in progress. -/
structure ExplicitSystem where
  provider : ExplicitProvider
  pending : List Observation
  /-- The numbers applied since construction or the last restart, the latest first;
  the program does not keep them. -/
  applied : List ℤ

/-- One atomic step of an observing call, or a restart. -/
inductive ExplicitAction where
  /-- A new call of `Observe` takes its first step. -/
  | observe (keyHash : String) (tokens : ℤ)
  /-- The call at a position of the pending list takes its second step. -/
  | apply (i : ℕ) (now : ℤ) (order : EntryOrder)
  | restart (now : ℤ)

namespace ExplicitSystem

def init (cfg : IndexConfig) (now : ℤ) : ExplicitSystem := ⟨newExplicitProvider cfg now, [], []⟩

def step (s : ExplicitSystem) : ExplicitAction → Option ExplicitSystem
  | .observe keyHash tokens =>
    match s.provider.takeSeq keyHash tokens with
    | (p, none) => some { s with provider := p }
    | (p, some o) => some { s with provider := p, pending := s.pending ++ [o] }
  | .apply i now order =>
    match s.pending[i]? with
    | none => none
    | some o => some
      { provider := s.provider.applyObservation now order o
        pending := s.pending.eraseIdx i
        applied := o.seq :: s.applied }
  | .restart now => some
      { s with provider := s.provider.onRuntimeRestart now, applied := [] }

/-- What one step can do. -/
theorem step_cases {s t : ExplicitSystem} {a : ExplicitAction} (h : s.step a = some t) :
    (∃ keyHash tokens, a = .observe keyHash tokens ∧ (keyHash = "" ∨ tokens ≤ 0) ∧ t = s) ∨
    (∃ keyHash tokens, a = .observe keyHash tokens ∧
      t = ⟨⟨s.provider.index, s.provider.seq + 1⟩,
        s.pending ++ [⟨s.provider.seq + 1, keyHash, tokens⟩], s.applied⟩) ∨
    (∃ i now order o, a = .apply i now order ∧ s.pending[i]? = some o ∧
      t = ⟨s.provider.applyObservation now order o, s.pending.eraseIdx i, o.seq :: s.applied⟩) ∨
    (∃ now, a = .restart now ∧
      t = ⟨s.provider.onRuntimeRestart now, s.pending, []⟩) := by
  cases a with
  | observe keyHash tokens =>
    by_cases hskip : keyHash = "" ∨ tokens ≤ 0
    · left
      simp only [step, ExplicitProvider.takeSeq, if_pos hskip, Option.some.injEq] at h
      exact ⟨keyHash, tokens, rfl, hskip, h.symm⟩
    · right; left
      simp only [step, ExplicitProvider.takeSeq, if_neg hskip, Option.some.injEq] at h
      exact ⟨keyHash, tokens, rfl, h.symm⟩
  | apply i now order =>
    right; right; left
    cases ho : s.pending[i]? with
    | none => simp [step, ho] at h
    | some o =>
      simp only [step, ho, Option.some.injEq] at h
      exact ⟨i, now, order, o, rfl, ho, h.symm⟩
  | restart now =>
    right; right; right
    simp only [step, Option.some.injEq] at h
    exact ⟨now, rfl, h.symm⟩

/-- The index has seen exactly the numbers applied since the last restart. -/
def Tracks (s : ExplicitSystem) : Prop := s.provider.index.newest = s.applied.max?

theorem init_tracks (cfg : IndexConfig) (now : ℤ) : (init cfg now).Tracks := rfl

theorem Tracks.step {s t : ExplicitSystem} {a : ExplicitAction} (hs : s.Tracks)
    (h : s.step a = some t) : t.Tracks := by
  rcases step_cases h with ⟨k, n, -, -, rfl⟩ | ⟨k, n, -, rfl⟩ | ⟨i, now, order, o, -, -, rfl⟩ |
    ⟨now, -, rfl⟩
  · exact hs
  · exact hs
  · have hnewest := s.provider.index.newest_call_event
      (c := .store now order o.seq o.keyHash "" o.tokens 0) rfl
    rw [Tracks] at hs
    rw [Tracks, List.max?_cons]
    refine hnewest.trans ?_
    rw [hs]
    cases s.applied.max? with
    | none => rfl
    | some m => exact congrArg some (max_comm m o.seq)
  · rfl

/-- The number does not overtake: it is the first one to be applied since the last
restart, or its predecessor or a later number has been applied. -/
def InTurn (s : ExplicitSystem) (seq : ℤ) : Prop :=
  s.applied = [] ∨ ∃ m ∈ s.applied, seq ≤ m + 1

/-- The index sees a skipped batch exactly when a number overtakes. -/
theorem Tracks.not_skips_iff {s : ExplicitSystem} (hs : s.Tracks) (seq : ℤ) :
    ¬ s.provider.index.skips seq ↔ s.InTurn seq := by
  rw [Index.not_skips_iff, hs, InTurn]
  cases hmax : s.applied.max? with
  | none => simp [List.max?_eq_none_iff.mp hmax]
  | some m =>
    obtain ⟨hmem, hle⟩ := List.max?_eq_some_iff.mp hmax
    have hne : s.applied ≠ [] := List.ne_nil_of_mem hmem
    simp only [Option.mem_def, Option.some.injEq, forall_eq', hne, false_or]
    constructor
    · intro h
      exact ⟨m, hmem, h⟩
    · rintro ⟨l, hl, h⟩
      exact h.trans (add_le_add (hle l hl) le_rfl)

end ExplicitSystem

/-- The confidence from freshness alone. -/
def Index.freshConfidence (idx : Index) (now : ℤ) : ℚ :=
  if idx.lastUpdate = 0 ∨ idx.isStaleLocked now then 0 else idx.freshness now

/-- Freshness is never negative. -/
theorem Index.freshness_nonneg (idx : Index) (now : ℤ) : 0 ≤ idx.freshness now := by
  rw [freshness]
  split
  · simp only
    split
    · exact le_rfl
    · exact not_lt.mp ‹_›
  · exact zero_le_one

/-- Without gaps the published confidence is the one from freshness alone. -/
theorem Index.snapshotMeta_confidence_of_noGaps (idx : Index) (h : idx.sequenceGaps = 0)
    (now : ℤ) : (idx.snapshotMeta now).2.confidence = idx.freshConfidence now := by
  rw [snapshotMeta_confidence, confidenceLocked, confidenceLockedAt, freshConfidence]
  split
  · rfl
  · simp [h, not_lt.mpr (idx.freshness_nonneg now)]

namespace ExplicitSystem

/-- No gap is counted, and no gap penalty is published. -/
def NoPhantomGaps (s : ExplicitSystem) : Prop :=
  s.provider.index.sequenceGaps = 0 ∧ ∀ now,
    (s.provider.index.snapshotMeta now).2.confidence = s.provider.index.freshConfidence now

theorem noPhantomGaps_iff (s : ExplicitSystem) :
    s.NoPhantomGaps ↔ s.provider.index.sequenceGaps = 0 :=
  ⟨And.left, fun h => ⟨h, s.provider.index.snapshotMeta_confidence_of_noGaps h⟩⟩

/-- An application does not overtake; the other steps are free. -/
def AppliesInTurn (s : ExplicitSystem) : ExplicitAction → Prop
  | .apply i _ _ => ∀ o, s.pending[i]? = some o → s.InTurn o.seq
  | _ => True

/-- From a state without gaps, a step leads to one without gaps exactly if it does not
overtake. -/
theorem Tracks.step_noPhantomGaps_iff {s t : ExplicitSystem} {a : ExplicitAction}
    (hs : s.Tracks) (hgaps : s.NoPhantomGaps) (h : s.step a = some t) :
    t.NoPhantomGaps ↔ s.AppliesInTurn a := by
  rw [noPhantomGaps_iff] at hgaps ⊢
  rcases step_cases h with ⟨k, n, rfl, -, rfl⟩ | ⟨k, n, rfl, rfl⟩ |
    ⟨i, now, order, o, rfl, ho, rfl⟩ | ⟨now, rfl, rfl⟩
  · exact iff_of_true hgaps trivial
  · exact iff_of_true hgaps trivial
  · have hcount := (s.provider.index.call_event
      (c := .store now order o.seq o.keyHash "" o.tokens 0) rfl).2.1
    have hturn : s.AppliesInTurn (.apply i now order) ↔ s.InTurn o.seq := by
      simp [AppliesInTurn, ho]
    rw [hturn, ← hs.not_skips_iff]
    change (s.provider.index.call
      (.store now order o.seq o.keyHash "" o.tokens 0)).sequenceGaps = 0 ↔ _
    rw [hcount, hgaps]
    by_cases hskip : s.provider.index.skips o.seq <;> simp [hskip]
  · exact iff_of_true hgaps trivial

/-! ### Applications in the order of the numbers -/

/-- Pending numbers are consecutive and end with the last one taken, and the number below
them has been applied unless a restart came after it. -/
structure Consecutive (s : ExplicitSystem) : Prop where
  pending : ∀ (i : ℕ) (o : Observation), s.pending[i]? = some o →
    o.seq = s.provider.seq - s.pending.length + i + 1
  applied : s.applied = [] ∨ s.provider.seq - s.pending.length ∈ s.applied

/-- An application takes the oldest pending call. -/
def OldestFirst : ExplicitAction → Prop
  | .apply i _ _ => i = 0
  | _ => True

theorem Consecutive.step {s t : ExplicitSystem} {a : ExplicitAction} (hs : s.Consecutive)
    (hfirst : OldestFirst a) (h : s.step a = some t) :
    t.Consecutive ∧ s.AppliesInTurn a := by
  rcases step_cases h with ⟨k, n, rfl, -, rfl⟩ | ⟨k, n, rfl, rfl⟩ |
    ⟨i, now, order, o, rfl, ho, rfl⟩ | ⟨now, rfl, rfl⟩
  · exact ⟨hs, trivial⟩
  · refine ⟨⟨fun i o ho => ?_, ?_⟩, trivial⟩
    · simp only [List.length_append, List.length_singleton, Nat.cast_add, Nat.cast_one]
      rcases lt_trichotomy i s.pending.length with hi | hi | hi
      · rw [List.getElem?_append_left hi] at ho
        have hold := hs.pending i o ho
        omega
      · simp only [hi, List.getElem?_concat_length, Option.some.injEq] at ho
        rw [← ho]
        simp only
        omega
      · rw [List.getElem?_eq_none (by simpa using Nat.succ_le_of_lt hi)] at ho
        cases ho
    · have heq : s.provider.seq + 1 - ((s.pending.length : ℤ) + 1) =
          s.provider.seq - s.pending.length := by omega
      simpa [heq] using hs.applied
  · obtain rfl : i = 0 := hfirst
    have hlen : (s.pending.eraseIdx 0).length + 1 = s.pending.length := by
      have hpos : 0 < s.pending.length := (List.getElem?_eq_some_iff.mp ho).1
      rw [List.length_eraseIdx_of_lt hpos]
      omega
    have hseq := hs.pending 0 o ho
    refine ⟨⟨fun j o' ho' => ?_, Or.inr ?_⟩, fun o' ho' => ?_⟩
    · rw [List.eraseIdx_zero, List.getElem?_tail] at ho'
      have hnext := hs.pending (j + 1) o' ho'
      simp only [ExplicitProvider.applyObservation]
      omega
    · simp only [ExplicitProvider.applyObservation, List.mem_cons]
      left
      omega
    · rw [ho, Option.some.injEq] at ho'
      subst ho'
      refine hs.applied.imp_right fun hmem => ⟨_, hmem, ?_⟩
      omega
  · exact ⟨⟨hs.pending, Or.inl rfl⟩, trivial⟩

/-- When the pending calls are applied in the order of their numbers, as under one lock
for both steps, no application overtakes. -/
theorem stepsMeet_of_oldestFirst {cfg : IndexConfig} {now : ℤ} {as : List ExplicitAction}
    {s : ExplicitSystem} (h : exec step (init cfg now) as = some s)
    (hfirst : ∀ a ∈ as, OldestFirst a) : StepsMeet step AppliesInTurn (init cfg now) as := by
  have hboth : (∀ a ∈ as, OldestFirst a) →
      s.Consecutive ∧ StepsMeet step AppliesInTurn (init cfg now) as := by
    refine exec_induction (P := fun as s => (∀ a ∈ as, OldestFirst a) →
      s.Consecutive ∧ StepsMeet step AppliesInTurn (init cfg now) as) ?_ ?_ h
    · intro _
      exact ⟨⟨fun i o ho => by simp [init] at ho, Or.inl rfl⟩, stepsMeet_nil _ _ _⟩
    · intro as r a t hr ih ha hall
      obtain ⟨hcons, hmeet⟩ := ih fun b hb => hall b (List.mem_append_left _ hb)
      obtain ⟨hcons', hturn⟩ := hcons.step (hall a (by simp)) ha
      exact ⟨hcons', (stepsMeet_concat hr).mpr ⟨hmeet, hturn⟩⟩
  exact (hboth hfirst).2

/-- In every run of concurrent observations and restarts, no state shows a phantom gap
if and only if no application overtakes. -/
theorem noPhantomGaps_iff_appliesInTurn (cfg : IndexConfig) (now : ℤ)
    (as : List ExplicitAction) (h : (exec step (init cfg now) as).isSome) :
    Always step NoPhantomGaps (init cfg now) as ↔
      StepsMeet step AppliesInTurn (init cfg now) as := by
  obtain ⟨s, hs⟩ := Option.isSome_iff_exists.mp h
  exact always_iff_stepsMeet (init_tracks cfg now) (fun _ _ _ hs ha => hs.step ha)
    ((noPhantomGaps_iff _).mpr rfl) (fun _ _ _ hs hg ha => hs.step_noPhantomGaps_iff hg ha) hs

/-- Two observations that overlap and are applied in the order of their numbers. -/
def overlapping : List ExplicitAction :=
  [.observe "a" 16, .observe "b" 16, .apply 0 1 (.stored _), .apply 0 2 (.stored _)]

/-- The overlapping observations show no phantom gap. -/
theorem overlapping_noPhantomGaps :
    (exec step (init defaultIndexConfig 0) overlapping).isSome = true ∧
      Always step NoPhantomGaps (init defaultIndexConfig 0) overlapping := by
  have hrun : (exec step (init defaultIndexConfig 0) overlapping).isSome = true := by decide
  obtain ⟨s, hs⟩ := Option.isSome_iff_exists.mp hrun
  refine ⟨hrun, (noPhantomGaps_iff_appliesInTurn _ _ _ hrun).mpr ?_⟩
  exact stepsMeet_of_oldestFirst hs (by simp [overlapping, OldestFirst])

/-- A first observation, and then two whose applications are exchanged. -/
def exchanged : List ExplicitAction :=
  [.observe "a" 16, .apply 0 1 (.stored _), .observe "b" 16, .observe "c" 16,
    .apply 1 2 (.stored _), .apply 0 3 (.stored _)]

/-- After the exchange every number has been applied, and still one gap is counted and
a quarter of the confidence is gone. -/
theorem exchanged_phantomGap :
    ((exec step (init defaultIndexConfig 0) exchanged).map fun s =>
        (s.pending, s.provider.seq, s.applied, s.provider.index.sequenceGaps,
          (s.provider.index.snapshotMeta 3).2.confidence, s.provider.index.freshConfidence 3)) =
      some ([], 3, [2, 3, 1], 1, 3 / 4, 1) ∧
    ¬ Always step NoPhantomGaps (init defaultIndexConfig 0) exchanged := by
  have hend : ((exec step (init defaultIndexConfig 0) exchanged).map fun s =>
        (s.pending, s.provider.seq, s.applied, s.provider.index.sequenceGaps,
          (s.provider.index.snapshotMeta 3).2.confidence, s.provider.index.freshConfidence 3)) =
      some ([], 3, [2, 3, 1], 1, 3 / 4, 1) := by
    decide +kernel
  refine ⟨hend, fun halways => ?_⟩
  obtain ⟨s, hs, hobs⟩ := Option.map_eq_some_iff.mp hend
  have hgaps := (halways exchanged [] (by simp) s hs).1
  simp only [Prod.mk.injEq] at hobs
  omega

end ExplicitSystem

end GpuSidecar.Cache
