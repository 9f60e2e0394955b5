import GpuSidecar.Models.Engine.Workers

/-!
# Worker churn

The balance of worker starts and stops is meant to follow the process count from the
first sample that has one. The supervisor compares each count with the sample of the
poll just before, so a change that falls into a gap of samples without a count is never
seen. This file shows that nothing else is lost: a run keeps its accounts at every poll
exactly if each gap ends with the count it began with.
-/

namespace GpuSidecar.Engine

open Run Supervisor DeviceState

/-- The sample at turn `n` has a process count. -/
def Counted (turns : ℕ → Turn) (n : ℕ) : Prop := (procsAt turns n).supported = true

instance (turns : ℕ → Turn) : DecidablePred (Counted turns) :=
  fun _ => inferInstanceAs (Decidable (_ = true))

/-- Turn `first` has the first sample with a process count. -/
def FirstCounted (turns : ℕ → Turn) (first : ℕ) : Prop :=
  Counted turns first ∧ ∀ j, j < first → ¬ Counted turns j

/-- A sample that ends a gap has the process count of the sample before the gap. -/
def GapKeepsCount (turns : ℕ → Turn) (n : ℕ) : Prop :=
  Counted turns n → ∀ prev, Latest (Counted turns) n prev → prev + 1 < n →
    (procsAt turns n).value = (procsAt turns prev).value

/-! ### The observed changes -/

section Samples

variable {turns : ℕ → Turn}

theorem exists_firstCounted {n : ℕ} (h : Counted turns n) : ∃ first, FirstCounted turns first :=
  ⟨Nat.find ⟨n, h⟩, Nat.find_spec ⟨n, h⟩, fun _ hj => Nat.find_min ⟨n, h⟩ hj⟩

/-- A turn without a process count observes no change. -/
theorem changeAt_of_not_counted {n : ℕ} (h : ¬ Counted turns n) : changeAt turns n = 0 := by
  cases n with
  | zero => rfl
  | succ n => exact if_neg fun hboth => h hboth.2

/-- A turn after one without a process count observes no change. -/
theorem changeAt_after_gap {n : ℕ} (h : ¬ Counted turns n) : changeAt turns (n + 1) = 0 :=
  if_neg fun hboth => h hboth.1

/-- Two successive process counts are compared. -/
theorem changeAt_of_counted {n : ℕ} (h : Counted turns n) (h' : Counted turns (n + 1)) :
    changeAt turns (n + 1) = (procsAt turns (n + 1)).value - (procsAt turns n).value :=
  if_pos ⟨h, h'⟩

/-- The turn that has the first process count observes no change. -/
theorem changeAt_first {first : ℕ} (h : FirstCounted turns first) : changeAt turns first = 0 := by
  cases first with
  | zero => rfl
  | succ n => exact changeAt_after_gap (h.2 n (Nat.lt_succ_self n))

/-- The turn that ends a gap observes no change. -/
theorem changeAt_of_gap {prev n : ℕ} (h : Latest (Counted turns) n prev) (hgap : prev + 1 < n) :
    changeAt turns n = 0 := by
  obtain ⟨k, rfl⟩ : ∃ k, n = k + 1 := ⟨n - 1, by omega⟩
  exact changeAt_after_gap (h.2.2 k (by omega) (Nat.lt_succ_self k))

/-- If a gap keeps the count, a turn whose count differs from the last one observes it. -/
theorem GapKeepsCount.changeAt_eq {n prev : ℕ} (hgap : GapKeepsCount turns n)
    (hn : Counted turns n) (hprev : Latest (Counted turns) n prev)
    (hne : (procsAt turns n).value ≠ (procsAt turns prev).value) :
    changeAt turns n = (procsAt turns n).value - (procsAt turns prev).value := by
  have hnext : prev + 1 = n := by
    have hlt := hprev.1
    by_contra hwide
    exact hne (hgap hn prev hprev (by omega))
  subst hnext
  exact changeAt_of_counted hprev.2.1 hn

end Samples

/-! ### Runs of a device -/

section Runs

variable (s : Supervisor) (exp : ℚ → ℚ) (deviceID : String) (turns : ℕ → Turn)

/-- The newest event of the device before turn `n`. -/
def Supervisor.newestEventAt (n : ℕ) : Option Event :=
  (s.deviceAt exp deviceID turns n).hist.events.items.getLast?

/-- No churn is lost at turn `n`: if its sample has a process count, starts minus stops is
the change since the first count, and a change since the last count has its event. -/
structure Supervisor.TracksChurn (n : ℕ) : Prop where
  balance : Counted turns n → ∀ first, FirstCounted turns first →
    ((s.deviceAt exp deviceID turns (n + 1)).hist.rel.workerStarts : ℤ) -
        (s.deviceAt exp deviceID turns (n + 1)).hist.rel.workerStops =
      (procsAt turns n).value - (procsAt turns first).value
  disappeared : Counted turns n → ∀ prev, Latest (Counted turns) n prev →
    (procsAt turns n).value < (procsAt turns prev).value →
      ∃ e, s.newestEventAt exp deviceID turns (n + 1) = some e ∧ e.kind = .workerDisappeared
  started : Counted turns n → ∀ prev, Latest (Counted turns) n prev →
    (procsAt turns prev).value < (procsAt turns n).value →
      ∃ e, s.newestEventAt exp deviceID turns (n + 1) = some e ∧ e.kind = .workerStarted

/-- Starts minus stops before turn `n`. -/
def Supervisor.netAt (n : ℕ) : ℤ := (s.deviceAt exp deviceID turns n).workers.net

/-- Each turn adds the change that it observes. -/
theorem Supervisor.netAt_succ (n : ℕ) :
    s.netAt exp deviceID turns (n + 1) = s.netAt exp deviceID turns n + changeAt turns n := by
  have hpoll := s.pollDevice_net exp
    ((turns n).calls.foldl DeviceState.call (s.deviceAt exp deviceID turns n)) (turns n).probe
  rw [observedChange_deviceAt, (passes_calls _ _).net] at hpoll
  exact hpoll

/-- An observed change is the newest event after its turn. -/
theorem Supervisor.newestEventAt_succ (n : ℕ) :
    (0 < changeAt turns n →
        ∃ e, s.newestEventAt exp deviceID turns (n + 1) = some e ∧ e.kind = .workerStarted) ∧
      (changeAt turns n < 0 →
        ∃ e, s.newestEventAt exp deviceID turns (n + 1) = some e ∧
          e.kind = .workerDisappeared) := by
  have hdet := s.pollDevice_detects exp
    ((turns n).calls.foldl DeviceState.call (s.deviceAt exp deviceID turns n)) (turns n).probe
  rw [observedChange_deviceAt] at hdet
  exact ⟨hdet.started, hdet.disappeared⟩

/-- Nothing is counted before the first process count. -/
theorem Supervisor.netAt_of_none {n : ℕ} (h : ∀ j, j < n → ¬ Counted turns j) :
    s.netAt exp deviceID turns n = 0 := by
  induction n with
  | zero => rfl
  | succ n ih =>
    have hnone := changeAt_of_not_counted (h n (Nat.lt_succ_self n))
    rw [netAt_succ, ih (fun j hj => h j (Nat.lt_succ_of_lt hj)), hnone, add_zero]

/-- Nothing is counted in a gap. -/
theorem Supervisor.netAt_gap {prev n : ℕ} (hlt : prev < n)
    (h : ∀ j, prev < j → j < n → ¬ Counted turns j) :
    s.netAt exp deviceID turns n = s.netAt exp deviceID turns (prev + 1) := by
  induction n with
  | zero => exact absurd hlt (Nat.not_lt_zero prev)
  | succ n ih =>
    rcases Nat.lt_succ_iff_lt_or_eq.mp hlt with hlt | rfl
    · have hnone := changeAt_of_not_counted (h n hlt (Nat.lt_succ_self n))
      rw [netAt_succ, ih hlt (fun j hj hjn => h j hj (Nat.lt_succ_of_lt hjn)), hnone, add_zero]
    · rfl

/-- While every gap keeps the count, the balance before turn `n` is the last count minus the
first one. -/
theorem Supervisor.netAt_eq {n first prev : ℕ} (hgap : ∀ m, m < n → GapKeepsCount turns m)
    (hfirst : FirstCounted turns first) (hprev : Latest (Counted turns) n prev) :
    s.netAt exp deviceID turns n = (procsAt turns prev).value - (procsAt turns first).value := by
  induction n generalizing prev with
  | zero => exact absurd hprev.1 (Nat.not_lt_zero prev)
  | succ n ih =>
    have hgap' : ∀ m, m < n → GapKeepsCount turns m := fun m hm => hgap m (Nat.lt_succ_of_lt hm)
    rw [netAt_succ]
    by_cases hn : Counted turns n
    · obtain rfl : prev = n := hprev.unique (latest_succ_self hn)
      by_cases hnew : first = prev
      · subst hnew
        rw [netAt_of_none s exp deviceID turns hfirst.2, changeAt_first hfirst]
        omega
      · have hlt : first < prev := by
          by_contra hge
          exact hfirst.2 prev (by omega) hn
        obtain ⟨r, hr⟩ := exists_latest hlt hfirst.1
        rw [ih hgap' hr]
        by_cases hnext : r + 1 = prev
        · subst hnext
          rw [changeAt_of_counted hr.2.1 hn]
          omega
        · have hwide : r + 1 < prev := by
            have := hr.1
            omega
          have hkeep := hgap prev (Nat.lt_succ_self prev) hn r hr hwide
          rw [changeAt_of_gap hr hwide, hkeep, add_zero]
    · have hbefore := hprev.of_succ hn
      rw [ih hgap' hbefore, changeAt_of_not_counted hn, add_zero]

/-- No churn is lost along a run exactly if each gap ends with the count it began with. -/
theorem Supervisor.tracksChurn_iff (n : ℕ) :
    (∀ m, m < n → s.TracksChurn exp deviceID turns m) ↔
      ∀ m, m < n → GapKeepsCount turns m := by
  constructor
  · intro htracks m hm hcount prev hprev hwide
    obtain ⟨first, hfirst⟩ := exists_firstCounted hcount
    have hnow : s.netAt exp deviceID turns (m + 1) = _ := (htracks m hm).balance hcount first hfirst
    have hthen : s.netAt exp deviceID turns (prev + 1) = _ :=
      (htracks prev (hprev.1.trans hm)).balance hprev.2.1 first hfirst
    rw [netAt_succ, changeAt_of_gap hprev hwide,
      netAt_gap s exp deviceID turns hprev.1 hprev.2.2, hthen] at hnow
    omega
  · intro hgap m hm
    have hgap' : ∀ j, j < m + 1 → GapKeepsCount turns j := fun j hj => hgap j (by omega)
    refine ⟨fun hcount first hfirst => ?_, fun hcount prev hprev hlt => ?_,
      fun hcount prev hprev hlt => ?_⟩
    · exact s.netAt_eq exp deviceID turns hgap' hfirst (latest_succ_self hcount)
    · apply (s.newestEventAt_succ exp deviceID turns m).2
      rw [(hgap m hm).changeAt_eq hcount hprev (ne_of_lt hlt)]
      omega
    · apply (s.newestEventAt_succ exp deviceID turns m).1
      rw [(hgap m hm).changeAt_eq hcount hprev (ne_of_gt hlt)]
      omega

end Runs

/-- A device with two workers of which one ends while a sample fails to count them. -/
def lostWorker (n : ℕ) : Turn :=
  plainTurn false (if n = 0 then .sup 2 else if n = 1 then .unsup else .sup 1) n

/-- The end of the worker is neither counted nor reported. -/
theorem lostWorker_not_tracked :
    ¬ smallSupervisor.TracksChurn (fun _ => 1) "0" lostWorker 2 := by
  intro h
  have hfirst : FirstCounted lostWorker 0 :=
    ⟨by decide, fun j hj => absurd hj (Nat.not_lt_zero j)⟩
  have hbalance := h.balance (by decide) 0 hfirst
  have hnet : smallSupervisor.netAt (fun _ => 1) "0" lostWorker 3 = 0 := by
    decide +kernel
  exact absurd (hnet.symm.trans hbalance) (by decide)

end GpuSidecar.Engine
