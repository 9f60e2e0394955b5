import GpuSidecar.Core.List.Window
import GpuSidecar.Models.Engine.WorkerLog

/-!
# What the worker event log retains

Every call of the log prunes the lists that it touches, by age and by number, and what is
pruned is gone. While the clock does not go back this loses nothing that a later query
asks for: after any calls a list holds the latest of all the events that were recorded in
it, from some earlier cutoff on and as many as there is room for.
-/

namespace GpuSidecar.Engine

open Time Window

/-- A call of the worker event log, with its clock reading. -/
inductive LogCall where
  | recordDisappearance (now : ℤ)
  | recordAppearance (now : ℤ)
  | disappearancesInWindow (now : ℤ)
  | rapidRestartEvents (now : ℤ) (rapidRestartSec : ℚ)
  deriving DecidableEq, Repr

namespace LogCall

def now : LogCall → ℤ
  | recordDisappearance now | recordAppearance now | disappearancesInWindow now
  | rapidRestartEvents now _ => now

def disappears : LogCall → Bool
  | recordDisappearance _ => true
  | _ => false

def appears : LogCall → Bool
  | recordAppearance _ => true
  | _ => false

/-- The times of the calls of one kind. -/
def times (kind : LogCall → Bool) (calls : List LogCall) : List ℤ := (calls.filter kind).map now

theorem times_append (kind : LogCall → Bool) (cs cs' : List LogCall) :
    times kind (cs ++ cs') = times kind cs ++ times kind cs' := by
  rw [times, times, times, List.filter_append, List.map_append]

theorem times_sublist (kind : LogCall → Bool) (calls : List LogCall) :
    (times kind calls).Sublist (calls.map now) := List.filter_sublist.map now

end LogCall

theorem pruneTimes_eq_recent {s : List ℤ} (hs : s.Pairwise (· ≤ ·)) (now : ℤ) (windowSec : ℚ)
    (maxEntries : ℕ) :
    pruneTimes s now windowSec maxEntries = recent (now - ofSeconds windowSec) maxEntries s := by
  rw [pruneTimes, recent, ← dropWhile_lt_eq_filter hs]
  split_ifs with hfull
  · rfl
  · rw [rtake_of_length_le (not_lt.mp hfull)]

/-- A list keeps the latest of the recorded times, from a cutoff on that was due by the given
time. -/
def Keeps (windowSec : ℚ) (maxEntries : ℕ) (now : ℤ) (recorded kept : List ℤ) : Prop :=
  ∃ t ≤ now, kept = recent (t - ofSeconds windowSec) maxEntries recorded

section Keeps

variable {windowSec : ℚ} {maxEntries : ℕ} {now now' : ℤ} {recorded kept : List ℤ}

theorem keeps_nil (windowSec : ℚ) (maxEntries : ℕ) (now : ℤ) :
    Keeps windowSec maxEntries now [] [] := ⟨now, le_rfl, (List.rtake_nil _).symm⟩

theorem Keeps.mono (h : Keeps windowSec maxEntries now recorded kept) (hle : now ≤ now') :
    Keeps windowSec maxEntries now' recorded kept := by
  obtain ⟨t, ht, hkept⟩ := h
  exact ⟨t, ht.trans hle, hkept⟩

/-- Pruning a list with later times keeps the latest of all. -/
theorem Keeps.prune (h : Keeps windowSec maxEntries now recorded kept) (later : List ℤ)
    (hsorted : (recorded ++ later).Pairwise (· ≤ ·)) :
    pruneTimes (kept ++ later) now windowSec maxEntries =
      recent (now - ofSeconds windowSec) maxEntries (recorded ++ later) := by
  obtain ⟨t, ht, rfl⟩ := h
  have hsub : (recent (t - ofSeconds windowSec) maxEntries recorded ++ later).Sublist
      (recorded ++ later) := (recent_sublist _ _ _).append (List.Sublist.refl later)
  rw [pruneTimes_eq_recent (hsorted.sublist hsub),
    recent_recent_append (List.pairwise_append.mp hsorted).1 (by omega)]

theorem Keeps.length_le (h : Keeps windowSec maxEntries now recorded kept) :
    kept.length ≤ maxEntries := by
  obtain ⟨t, -, rfl⟩ := h
  rw [length_recent]
  exact min_le_left _ _

theorem Keeps.pairwise (h : Keeps windowSec maxEntries now recorded kept)
    (hsorted : recorded.Pairwise (· ≤ ·)) : kept.Pairwise (· ≤ ·) := by
  obtain ⟨t, -, rfl⟩ := h
  exact hsorted.sublist (recent_sublist _ _ _)

end Keeps

namespace WorkerEventLog

/-- The effect of one call. -/
def call (w : WorkerEventLog) : LogCall → WorkerEventLog
  | .recordDisappearance now => w.recordDisappearance now
  | .recordAppearance now => w.recordAppearance now
  | .disappearancesInWindow now => (w.disappearancesInWindow now).1
  | .rapidRestartEvents now rapidRestartSec => (w.rapidRestartEvents now rapidRestartSec).1

/-- The effect of a history of calls. -/
def calls (w : WorkerEventLog) (cs : List LogCall) : WorkerEventLog := cs.foldl call w

/-- What a call does to a list of the log: it prunes the list with what it records, or leaves it
alone and records nothing. -/
def Prunes (w : WorkerEventLog) (now : ℤ) (recorded kept kept' : List ℤ) : Prop :=
  kept' = pruneTimes (kept ++ recorded) now w.windowSec w.maxEntries ∨ recorded = [] ∧ kept' = kept

/-- What one call does. -/
structure Calls (w : WorkerEventLog) (c : LogCall) (w' : WorkerEventLog) : Prop where
  windowSec : w'.windowSec = w.windowSec
  maxEntries : w'.maxEntries = w.maxEntries
  disappearances : w.Prunes c.now (LogCall.times LogCall.disappears [c]) w.disappearances
    w'.disappearances
  appearances : w.Prunes c.now (LogCall.times LogCall.appears [c]) w.appearances w'.appearances

theorem call_spec (w : WorkerEventLog) (c : LogCall) : w.Calls c (w.call c) := by
  -- a query prunes what it reads with nothing new
  have hquery : ∀ kept now,
      w.Prunes now [] kept (pruneTimes kept now w.windowSec w.maxEntries) := by
    intro kept now
    left
    rw [List.append_nil]
  cases c with
  | recordDisappearance now => exact ⟨rfl, rfl, .inl rfl, .inr ⟨rfl, rfl⟩⟩
  | recordAppearance now => exact ⟨rfl, rfl, .inr ⟨rfl, rfl⟩, .inl rfl⟩
  | disappearancesInWindow now => exact ⟨rfl, rfl, hquery w.disappearances now, .inr ⟨rfl, rfl⟩⟩
  | rapidRestartEvents now rapidRestartSec =>
    exact ⟨rfl, rfl, hquery w.disappearances now, hquery w.appearances now⟩

theorem Prunes.keeps {w : WorkerEventLog} {now : ℤ} {recorded new kept kept' : List ℤ}
    (hprunes : w.Prunes now new kept kept')
    (h : Keeps w.windowSec w.maxEntries now recorded kept)
    (hsorted : (recorded ++ new).Pairwise (· ≤ ·)) :
    Keeps w.windowSec w.maxEntries now (recorded ++ new) kept' := by
  rcases hprunes with rfl | ⟨rfl, rfl⟩
  · exact ⟨now, le_rfl, h.prune new hsorted⟩
  · rwa [List.append_nil]

/-- A log after a history of calls: both lists keep the latest of what was recorded in them. -/
structure Retains (w : WorkerEventLog) (windowSec : ℚ) (maxEntries : ℕ) (now : ℤ)
    (cs : List LogCall) : Prop where
  sameWindow : w.windowSec = windowSec
  sameRoom : w.maxEntries = maxEntries
  disappearances :
    Keeps windowSec maxEntries now (LogCall.times LogCall.disappears cs) w.disappearances
  appearances : Keeps windowSec maxEntries now (LogCall.times LogCall.appears cs) w.appearances

theorem Retains.call {w : WorkerEventLog} {windowSec : ℚ} {maxEntries : ℕ} {cs : List LogCall}
    {c : LogCall} (h : w.Retains windowSec maxEntries c.now cs)
    (hsorted : ((cs ++ [c]).map LogCall.now).Pairwise (· ≤ ·)) :
    (w.call c).Retains windowSec maxEntries c.now (cs ++ [c]) := by
  obtain ⟨rfl, rfl, hdis, happ⟩ := h
  have hspec := w.call_spec c
  have htimes : ∀ kind, (LogCall.times kind cs ++ LogCall.times kind [c]).Pairwise (· ≤ ·) := by
    intro kind
    rw [← LogCall.times_append]
    exact hsorted.sublist (LogCall.times_sublist kind _)
  refine ⟨hspec.windowSec, hspec.maxEntries, ?_, ?_⟩
  · rw [LogCall.times_append]
    exact hspec.disappearances.keeps hdis (htimes _)
  · rw [LogCall.times_append]
    exact hspec.appearances.keeps happ (htimes _)

/-- Along every history with a clock that does not go back. -/
theorem retains_calls (windowSec : ℚ) (maxEntries : ℕ) {cs : List LogCall} {now : ℤ}
    (hclock : (cs.map LogCall.now ++ [now]).Pairwise (· ≤ ·)) :
    ((newWorkerEventLog windowSec maxEntries).calls cs).Retains windowSec maxEntries now cs := by
  induction cs using List.reverseRecOn generalizing now with
  | nil => exact ⟨rfl, rfl, keeps_nil _ _ now, keeps_nil _ _ now⟩
  | append_singleton cs c ih =>
    obtain ⟨hcalls, -, hnow⟩ := List.pairwise_append.mp hclock
    have hle : c.now ≤ now := hnow c.now (by simp) now (by simp)
    have hbefore : ((newWorkerEventLog windowSec maxEntries).calls cs).Retains windowSec
        maxEntries c.now cs := ih (by simpa using hcalls)
    rw [calls, List.foldl_append]
    obtain ⟨hwindow, hmax, hdis, happ⟩ := hbefore.call hcalls
    exact ⟨hwindow, hmax, hdis.mono hle, happ.mono hle⟩

/-- What a log answers and holds, given all the times at which workers disappeared and
appeared. -/
structure Exact (w : WorkerEventLog) (windowSec : ℚ) (maxEntries : ℕ) (now : ℤ)
    (disappeared : List ℤ) : Prop where
  bounded : w.disappearances.length ≤ maxEntries ∧ w.appearances.length ≤ maxEntries
  ordered : w.disappearances.Pairwise (· ≤ ·) ∧ w.appearances.Pairwise (· ≤ ·)
  counted : (w.disappearancesInWindow now).2 =
    min maxEntries (disappeared.countP fun t => now - ofSeconds windowSec ≤ t)

end WorkerEventLog

/-- After every history of records and queries with a clock that does not go back, the log
holds at most the allowed number of times, in order, and a query counts every disappearance
in the window that was ever recorded, up to that number. -/
theorem workerEventLog_exact (windowSec : ℚ) (maxEntries : ℕ) (cs : List LogCall) (now : ℤ)
    (hclock : (cs.map LogCall.now ++ [now]).Pairwise (· ≤ ·)) :
    ((newWorkerEventLog windowSec maxEntries).calls cs).Exact windowSec maxEntries now
      (LogCall.times LogCall.disappears cs) := by
  have hsorted : ∀ kind, (LogCall.times kind cs).Pairwise (· ≤ ·) := fun kind =>
    (List.pairwise_append.mp hclock).1.sublist (LogCall.times_sublist kind cs)
  obtain ⟨hwindow, hmax, hdis, happ⟩ :=
    WorkerEventLog.retains_calls windowSec maxEntries hclock
  refine ⟨⟨hdis.length_le, happ.length_le⟩, ⟨hdis.pairwise (hsorted _), happ.pairwise (hsorted _)⟩,
    ?_⟩
  have hpruned := hdis.prune [] (by simpa using hsorted LogCall.disappears)
  rw [List.append_nil, List.append_nil] at hpruned
  rw [WorkerEventLog.disappearancesInWindow, hwindow, hmax]
  simp only [hpruned, length_recent]

/-- Three disappearances with a query in between, and room for two: the third and the second
are counted. -/
theorem threeDisappearances_exact :
    let cs : List LogCall := [.recordDisappearance 1, .disappearancesInWindow 2,
      .recordDisappearance 3, .rapidRestartEvents 4 10, .recordDisappearance 5]
    ((newWorkerEventLog 60 2).calls cs).disappearances = [3, 5] ∧
      ((newWorkerEventLog 60 2).calls cs).Exact 60 2 6 [1, 3, 5] := by
  intro cs
  exact ⟨by decide +kernel, workerEventLog_exact 60 2 cs 6 (by decide)⟩

end GpuSidecar.Engine
