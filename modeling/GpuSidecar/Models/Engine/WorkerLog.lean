import GpuSidecar.Core.Time.Duration
import Mathlib.Data.List.Basic

/-!
# The worker event log

The embedding of `workerEventLog` in `internal/engine/supervisor.go`: the monotonic
times at which a device's process count was seen to fall or rise, pruned by age and
by number on every call. A query prunes the log that it reads, so it returns the
log with its answer.
-/

namespace GpuSidecar.Engine

open Time

/-- A worker that comes back within this time restarts rapidly. -/
def rapidRestartSec : ℚ := 10

/-- The recent disappearances and appearances of workers, in the order of recording. -/
structure WorkerEventLog where
  disappearances : List ℤ
  appearances : List ℤ
  windowSec : ℚ
  maxEntries : ℕ
  deriving DecidableEq, Repr

def newWorkerEventLog (windowSec : ℚ) (maxEntries : ℕ) : WorkerEventLog where
  disappearances := []
  appearances := []
  windowSec := windowSec
  maxEntries := maxEntries

/-- Drops the entries at the front that are older than the window, then all but the
most recent ones. -/
def pruneTimes (s : List ℤ) (now : ℤ) (windowSec : ℚ) (maxEntries : ℕ) : List ℤ :=
  let cutoff := now - ofSeconds windowSec
  let s := s.dropWhile fun t => t < cutoff
  if maxEntries < s.length then s.drop (s.length - maxEntries) else s

/-- Pruning never invents an entry. -/
theorem mem_of_mem_pruneTimes {s : List ℤ} {now : ℤ} {windowSec : ℚ} {maxEntries : ℕ} {t : ℤ}
    (h : t ∈ pruneTimes s now windowSec maxEntries) : t ∈ s := by
  unfold pruneTimes at h
  dsimp only at h
  split at h
  · exact (List.dropWhile_sublist _).subset (List.mem_of_mem_drop h)
  · exact (List.dropWhile_sublist _).subset h

namespace WorkerEventLog

def recordDisappearance (w : WorkerEventLog) (now : ℤ) : WorkerEventLog :=
  { w with
    disappearances := pruneTimes (w.disappearances ++ [now]) now w.windowSec w.maxEntries }

def recordAppearance (w : WorkerEventLog) (now : ℤ) : WorkerEventLog :=
  { w with appearances := pruneTimes (w.appearances ++ [now]) now w.windowSec w.maxEntries }

/-- The disappearances in the recent window. -/
def disappearancesInWindow (w : WorkerEventLog) (now : ℤ) : WorkerEventLog × ℕ :=
  let w := { w with disappearances := pruneTimes w.disappearances now w.windowSec w.maxEntries }
  (w, w.disappearances.length)

/-- The disappearances in the recent window that some appearance followed within the
given time. -/
def rapidRestartEvents (w : WorkerEventLog) (now : ℤ) (rapidRestartSec : ℚ) :
    WorkerEventLog × ℕ :=
  let w := { w with
    disappearances := pruneTimes w.disappearances now w.windowSec w.maxEntries
    appearances := pruneTimes w.appearances now w.windowSec w.maxEntries }
  let thresh := ofSeconds rapidRestartSec
  (w, w.disappearances.countP fun d => w.appearances.any fun a => d < a ∧ a - d ≤ thresh)

/-- Every entry of one log is an entry of the other. -/
structure Within (w w' : WorkerEventLog) : Prop where
  disappearances : ∀ t ∈ w.disappearances, t ∈ w'.disappearances
  appearances : ∀ t ∈ w.appearances, t ∈ w'.appearances

/-- No appearance in the log follows a disappearance in the log within the time of a
rapid restart. -/
def Calm (w : WorkerEventLog) : Prop :=
  ∀ d ∈ w.disappearances, ∀ a ∈ w.appearances, ¬ (d < a ∧ a - d ≤ ofSeconds rapidRestartSec)

/-- A log without rapid restarts counts none. -/
theorem Calm.rapidRestartEvents_eq_zero {w : WorkerEventLog} (h : w.Calm) (now : ℤ) :
    (w.rapidRestartEvents now rapidRestartSec).2 = 0 := by
  rw [rapidRestartEvents, List.countP_eq_zero]
  intro d hd hany
  obtain ⟨a, ha, hrapid⟩ := List.any_eq_true.mp hany
  exact h d (mem_of_mem_pruneTimes hd) a (mem_of_mem_pruneTimes ha) (of_decide_eq_true hrapid)

end WorkerEventLog

end GpuSidecar.Engine
