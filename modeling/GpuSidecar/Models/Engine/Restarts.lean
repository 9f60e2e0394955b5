import GpuSidecar.Core.Order.Matching
import GpuSidecar.Models.Engine.WorkerLog

/-!
# Restarts as pairs

`rapidRestartEvents` counts the disappearances that some appearance followed within the
threshold, and never uses an appearance up. Its count is a number of restarts, each with an
appearance of its own, exactly if no stretch of counted disappearances outnumbers the
appearances from its first one to the threshold after its last one. Two workers that stop
before one starts are two restarts of one worker.
-/

namespace GpuSidecar.Engine.WorkerEventLog

open Time

/-- The log that a query at the given time leaves. -/
def retained (w : WorkerEventLog) (now : ℤ) : WorkerEventLog :=
  { w with
    disappearances := pruneTimes w.disappearances now w.windowSec w.maxEntries
    appearances := pruneTimes w.appearances now w.windowSec w.maxEntries }

/-- The disappearances that some appearance followed within the given time. -/
def rapidRestarts (w : WorkerEventLog) (rapidRestartSec : ℚ) : List ℤ :=
  w.disappearances.filter fun d =>
    w.appearances.any fun a => d < a ∧ a - d ≤ ofSeconds rapidRestartSec

theorem rapidRestartEvents_eq (w : WorkerEventLog) (now : ℤ) (rapidRestartSec : ℚ) :
    w.rapidRestartEvents now rapidRestartSec =
      (w.retained now, ((w.retained now).rapidRestarts rapidRestartSec).length) :=
  Prod.ext rfl List.countP_eq_length_filter

/-- Each counted disappearance has an appearance of its own that followed it within the
given time. -/
def Matched (w : WorkerEventLog) (rapidRestartSec : ℚ) : Prop :=
  ∃ start : Fin (w.rapidRestarts rapidRestartSec).length → Fin w.appearances.length,
    Function.Injective start ∧
      ∀ i, (w.rapidRestarts rapidRestartSec).get i < w.appearances.get (start i) ∧
        w.appearances.get (start i) - (w.rapidRestarts rapidRestartSec).get i ≤
          ofSeconds rapidRestartSec

/-- No stretch of counted disappearances outnumbers the appearances from its first one to
the given time after its last one. -/
def Answered (w : WorkerEventLog) (rapidRestartSec : ℚ) : Prop :=
  ∀ d ∈ w.rapidRestarts rapidRestartSec, ∀ d' ∈ w.rapidRestarts rapidRestartSec, d ≤ d' →
    (w.rapidRestarts rapidRestartSec).countP (fun t => d ≤ t ∧ t ≤ d') ≤
      w.appearances.countP (fun a => d < a ∧ a ≤ d' + ofSeconds rapidRestartSec)

/-- A matching exists if and only if every stretch of counted disappearances is answered. -/
theorem matched_iff_answered (w : WorkerEventLog) (rapidRestartSec : ℚ) :
    w.Matched rapidRestartSec ↔ w.Answered rapidRestartSec := by
  have hreach : Monotone fun d : ℤ => d + ofSeconds rapidRestartSec :=
    fun _ _ hle => Int.add_le_add_right hle _
  rw [Answered, ← Matching.exists_injective_get_iff hreach, Matched]
  -- a difference within the threshold is an appearance within reach
  simp only [sub_le_iff_le_add']

/-- The answer of a query counts restarts, no two of them with one appearance. -/
structure CountsPairs (w : WorkerEventLog) (now : ℤ) (rapidRestartSec : ℚ) : Prop where
  le_appearances :
    (w.rapidRestartEvents now rapidRestartSec).2 ≤ (w.retained now).appearances.length
  le_disappearances :
    (w.rapidRestartEvents now rapidRestartSec).2 ≤ (w.retained now).disappearances.length
  matched : (w.retained now).Matched rapidRestartSec

/-- For every log, whatever was recorded in it, a query counts pairs if and only if every
stretch of counted disappearances is answered. -/
theorem countsPairs_iff_answered (w : WorkerEventLog) (now : ℤ) (rapidRestartSec : ℚ) :
    w.CountsPairs now rapidRestartSec ↔ (w.retained now).Answered rapidRestartSec := by
  rw [← matched_iff_answered]
  constructor
  · exact fun h => h.matched
  · intro h
    obtain ⟨start, hinj, -⟩ := id h
    refine ⟨?_, ?_, h⟩
    · rw [rapidRestartEvents_eq]
      simpa using Fintype.card_le_of_injective start hinj
    · rw [rapidRestartEvents_eq]
      exact List.length_filter_le _ _

/-- Two workers stop, and one starts soon after: two restarts, with one appearance. -/
theorem twoStops_not_countsPairs :
    let w := (((newWorkerEventLog 120 1000).recordDisappearance (10 * 10 ^ 9)).recordDisappearance
      (11 * 10 ^ 9)).recordAppearance (13 * 10 ^ 9)
    (w.rapidRestartEvents (13 * 10 ^ 9) rapidRestartSec).2 = 2 ∧
      (w.retained (13 * 10 ^ 9)).appearances.length = 1 ∧
      ¬ w.CountsPairs (13 * 10 ^ 9) rapidRestartSec := by
  refine ⟨by decide +kernel, by decide +kernel, fun h => ?_⟩
  have hle := h.le_appearances
  revert hle
  decide +kernel

end GpuSidecar.Engine.WorkerEventLog
