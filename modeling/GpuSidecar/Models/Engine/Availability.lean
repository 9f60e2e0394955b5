import GpuSidecar.Models.Engine.History
import Mathlib.Algebra.Field.Basic
import Mathlib.Data.PNat.Defs

/-!
# The availability of a device

A device history takes probes, points, events and marks in any order. The ring of probes
holds the latest of all recorded probes, as many as it has slots, and only a probe
recomputes the figures of the window. The figures are therefore always those of the
latest probes in the window that ends at the last one, and with a window that is not
negative the last probe itself lies in it.
-/

namespace GpuSidecar.Engine

open Time

/-- A call of a device history. -/
inductive HistoryCall where
  | recordProbe (ok : Bool) (latencyMs : ℚ) (mono wall : ℤ)
  | observeUncorr (cur : ℕ) (supported : Bool)
  | addPoint (p : HistoryPoint)
  | addEvent (e : Event)
  | markWorkerStart
  | markWorkerStop
  | markSidecarStart
  | markDisconnect (mono : ℤ)
  | markRejoin (recoveryMs : ℚ)
  | setThroughputVariance (cov : ℚ)
  deriving DecidableEq, Repr

/-- The probe that a call records. -/
def HistoryCall.probe? : HistoryCall → Option ProbeRec
  | recordProbe ok latencyMs mono _ => some { mono := mono, ok := ok, latency := latencyMs }
  | _ => none

namespace DeviceHistory

def call (d : DeviceHistory) : HistoryCall → DeviceHistory
  | .recordProbe ok latencyMs mono wall => d.recordProbe ok latencyMs mono wall
  | .observeUncorr cur supported => (d.observeUncorr cur supported).1
  | .addPoint p => d.addPoint p
  | .addEvent e => d.addEvent e
  | .markWorkerStart => d.markWorkerStart
  | .markWorkerStop => d.markWorkerStop
  | .markSidecarStart => d.markSidecarStart
  | .markDisconnect mono => d.markDisconnect mono
  | .markRejoin recoveryMs => d.markRejoin recoveryMs
  | .setThroughputVariance cov => d.setThroughputVariance cov

/-- The effect of a history of calls. -/
def calls (d : DeviceHistory) (cs : List HistoryCall) : DeviceHistory := cs.foldl call d

/-- The figures of the window: availability, failure rate and the two latency percentiles. -/
def figures (d : DeviceHistory) : ℚ × ℚ × ℚ × ℚ :=
  (d.rel.recentAvailability, d.rel.recentFailureRate,
    d.rel.probeLatencyP50Ms, d.rel.probeLatencyP95Ms)

theorem calls_concat (d : DeviceHistory) (cs : List HistoryCall) (c : HistoryCall) :
    d.calls (cs ++ [c]) = (d.calls cs).call c := by
  rw [calls, calls, List.foldl_append]
  rfl

/-- Observing the counter of errors changes nothing else. -/
theorem observeUncorr_fst (d : DeviceHistory) (cur : ℕ) (supported : Bool) :
    ∃ last seen, (d.observeUncorr cur supported).1 =
      { d with lastUncorr := last, haveUncorr := seen } := by
  cases supported with
  | false => exact ⟨d.lastUncorr, d.haveUncorr, rfl⟩
  | true =>
    rw [observeUncorr, if_pos rfl]
    by_cases hseen : d.haveUncorr = true
    · rw [if_pos hseen]
      exact ⟨cur, d.haveUncorr, rfl⟩
    · rw [if_neg hseen]
      exact ⟨cur, true, rfl⟩

/-- A call that records no probe leaves the probes and the figures of the window alone. -/
theorem call_of_probe?_eq_none (d : DeviceHistory) {c : HistoryCall} (hc : c.probe? = none) :
    (d.call c).probes = d.probes ∧ (d.call c).figures = d.figures := by
  cases c with
  | recordProbe ok latencyMs mono wall => cases hc
  | observeUncorr cur supported =>
    obtain ⟨last, seen, hfst⟩ := d.observeUncorr_fst cur supported
    rw [call, hfst]
    exact ⟨rfl, rfl⟩
  | _ => exact ⟨rfl, rfl⟩

theorem call_windowSec (d : DeviceHistory) (c : HistoryCall) :
    (d.call c).windowSec = d.windowSec := by
  cases c with
  | observeUncorr cur supported =>
    obtain ⟨last, seen, hfst⟩ := d.observeUncorr_fst cur supported
    rw [call, hfst]
  | _ => rfl

theorem calls_windowSec (d : DeviceHistory) (cs : List HistoryCall) :
    (d.calls cs).windowSec = d.windowSec :=
  Run.foldl_unchanged call_windowSec d cs

theorem probes_call (d : DeviceHistory) (c : HistoryCall) :
    (d.call c).probes = c.probe?.toList.foldl .push d.probes := by
  cases hc : c.probe? with
  | none => exact (d.call_of_probe?_eq_none hc).1
  | some p =>
    cases c with
    | recordProbe ok latencyMs mono wall =>
      cases hc
      rfl
    | _ => cases hc

/-- The ring of probes takes all recorded probes and nothing else. -/
theorem probes_calls (d : DeviceHistory) (cs : List HistoryCall) :
    (d.calls cs).probes = (cs.filterMap HistoryCall.probe?).foldl .push d.probes := by
  induction cs using List.reverseRecOn with
  | nil => rfl
  | append_singleton cs c ih =>
    rw [calls_concat, probes_call, ih, List.filterMap_append, List.foldl_append]
    cases hc : c.probe? <;> simp [hc]

end DeviceHistory

/-- The latest of the probes, as many as the ring has slots, that lie in the window that ends
at the given time. -/
def probesInWindow (probeCap : ℕ) (windowSec : ℚ) (now : ℤ) (ps : List ProbeRec) :
    List ProbeRec :=
  (ps.rtake probeCap).filter fun p => now - ofSeconds windowSec ≤ p.mono

/-- The reliability figures are those of the given probes, of which there is one at least. -/
structure Reliability.AvailabilityExact (rel : Reliability) (recent : List ProbeRec) : Prop where
  observed : 0 < recent.length
  availability : rel.recentAvailability = (recent.countP fun p => p.ok : ℕ) / recent.length
  complement : rel.recentAvailability + rel.recentFailureRate = 1

theorem Reliability.AvailabilityExact.congr {d d' : DeviceHistory} {recent : List ProbeRec}
    (h : d.rel.AvailabilityExact recent) (hsame : d'.figures = d.figures) :
    d'.rel.AvailabilityExact recent := by
  simp only [DeviceHistory.figures, Prod.mk.injEq] at hsame
  obtain ⟨havailability, hfailure, -⟩ := hsame
  refine ⟨h.observed, havailability.trans h.availability, ?_⟩
  rw [havailability, hfailure, h.complement]

namespace DeviceHistory

theorem items_calls (probeCap pointCap eventCap : ℕ+) (windowSec : ℚ) (cs : List HistoryCall) :
    ((newDeviceHistory probeCap pointCap eventCap windowSec).calls cs).probes.items =
      (cs.filterMap HistoryCall.probe?).rtake probeCap := by
  rw [probes_calls, RingBuffer.items_foldl_push, newDeviceHistory, RingBuffer.items_new,
    List.nil_append]
  rfl

theorem recomputeWindow_exact {d : DeviceHistory} {now : ℤ} {recent : List ProbeRec}
    (hrecent : recent = d.probes.items.filter fun p => now - ofSeconds d.windowSec ≤ p.mono)
    (hpos : 0 < recent.length) : (d.recomputeWindow now).rel.AvailabilityExact recent := by
  have hne : (recent.length : ℚ) ≠ 0 := Nat.cast_ne_zero.mpr hpos.ne'
  refine ⟨hpos, ?_, ?_⟩
  · simp only [recomputeWindow, ← hrecent, if_pos hpos, List.countP_eq_length_filter]
  · simp only [recomputeWindow, ← hrecent, if_pos hpos]
    rw [← add_div, add_sub_cancel, div_self hne]

/-- A probe lies in the window that ends at it. -/
theorem recordProbe_exact {d : DeviceHistory} (hwindow : 0 ≤ d.windowSec) (ok : Bool)
    (latencyMs : ℚ) (mono wall : ℤ) :
    (d.recordProbe ok latencyMs mono wall).rel.AvailabilityExact
      ((d.recordProbe ok latencyMs mono wall).probes.items.filter fun p =>
        mono - ofSeconds d.windowSec ≤ p.mono) := by
  apply recomputeWindow_exact rfl
  have hlast := List.mem_of_getLast? (d.probes.getLast?_items_push
    { mono := mono, ok := ok, latency := latencyMs })
  have hnonneg := ofSeconds_nonneg hwindow
  have hwithin : mono - ofSeconds d.windowSec ≤ mono := by omega
  exact List.length_pos_of_mem (List.mem_filter.mpr ⟨hlast, decide_eq_true hwithin⟩)

/-- After any calls the figures are those of the window that ends at the last probe. -/
theorem calls_exact (probeCap pointCap eventCap : ℕ+) {windowSec : ℚ} (hwindow : 0 ≤ windowSec)
    (cs : List HistoryCall) {last : ProbeRec}
    (hlast : (cs.filterMap HistoryCall.probe?).getLast? = some last) :
    ((newDeviceHistory probeCap pointCap eventCap windowSec).calls cs).rel.AvailabilityExact
      (probesInWindow probeCap windowSec last.mono (cs.filterMap HistoryCall.probe?)) := by
  induction cs using List.reverseRecOn with
  | nil => cases hlast
  | append_singleton cs c ih =>
    have hitems := items_calls probeCap pointCap eventCap windowSec (cs ++ [c])
    have hsec := calls_windowSec (newDeviceHistory probeCap pointCap eventCap windowSec) cs
    rw [calls_concat] at hitems ⊢
    cases hc : c.probe? with
    | none =>
      have hsame : (cs ++ [c]).filterMap HistoryCall.probe? = cs.filterMap HistoryCall.probe? := by
        simp [hc]
      rw [hsame] at hlast ⊢
      exact (ih hlast).congr (call_of_probe?_eq_none _ hc).2
    | some p =>
      have hmore : (cs ++ [c]).filterMap HistoryCall.probe? =
          cs.filterMap HistoryCall.probe? ++ [p] := by simp [hc]
      rw [hmore, List.getLast?_concat, Option.some.injEq] at hlast
      subst hlast
      rw [probesInWindow, ← hitems]
      cases c with
      | recordProbe ok latencyMs mono wall =>
        cases hc
        have hexact := recordProbe_exact (hwindow.trans_eq hsec.symm) ok latencyMs mono wall
        rwa [hsec] at hexact
      | _ => cases hc

end DeviceHistory

/-- A ring buffer keeps the latest of the pushed values, in the order in which they were pushed,
and stays within its slots. So the availability is the fraction of successes among the
latest probes that lie in the window, and it and the failure rate add up to one. -/
theorem recentAvailability_exact (probeCap pointCap eventCap : ℕ+) {windowSec : ℚ}
    (hwindow : 0 ≤ windowSec) :
    (∀ (α : Type) [Inhabited α] (capacity : ℕ+) (vs : List α),
      let r := vs.foldl RingBuffer.push (.new capacity)
      r.items = vs.rtake capacity ∧ r.head < r.buf.length ∧
        ∀ i < r.size, (r.start + i) % r.cap < r.buf.length) ∧
    ∀ cs last, (cs.filterMap HistoryCall.probe?).getLast? = some last →
      ((newDeviceHistory probeCap pointCap eventCap windowSec).calls cs).rel.AvailabilityExact
        (probesInWindow probeCap windowSec last.mono (cs.filterMap HistoryCall.probe?)) := by
  refine ⟨fun α _ capacity vs => ⟨?_, ?_, ?_⟩,
    fun cs last hlast => DeviceHistory.calls_exact _ _ _ hwindow cs hlast⟩
  · rw [RingBuffer.items_foldl_push, RingBuffer.items_new, List.nil_append]
    rfl
  · exact (RingBuffer.head_lt _).trans_eq (RingBuffer.length_buf _).symm
  · intro i hi
    exact (RingBuffer.slot _ _).2

/-- Three probes in a ring of two slots: the first is gone, and one of the two others failed. -/
theorem threeProbes_availability :
    let cs : List HistoryCall := [.recordProbe true 5 0 0, .recordProbe false 9 1000000000 1,
      .markWorkerStart, .recordProbe true 7 2000000000 2]
    ((newDeviceHistory 2 1 1 60).calls cs).rel.recentAvailability = 1 / 2 ∧
      ((newDeviceHistory 2 1 1 60).calls cs).rel.recentAvailability +
        ((newDeviceHistory 2 1 1 60).calls cs).rel.recentFailureRate = 1 := by
  intro cs
  have hexact := (recentAvailability_exact 2 1 1 (show (0 : ℚ) ≤ 60 by decide)).2 cs _ rfl
  exact ⟨hexact.availability.trans (by decide +kernel), hexact.complement⟩

end GpuSidecar.Engine
