import GpuSidecar.Core.List.Window
import GpuSidecar.Core.Run.Guarded
import GpuSidecar.Models.Dataplane.Queue
import Mathlib.Data.List.Sort

/-!
# The metrics of the queue

`Queue.Snapshot` with its rates and percentiles. Taking a snapshot also prunes the times
that the rates are measured on. Nothing else in the queue reads those times, and a
snapshot that is not taken earlier than the one before finds none of the pruned ones in its
window: two runs that differ in their snapshots only report the same metrics at the end,
and the rates count all events that were ever recorded in the window.
-/

namespace GpuSidecar.Dataplane

open Time Run

def rateInWindow (times : List ℤ) (now window : ℤ) : ℚ :=
  let cutoff := now - window
  (times.countP fun t => cutoff ≤ t : ℕ) / seconds window

def pruneOld (times : List ℤ) (now window : ℤ) : List ℤ :=
  let cutoff := now - window
  times.dropWhile fun t => t < cutoff

/-- The interpolated percentile of a list in any order. -/
def pctile (s : List ℚ) (p : ℚ) : ℚ :=
  if s.length = 0 then 0
  else
    let cp := s.insertionSort (· ≤ ·)
    if cp.length = 1 then cp.headD 0
    else
      let rank := p / 100 * ((cp.length - 1 : ℕ) : ℚ)
      let lo := rank.floor.toNat
      if cp.length - 1 ≤ lo then cp.getLastD 0
      else
        let frac := rank - lo
        cp.getD lo 0 + frac * (cp.getD (lo + 1) 0 - cp.getD lo 0)

/-- The metrics of the queue at one time. -/
structure Snapshot where
  enabled : Bool
  queued : ℕ
  inflight : ℤ
  maxQueued : ℤ
  maxInflight : ℤ
  oldestAgeMs : ℚ
  arrivalRate : ℚ
  dispatchRate : ℚ
  completionRate : ℚ
  arrivals : ℕ
  dispatched : ℕ
  completed : ℕ
  rejected : ℕ
  timedOut : ℕ
  cancelled : ℕ
  waitP50Ms : ℚ
  waitP95Ms : ℚ
  deriving DecidableEq, Repr

/-- The metrics now, and the queue with its old rate timestamps pruned. -/
def Queue.snapshot (q : Queue) (now : ℤ) (enqueuedMono : ℕ → ℤ) : Queue × Snapshot :=
  ({ q with
      arrivalTimes := pruneOld q.arrivalTimes now q.rateWindow
      dispatchTimes := pruneOld q.dispatchTimes now q.rateWindow
      completeTimes := pruneOld q.completeTimes now q.rateWindow },
    { enabled := q.cfg.enabled
      queued := q.waiting.length
      inflight := q.inflight
      maxQueued := q.cfg.maxQueuedRequests
      maxInflight := q.cfg.maxInflightRequests
      oldestAgeMs := match q.waiting with
        | [] => 0
        | t :: _ => microseconds (now - enqueuedMono t) / 1000
      arrivalRate := rateInWindow q.arrivalTimes now q.rateWindow
      dispatchRate := rateInWindow q.dispatchTimes now q.rateWindow
      completionRate := rateInWindow q.completeTimes now q.rateWindow
      arrivals := q.arrivals
      dispatched := q.dispatched
      completed := q.completed
      rejected := q.rejected
      timedOut := q.timedOut
      cancelled := q.cancelled
      waitP50Ms := pctile q.waitSamples 50
      waitP95Ms := pctile q.waitSamples 95 })

/-! ### Calls of the queue -/

/-- A critical section of the queue, with its clock reading. -/
inductive QueueCall where
  | admitTicket (now : ℤ) (gate : Option QueueError) (t : ℕ)
  | removeWaiting (t : ℕ)
  | countExpired (why : Expiry)
  | drain (now : ℤ) (enqueuedMono : ℕ → ℤ)
  | done (now : ℤ)
  | close
  | snapshot (now : ℤ) (enqueuedMono : ℕ → ℤ)

namespace QueueCall

def now? : QueueCall → Option ℤ
  | admitTicket now _ _ | drain now _ | done now | snapshot now _ => some now
  | removeWaiting _ | countExpired _ | close => none

def isSnapshot : QueueCall → Bool
  | snapshot _ _ => true
  | _ => false

end QueueCall

/-- The same calls without the snapshots. -/
def unobserved (calls : List QueueCall) : List QueueCall := calls.filter fun c => !c.isSnapshot

/-- The kinds of event whose rate is measured. -/
inductive Rate where
  | arrival
  | dispatch
  | completion
  deriving DecidableEq, Repr

namespace Queue

def times (q : Queue) : Rate → List ℤ
  | .arrival => q.arrivalTimes
  | .dispatch => q.dispatchTimes
  | .completion => q.completeTimes

def withTimes (q : Queue) (ts : Rate → List ℤ) : Queue :=
  { q with
    arrivalTimes := ts .arrival
    dispatchTimes := ts .dispatch
    completeTimes := ts .completion }

def call (q : Queue) : QueueCall → Queue
  | .admitTicket now gate t => (q.admitTicket now gate t).1
  | .removeWaiting t => q.removeWaiting t
  | .countExpired why => q.countExpired why
  | .drain now enqueuedMono => ((q.drain now enqueuedMono).map Prod.snd).getD q
  | .done now => q.done now
  | .close => q.close.1
  | .snapshot now enqueuedMono => (q.snapshot now enqueuedMono).1

/-- The effect of a history of calls. -/
def calls (q : Queue) (cs : List QueueCall) : Queue := cs.foldl call q

/-- The times of the events of one kind that a call records. -/
def records (q : Queue) (r : Rate) : QueueCall → List ℤ
  | .admitTicket now gate t =>
    if (q.admitTicket now gate t).2 = none ∧ r = .arrival then [now] else []
  | .drain now enqueuedMono =>
    if (q.drain now enqueuedMono).isSome ∧ r = .dispatch then [now] else []
  | .done now => if r = .completion then [now] else []
  | .removeWaiting _ | .countExpired _ | .close | .snapshot _ _ => []

/-- The times of all events of one kind that a history of calls records. -/
def recorded (q : Queue) (r : Rate) (cs : List QueueCall) : List ℤ :=
  observed (fun q c => some (q.call c)) (fun q c => q.records r c) q cs

@[simp] theorem times_withTimes (q : Queue) (ts : Rate → List ℤ) : (q.withTimes ts).times = ts := by
  funext r
  cases r <;> rfl

theorem admitTicket_withTimes (q : Queue) (ts : Rate → List ℤ) (now : ℤ)
    (gate : Option QueueError) (t : ℕ) :
    (q.withTimes ts).admitTicket now gate t =
      ((q.admitTicket now gate t).1.withTimes
          (fun r => ts r ++ q.records r (.admitTicket now gate t)),
        (q.admitTicket now gate t).2) := by
  simp only [records, admitTicket]
  by_cases hclosed : q.closed = true
  · simp [withTimes, hclosed]
  cases gate with
  | some reason => simp [withTimes, hclosed]
  | none =>
    by_cases hfull : q.cfg.maxQueuedRequests ≤ q.waiting.length
    · simp [withTimes, hclosed, hfull]
    · simp [withTimes, hclosed, hfull]

theorem drain_withTimes (q : Queue) (ts : Rate → List ℤ) (now : ℤ) (enqueuedMono : ℕ → ℤ) :
    (q.withTimes ts).drain now enqueuedMono =
      (q.drain now enqueuedMono).map fun p =>
        (p.1, p.2.withTimes (fun r => ts r ++ q.records r (.drain now enqueuedMono))) := by
  cases hw : q.waiting with
  | nil => simp [drain, withTimes, hw]
  | cons t waiting =>
    by_cases hfull : q.cfg.maxInflightRequests ≤ q.inflight
    · simp [drain, withTimes, hw, hfull]
    · simp [records, drain, withTimes, hw, hfull]

/-- What a call does besides recording does not depend on the recorded times. -/
theorem call_withTimes (q : Queue) (ts : Rate → List ℤ) {c : QueueCall}
    (hc : c.isSnapshot = false) :
    (q.withTimes ts).call c = (q.call c).withTimes (fun r => ts r ++ q.records r c) ∧
      ∀ r, (q.withTimes ts).records r c = q.records r c := by
  cases c with
  | snapshot now enqueuedMono => cases hc
  | admitTicket now gate t =>
    have h := q.admitTicket_withTimes ts now gate t
    refine ⟨congrArg Prod.fst h, fun r => ?_⟩
    rw [records, h, records]
  | drain now enqueuedMono =>
    have h := q.drain_withTimes ts now enqueuedMono
    refine ⟨?_, fun r => ?_⟩
    · rw [call, call, h]
      cases hd : q.drain now enqueuedMono with
      | none => simp [records, hd]
      | some p => rfl
    · rw [records, h, records, Option.isSome_map]
  | removeWaiting t => simp [call, records, removeWaiting, withTimes]
  | countExpired why => cases why <;> simp [call, records, countExpired, withTimes]
  | done now =>
    by_cases hpos : 0 < q.inflight
    · simp [call, records, done, withTimes, hpos]
    · simp [call, records, done, withTimes, hpos]
  | close => simp [call, records, close, withTimes]

theorem withTimes_times (q : Queue) : q.withTimes q.times = q := rfl

theorem withTimes_withTimes (q : Queue) (ts ts' : Rate → List ℤ) :
    (q.withTimes ts).withTimes ts' = q.withTimes ts' := rfl

/-- A call other than a snapshot adds to the times what it records. -/
theorem times_call (q : Queue) {c : QueueCall} (hc : c.isSnapshot = false) (r : Rate) :
    (q.call c).times r = q.times r ++ q.records r c := by
  have hcall := (q.call_withTimes q.times hc).1
  rw [withTimes_times] at hcall
  rw [hcall, times_withTimes]

theorem snapshot_fst (q : Queue) (now : ℤ) (enqueuedMono : ℕ → ℤ) :
    (q.snapshot now enqueuedMono).1 =
      q.withTimes fun r => pruneOld (q.times r) now q.rateWindow := rfl

theorem call_rateWindow (q : Queue) (c : QueueCall) : (q.call c).rateWindow = q.rateWindow := by
  cases c with
  | snapshot now enqueuedMono => rfl
  | admitTicket now gate t =>
    cases hadmit : q.admitTicket now gate t with
    | mk q' e =>
      cases e with
      | some e =>
        obtain ⟨rejected, rfl⟩ := admitTicket_eq_some hadmit
        rw [call, hadmit]
      | none =>
        obtain ⟨-, -, -, rfl⟩ := admitTicket_eq_none hadmit
        rw [call, hadmit]
  | drain now enqueuedMono =>
    cases hdrain : q.drain now enqueuedMono with
    | none =>
      rw [call, hdrain]
      rfl
    | some p =>
      obtain ⟨waiting, samples, -, -, hp⟩ := drain_eq_some hdrain
      rw [call, hdrain, Option.map_some, Option.getD_some, hp]
  | removeWaiting t => rfl
  | countExpired why => cases why <;> rfl
  | done now => rfl
  | close => rfl

theorem calls_concat (q : Queue) (cs : List QueueCall) (c : QueueCall) :
    q.calls (cs ++ [c]) = (q.calls cs).call c := by
  rw [calls, calls, List.foldl_append]
  rfl

theorem recorded_concat (q : Queue) (r : Rate) (cs : List QueueCall) (c : QueueCall) :
    q.recorded r (cs ++ [c]) = q.recorded r cs ++ (q.calls cs).records r c :=
  observed_concat _ (exec_total call q cs) rfl

theorem calls_rateWindow (q : Queue) (cs : List QueueCall) :
    (q.calls cs).rateWindow = q.rateWindow :=
  foldl_unchanged call_rateWindow q cs

/-- Snapshots change the recorded times of the queue only, and not what is recorded. -/
theorem calls_unobserved (q : Queue) (cs : List QueueCall) :
    (∃ ts, q.calls cs = (q.calls (unobserved cs)).withTimes ts) ∧
      ∀ r, q.recorded r cs = q.recorded r (unobserved cs) := by
  induction cs using List.reverseRecOn with
  | nil => exact ⟨⟨q.times, rfl⟩, fun r => rfl⟩
  | append_singleton cs c ih =>
    obtain ⟨⟨ts, hts⟩, hrecorded⟩ := ih
    cases hc : c.isSnapshot with
    | true =>
      have hsame : unobserved (cs ++ [c]) = unobserved cs := by simp [unobserved, hc]
      rw [hsame, calls_concat]
      cases c with
      | snapshot now enqueuedMono =>
        refine ⟨⟨_, by rw [call, snapshot_fst, hts, withTimes_withTimes]⟩, fun r => ?_⟩
        rw [recorded_concat, records, List.append_nil, hrecorded]
      | _ => cases hc
    | false =>
      have hmore : unobserved (cs ++ [c]) = unobserved cs ++ [c] := by simp [unobserved, hc]
      obtain ⟨hcall, hrecords⟩ := (q.calls (unobserved cs)).call_withTimes ts hc
      rw [hmore, calls_concat, calls_concat, hts]
      refine ⟨⟨_, hcall⟩, fun r => ?_⟩
      rw [recorded_concat, recorded_concat, hts, hrecords, hrecorded]

/-- A time that no snapshot has passed yet finds all events of its window in the queue. -/
theorem countP_times (cfg : QueueConfig) (r : Rate) {cs : List QueueCall} {now : ℤ}
    (hclock : ∀ c ∈ cs, ∀ t ∈ c.now?, t ≤ now) :
    (((newQueue cfg).calls cs).times r).countP
        (fun t => now - (newQueue cfg).rateWindow ≤ t) =
      ((newQueue cfg).recorded r cs).countP fun t => now - (newQueue cfg).rateWindow ≤ t := by
  induction cs using List.reverseRecOn with
  | nil => cases r <;> rfl
  | append_singleton cs c ih =>
    have hbefore := ih fun c' hc' => hclock c' (List.mem_append_left _ hc')
    rw [calls_concat, recorded_concat]
    cases hc : c.isSnapshot with
    | true =>
      cases c with
      | snapshot t enqueuedMono =>
        have ht : t ≤ now := hclock _ (List.mem_append_right _ List.mem_cons_self) t rfl
        rw [records, List.append_nil, ← hbefore, call, snapshot_fst, times_withTimes,
          calls_rateWindow]
        exact Window.countP_dropWhile_lt _ (by omega)
      | _ => cases hc
    | false => rw [times_call _ hc, List.countP_append, List.countP_append, hbefore]

theorem rateInWindow_calls (cfg : QueueConfig) (r : Rate) {cs : List QueueCall} {now : ℤ}
    (hclock : ∀ c ∈ cs, ∀ t ∈ c.now?, t ≤ now) :
    rateInWindow (((newQueue cfg).calls cs).times r) now ((newQueue cfg).calls cs).rateWindow =
      rateInWindow ((newQueue cfg).recorded r cs) now (newQueue cfg).rateWindow := by
  rw [calls_rateWindow, rateInWindow, countP_times cfg r hclock, rateInWindow]

/-- Of the recorded times a snapshot shows the rates only. -/
theorem snapshot_congr (q : Queue) (ts ts' : Rate → List ℤ) (now : ℤ) (enqueuedMono : ℕ → ℤ)
    (h : ∀ r, rateInWindow (ts r) now q.rateWindow = rateInWindow (ts' r) now q.rateWindow) :
    ((q.withTimes ts).snapshot now enqueuedMono).2 =
      ((q.withTimes ts').snapshot now enqueuedMono).2 := by
  simp only [snapshot, withTimes, h]

end Queue

/-- The rates of a snapshot are those of the given times in the window. -/
structure Snapshot.RatesExact (s : Snapshot) (now window : ℤ) (recorded : Rate → List ℤ) :
    Prop where
  arrival : s.arrivalRate =
    ((recorded .arrival).countP fun t => now - window ≤ t : ℕ) / seconds window
  dispatch : s.dispatchRate =
    ((recorded .dispatch).countP fun t => now - window ≤ t : ℕ) / seconds window
  completion : s.completionRate =
    ((recorded .completion).countP fun t => now - window ≤ t : ℕ) / seconds window

/-- Two histories of calls that differ only in when snapshots were taken report the same
metrics at the end, and their rates count all events in the window that were ever
recorded. -/
theorem snapshot_unaffected (cfg : QueueConfig) (cs cs' : List QueueCall) (now : ℤ)
    (enqueuedMono : ℕ → ℤ) (hsame : unobserved cs = unobserved cs')
    (hclock : ∀ c ∈ cs, ∀ t ∈ c.now?, t ≤ now) (hclock' : ∀ c ∈ cs', ∀ t ∈ c.now?, t ≤ now) :
    (((newQueue cfg).calls cs).snapshot now enqueuedMono).2 =
        (((newQueue cfg).calls cs').snapshot now enqueuedMono).2 ∧
      (((newQueue cfg).calls cs).snapshot now enqueuedMono).2.RatesExact now
        (newQueue cfg).rateWindow fun r => (newQueue cfg).recorded r cs := by
  have hrate := fun r => Queue.rateInWindow_calls cfg r hclock
  have hrate' := fun r => Queue.rateInWindow_calls cfg r hclock'
  obtain ⟨⟨ts, hts⟩, hrecorded⟩ := (newQueue cfg).calls_unobserved cs
  obtain ⟨⟨ts', hts'⟩, hrecorded'⟩ := (newQueue cfg).calls_unobserved cs'
  refine ⟨?_, hrate .arrival, hrate .dispatch, hrate .completion⟩
  rw [hts, hts', ← hsame]
  apply Queue.snapshot_congr
  intro r
  have hleft := hrate r
  have hright := hrate' r
  rw [hts, Queue.times_withTimes] at hleft
  rw [hts', ← hsame, Queue.times_withTimes] at hright
  exact (hleft.trans (by rw [hrecorded, hrecorded', hsame])).trans hright.symm

/-- An admission, a dispatch and a completion within two seconds, with snapshots in between or
without them, and the rates at the end. -/
theorem scraped_unaffected :
    let cs : List QueueCall := [.admitTicket 0 none 0, .snapshot 500000000 (fun _ => 0),
      .drain 1000000000 fun _ => 0, .snapshot 1500000000 (fun _ => 0), .done 2000000000]
    let cs' : List QueueCall := [.admitTicket 0 none 0, .drain 1000000000 fun _ => 0,
      .done 2000000000]
    (((newQueue defaultQueueConfig).calls cs).snapshot 10500000000 fun _ => 0).2 =
        (((newQueue defaultQueueConfig).calls cs').snapshot 10500000000 fun _ => 0).2 ∧
      (((newQueue defaultQueueConfig).calls cs).snapshot 10500000000 fun _ => 0).2.arrivalRate =
        0 ∧
      (((newQueue defaultQueueConfig).calls cs).snapshot 10500000000 fun _ => 0).2.dispatchRate =
        1 / 10 := by
  intro cs cs'
  refine ⟨?_, by decide +kernel, by decide +kernel⟩
  exact (snapshot_unaffected defaultQueueConfig cs cs' 10500000000 (fun _ => 0) rfl
    (by decide +kernel) (by decide +kernel)).1

end GpuSidecar.Dataplane
