import GpuSidecar.Core.Time.Duration

/-!
# The admission queue

The embedding of `internal/dataplane/queue.go`. Every method of the queue is one or
more critical sections under its lock, and each critical section is one function on
its state. Tickets are named by the order of their admission, and what the queue
reads of a ticket is an argument. Clock readings of the queue are durations since
its start, in nanoseconds.
-/

namespace GpuSidecar.Dataplane

open Time

/-- The local lifecycle states of a request. -/
inductive ReqState where
  | received
  | queued
  | dispatching
  | streaming
  | waitingFull
  | completed
  | rejected
  | cancelled
  | timedOut
  | upstreamFail
  | partialStream
  deriving DecidableEq, Repr

/-- The structured errors of admission and waiting. -/
inductive QueueError where
  | queueFull
  | backendOffline
  | backendDraining
  | runtimeUnhealthy
  | queueTimeout
  | inflightFull
  | cancelled
  deriving DecidableEq, Repr

/-- The text of an error, which is the code the router sees. -/
def QueueError.code : QueueError → String
  | queueFull => "ADMISSION_QUEUE_FULL"
  | backendOffline => "BACKEND_OFFLINE"
  | backendDraining => "BACKEND_DRAINING"
  | runtimeUnhealthy => "RUNTIME_UNHEALTHY"
  | queueTimeout => "QUEUE_TIMEOUT"
  | inflightFull => "INFLIGHT_LIMIT"
  | cancelled => "CANCELLED"

/-- The bounds of the queue (`QueueConfig`); a timeout that is not positive is none. -/
structure QueueConfig where
  enabled : Bool
  maxQueuedRequests : ℤ
  maxInflightRequests : ℤ
  queueTimeout : ℤ
  deriving DecidableEq, Repr

def defaultQueueConfig : QueueConfig where
  enabled := true
  maxQueuedRequests := 256
  maxInflightRequests := 32
  queueTimeout := 30 * 1000000000

/-- The bounded queue and in-flight limiter, with its counters and rate windows. -/
structure Queue where
  cfg : QueueConfig
  /-- The tickets not yet dispatched, oldest first. -/
  waiting : List ℕ
  inflight : ℤ
  closed : Bool
  arrivals : ℕ
  dispatched : ℕ
  completed : ℕ
  rejected : ℕ
  timedOut : ℕ
  cancelled : ℕ
  rateWindow : ℤ
  arrivalTimes : List ℤ
  dispatchTimes : List ℤ
  completeTimes : List ℤ
  /-- Queue waits in milliseconds, the latest last. -/
  waitSamples : List ℚ
  deriving DecidableEq, Repr

def newQueue (cfg : QueueConfig) : Queue where
  cfg := cfg
  waiting := []
  inflight := 0
  closed := false
  arrivals := 0
  dispatched := 0
  completed := 0
  rejected := 0
  timedOut := 0
  cancelled := 0
  rateWindow := 10 * 1000000000
  arrivalTimes := []
  dispatchTimes := []
  completeTimes := []
  waitSamples := []

/-- Why a ticket stopped waiting without being dispatched. -/
inductive Expiry where
  | cancelled
  | timedOut
  deriving DecidableEq, Repr

/-- The error that `WaitForDispatch` returns. -/
def Expiry.error : Expiry → QueueError
  | cancelled => .cancelled
  | timedOut => .queueTimeout

namespace Queue

/-- The critical section of `Admit` for the ticket `t`; the result is the error, if any.
`gate` is the answer of the admission gate. -/
def admitTicket (q : Queue) (now : ℤ) (gate : Option QueueError) (t : ℕ) :
    Queue × Option QueueError :=
  if q.closed then (q, some .backendOffline)
  else match gate with
    | some reason => ({ q with rejected := q.rejected + 1 }, some reason)
    | none =>
      if q.cfg.maxQueuedRequests ≤ q.waiting.length then
        ({ q with rejected := q.rejected + 1 }, some .queueFull)
      else
        ({ q with
            arrivals := q.arrivals + 1
            arrivalTimes := q.arrivalTimes ++ [now]
            waiting := q.waiting ++ [t] }, none)

/-- Removes a ticket from the waiting list, if it is still there. -/
def removeWaiting (q : Queue) (t : ℕ) : Queue := { q with waiting := q.waiting.erase t }

/-- Counts a ticket whose wait expired. -/
def countExpired (q : Queue) : Expiry → Queue
  | .cancelled => { q with cancelled := q.cancelled + 1 }
  | .timedOut => { q with timedOut := q.timedOut + 1 }

/-- The critical section of one iteration of `drain`: the oldest ticket leaves the queue
for a free in-flight slot, or the loop ends. -/
def drain (q : Queue) (now : ℤ) (enqueuedMono : ℕ → ℤ) : Option (ℕ × Queue) :=
  match q.waiting with
  | [] => none
  | t :: waiting =>
    if q.cfg.maxInflightRequests ≤ q.inflight then none
    else
      let waitMs : ℚ := microseconds (now - enqueuedMono t) / 1000
      let waitSamples := q.waitSamples ++ [waitMs]
      some (t,
        { q with
          waiting := waiting
          inflight := q.inflight + 1
          dispatched := q.dispatched + 1
          dispatchTimes := q.dispatchTimes ++ [now]
          waitSamples :=
            if 4096 < waitSamples.length then waitSamples.drop (waitSamples.length - 4096)
            else waitSamples })

/-- The critical section of `Done`, with its clamped decrement. -/
def done (q : Queue) (now : ℤ) : Queue :=
  { q with
    inflight := if 0 < q.inflight then q.inflight - 1 else q.inflight
    completed := q.completed + 1
    completeTimes := q.completeTimes ++ [now] }

/-- The critical section of `Close`: the queue, and the tickets still to be cancelled. -/
def close (q : Queue) : Queue × List ℕ := ({ q with closed := true, waiting := [] }, q.waiting)

/-- A refused admission counts at most the refusal. -/
theorem admitTicket_eq_some {q q' : Queue} {now : ℤ} {gate : Option QueueError} {t : ℕ}
    {e : QueueError} (h : q.admitTicket now gate t = (q', some e)) :
    ∃ rejected, q' = { q with rejected := rejected } := by
  unfold admitTicket at h
  split at h
  · exact ⟨q.rejected, (congrArg Prod.fst h).symm⟩
  · cases gate with
    | some reason => exact ⟨q.rejected + 1, (congrArg Prod.fst h).symm⟩
    | none =>
      simp only at h
      split at h
      · exact ⟨q.rejected + 1, (congrArg Prod.fst h).symm⟩
      · simp at h

/-- A granted admission puts the ticket at the end of a queue that had room. -/
theorem admitTicket_eq_none {q q' : Queue} {now : ℤ} {gate : Option QueueError} {t : ℕ}
    (h : q.admitTicket now gate t = (q', none)) :
    q.closed = false ∧ gate = none ∧ (q.waiting.length : ℤ) < q.cfg.maxQueuedRequests ∧
      q' = { q with
        arrivals := q.arrivals + 1
        arrivalTimes := q.arrivalTimes ++ [now]
        waiting := q.waiting ++ [t] } := by
  unfold admitTicket at h
  split at h
  · simp at h
  · rename_i hclosed
    cases gate with
    | some reason => simp at h
    | none =>
      simp only at h
      split at h
      · simp at h
      · rename_i hfull
        exact ⟨by simpa using hclosed, rfl, not_le.mp hfull, (congrArg Prod.fst h).symm⟩

/-- An iteration that pops takes the oldest ticket and a free slot. -/
theorem drain_eq_some {q q' : Queue} {now : ℤ} {enqueuedMono : ℕ → ℤ} {t : ℕ}
    (h : q.drain now enqueuedMono = some (t, q')) :
    ∃ waiting waitSamples, q.waiting = t :: waiting ∧ q.inflight < q.cfg.maxInflightRequests ∧
      q' = { q with
        waiting := waiting
        inflight := q.inflight + 1
        dispatched := q.dispatched + 1
        dispatchTimes := q.dispatchTimes ++ [now]
        waitSamples := waitSamples } := by
  rw [drain] at h
  cases hw : q.waiting with
  | nil => simp [hw] at h
  | cons t' waiting =>
    simp only [hw] at h
    split at h
    · simp at h
    · rename_i hfree
      simp only [Option.some.injEq, Prod.mk.injEq] at h
      obtain ⟨rfl, rfl⟩ := h
      exact ⟨waiting, _, rfl, not_le.mp hfree, rfl⟩

end Queue

end GpuSidecar.Dataplane
