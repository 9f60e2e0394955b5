import GpuSidecar.Core.Pool.Ledger
import GpuSidecar.Core.Run.Guarded
import GpuSidecar.Models.Dataplane.Queue

/-!
# Requests, dispatcher and shutdown as concurrent parties

Every admitted ticket has a handler that waits in a select, and one dispatcher pops
tickets and then closes their dispatch channels outside the lock. Timers and
contexts become ready at any time, and a select takes any case that is ready. The
step function below performs one atomic step of one party, so a run of it is an
interleaving of the parties.
-/

namespace GpuSidecar.Dataplane

open Run

/-- How far the dispatcher is with a ticket. -/
inductive Slot where
  /-- The dispatcher has not taken the ticket. -/
  | free
  /-- An in-flight slot is taken and the dispatch channel is still open. -/
  | popped
  /-- The dispatch channel is closed. -/
  | closed
  deriving DecidableEq, Repr

/-- The position of a ticket's handler in `WaitForDispatch` and after it. -/
inductive Handler where
  /-- In the select. -/
  | waiting
  /-- The select took the cancelled or the timed-out case. -/
  | removing (why : Expiry)
  /-- `removeWaiting` has returned. -/
  | counting (why : Expiry)
  /-- The expiry is counted. -/
  | returning (why : Expiry)
  /-- `WaitForDispatch` has returned an error, and with it the handler. -/
  | failed (why : Expiry)
  /-- `WaitForDispatch` has returned nil. -/
  | serving
  /-- `Done` was called. -/
  | finished
  deriving DecidableEq, Repr

/-- An admitted ticket with what its handler's select can see. -/
structure Ticket where
  enqueuedMono : ℤ
  dispatchMono : ℤ
  slot : Slot
  ctxDone : Bool
  timerFired : Bool
  handler : Handler
  deriving DecidableEq, Repr

/-- The ticket that `Admit` makes. -/
def newTicket (now : ℤ) : Ticket where
  enqueuedMono := now
  dispatchMono := 0
  slot := .free
  ctxDone := false
  timerFired := false
  handler := .waiting

/-- The atomic steps of a ticket's handler, and of the timer and context it waits for. -/
inductive HandlerStep where
  | cancelCtx
  | timerFires
  | selectDispatch
  | selectCancel
  | selectTimeout
  | removeWaiting
  | countExpired
  | returnExpired
  | done (now : ℤ)
  deriving DecidableEq, Repr

/-- One step of the handler of the ticket named `t`. -/
def handlerStep (q : Queue) (t : ℕ) (tk : Ticket) : HandlerStep → Option (Queue × Ticket)
  | .cancelCtx => some (q, { tk with ctxDone := true })
  | .timerFires =>
    if 0 < q.cfg.queueTimeout ∧ tk.handler = .waiting then some (q, { tk with timerFired := true })
    else none
  | .selectDispatch =>
    if tk.handler = .waiting ∧ tk.slot = .closed then some (q, { tk with handler := .serving })
    else none
  | .selectCancel =>
    if tk.handler = .waiting ∧ tk.ctxDone then
      some (q, { tk with handler := .removing .cancelled })
    else none
  | .selectTimeout =>
    if tk.handler = .waiting ∧ tk.timerFired then
      some (q, { tk with handler := .removing .timedOut })
    else none
  | .removeWaiting =>
    match tk.handler with
    | .removing why => some (q.removeWaiting t, { tk with handler := .counting why })
    | _ => none
  | .countExpired =>
    match tk.handler with
    | .counting why => some (q.countExpired why, { tk with handler := .returning why })
    | _ => none
  | .returnExpired =>
    match tk.handler with
    | .returning why => some (q, { tk with handler := .failed why })
    | _ => none
  | .done now =>
    if tk.handler = .serving then some (q.done now, { tk with handler := .finished }) else none

/-- The queue, its tickets, and the parties that outlive a single ticket. -/
structure DispatchSystem where
  queue : Queue
  /-- Every ticket ever admitted, in order. -/
  tickets : List Ticket
  /-- The ticket that the dispatcher has popped and not yet released, with the time. -/
  dispatcher : Option (ℕ × ℤ)
  /-- The tickets that calls of `Close` have still to cancel. -/
  cancels : List ℕ
  deriving DecidableEq, Repr

/-- One atomic step of one party. -/
inductive DispatchAction where
  | admission (now : ℤ) (gate : Option QueueError)
  | handler (t : ℕ) (step : HandlerStep)
  /-- The critical section of a drain iteration. -/
  | drain (now : ℤ)
  /-- The dispatcher closes the channel of the ticket it popped. -/
  | closeDispatch
  | close
  /-- A call of `Close` cancels its next ticket. -/
  | closeCancel
  deriving DecidableEq, Repr

namespace DispatchSystem

def init (cfg : QueueConfig) : DispatchSystem := ⟨newQueue cfg, [], none, []⟩

/-- The admission time of a ticket. -/
def enqueuedMono (s : DispatchSystem) (t : ℕ) : ℤ :=
  match s.tickets[t]? with
  | some tk => tk.enqueuedMono
  | none => 0

def step (s : DispatchSystem) : DispatchAction → Option DispatchSystem
  | .admission now gate =>
    match s.queue.admitTicket now gate s.tickets.length with
    | (q, some _) => some { s with queue := q }
    | (q, none) => some { s with queue := q, tickets := s.tickets ++ [newTicket now] }
  | .handler t a =>
    match s.tickets[t]? with
    | none => none
    | some tk =>
      match handlerStep s.queue t tk a with
      | none => none
      | some (q, tk') => some { s with queue := q, tickets := s.tickets.set t tk' }
  | .drain now =>
    match s.dispatcher with
    | some _ => none
    | none =>
      match s.queue.drain now s.enqueuedMono with
      | none => some s
      | some (t, q) => some
        { s with
          queue := q
          tickets := s.tickets.modify t fun tk => { tk with slot := .popped }
          dispatcher := some (t, now) }
  | .closeDispatch =>
    match s.dispatcher with
    | none => none
    | some (t, now) => some
      { s with
        tickets := s.tickets.modify t fun tk => { tk with slot := .closed, dispatchMono := now }
        dispatcher := none }
  | .close =>
    some { s with queue := s.queue.close.1, cancels := s.cancels ++ s.queue.close.2 }
  | .closeCancel =>
    match s.cancels with
    | [] => none
    | t :: cancels => some
      { s with
        tickets := s.tickets.modify t fun tk => { tk with ctxDone := true }
        cancels := cancels }

/-- What one step can do. -/
theorem step_cases {s t : DispatchSystem} {a : DispatchAction} (h : s.step a = some t) :
    (∃ now gate q e, a = .admission now gate ∧
      s.queue.admitTicket now gate s.tickets.length = (q, some e) ∧ t = { s with queue := q }) ∨
    (∃ now gate q, a = .admission now gate ∧
      s.queue.admitTicket now gate s.tickets.length = (q, none) ∧
      t = { s with queue := q, tickets := s.tickets ++ [newTicket now] }) ∨
    (∃ i b tk q tk', a = .handler i b ∧ s.tickets[i]? = some tk ∧
      handlerStep s.queue i tk b = some (q, tk') ∧
      t = { s with queue := q, tickets := s.tickets.set i tk' }) ∨
    (∃ now, a = .drain now ∧ s.dispatcher = none ∧
      s.queue.drain now s.enqueuedMono = none ∧ t = s) ∨
    (∃ now i q, a = .drain now ∧ s.dispatcher = none ∧
      s.queue.drain now s.enqueuedMono = some (i, q) ∧
      t = { s with
        queue := q
        tickets := s.tickets.modify i fun tk => { tk with slot := .popped }
        dispatcher := some (i, now) }) ∨
    (∃ i now, a = .closeDispatch ∧ s.dispatcher = some (i, now) ∧
      t = { s with
        tickets := s.tickets.modify i fun tk => { tk with slot := .closed, dispatchMono := now }
        dispatcher := none }) ∨
    (a = .close ∧
      t = { s with queue := s.queue.close.1, cancels := s.cancels ++ s.queue.close.2 }) ∨
    (∃ i cancels, a = .closeCancel ∧ s.cancels = i :: cancels ∧
      t = { s with
        tickets := s.tickets.modify i fun tk => { tk with ctxDone := true }
        cancels := cancels }) := by
  cases a with
  | admission now gate =>
    rcases hq : s.queue.admitTicket now gate s.tickets.length with ⟨q, _ | e⟩
    · right; left
      simp only [step, hq, Option.some.injEq] at h
      exact ⟨now, gate, q, rfl, hq, h.symm⟩
    · left
      simp only [step, hq, Option.some.injEq] at h
      exact ⟨now, gate, q, e, rfl, hq, h.symm⟩
  | handler i b =>
    right; right; left
    cases htk : s.tickets[i]? with
    | none => simp [step, htk] at h
    | some tk =>
      rcases hb : handlerStep s.queue i tk b with _ | ⟨q, tk'⟩
      · simp [step, htk, hb] at h
      · simp only [step, htk, hb, Option.some.injEq] at h
        exact ⟨i, b, tk, q, tk', rfl, htk, hb, h.symm⟩
  | drain now =>
    right; right; right
    cases hd : s.dispatcher with
    | some d => simp [step, hd] at h
    | none =>
      rcases hq : s.queue.drain now s.enqueuedMono with _ | ⟨i, q⟩
      · left
        simp only [step, hd, hq, Option.some.injEq] at h
        exact ⟨now, rfl, rfl, hq, h.symm⟩
      · right; left
        simp only [step, hd, hq, Option.some.injEq] at h
        exact ⟨now, i, q, rfl, rfl, hq, h.symm⟩
  | closeDispatch =>
    right; right; right; right; right; left
    rcases hd : s.dispatcher with _ | ⟨i, now⟩
    · simp [step, hd] at h
    · simp only [step, hd, Option.some.injEq] at h
      exact ⟨i, now, rfl, rfl, h.symm⟩
  | close =>
    right; right; right; right; right; right; left
    simp only [step, Option.some.injEq] at h
    exact ⟨rfl, h.symm⟩
  | closeCancel =>
    right; right; right; right; right; right; right
    rcases hc : s.cancels with _ | ⟨i, cancels⟩
    · simp [step, hc] at h
    · simp only [step, hc, Option.some.injEq] at h
      exact ⟨i, cancels, rfl, rfl, h.symm⟩

end DispatchSystem

end GpuSidecar.Dataplane
