import GpuSidecar.Models.Dataplane.Dispatch
import Mathlib.Data.List.Nodup

/-!
# Conservation of in-flight slots

The counters of the queue form a ledger over the tickets in every interleaving. The
in-flight counter is the number of popped tickets on which `Done` was not called,
which exceeds the number of popped and unfinished tickets by exactly the tickets that
were popped while their wait was expiring. Slots are conserved in a run if and only
if no wait that expires has been popped when it returns.
-/

namespace GpuSidecar.Dataplane

open Run Pool

/-! ### What a ticket has contributed to the counters -/

/-- The counters that a ticket moves on its way. -/
inductive Counter where
  | arrivals
  | inflight
  | dispatched
  | completed
  | timedOut
  | cancelled
  deriving DecidableEq, Repr

def Queue.counter (q : Queue) : Counter → ℤ
  | .arrivals => q.arrivals
  | .inflight => q.inflight
  | .dispatched => q.dispatched
  | .completed => q.completed
  | .timedOut => q.timedOut
  | .cancelled => q.cancelled

namespace Ticket

/-- The dispatcher has popped the ticket. -/
def popped (tk : Ticket) : Bool := decide (tk.slot ≠ .free)

/-- The ticket's wait has been counted as expired for the given reason. -/
def countedAs (tk : Ticket) (why : Expiry) : Bool :=
  decide (tk.handler = .returning why ∨ tk.handler = .failed why)

/-- The handler has finished: `Done` was called, or the wait returned an error. -/
def returned (tk : Ticket) : Bool :=
  match tk.handler with
  | .finished => true
  | .failed _ => true
  | _ => false

/-- What the ticket accounts for in each counter. -/
def share : Counter → Ticket → ℕ
  | .arrivals, _ => 1
  | .inflight, tk => if tk.popped ∧ tk.handler ≠ .finished then 1 else 0
  | .dispatched, tk => if tk.popped then 1 else 0
  | .completed, tk => if tk.handler = .finished then 1 else 0
  | .timedOut, tk => if tk.countedAs .timedOut then 1 else 0
  | .cancelled, tk => if tk.countedAs .cancelled then 1 else 0

/-- The ticket holds a slot that nobody will give back. -/
def leaked (tk : Ticket) : Bool :=
  tk.popped && match tk.handler with
    | .failed _ => true
    | _ => false

/-- The state of a ticket that is still in the waiting list. -/
def InQueue (tk : Ticket) : Prop :=
  tk.slot = .free ∧ (tk.handler = .waiting ∨ ∃ why, tk.handler = .removing why)

/-- A served ticket was dispatched. -/
def Consistent (tk : Ticket) : Prop :=
  tk.handler = .serving ∨ tk.handler = .finished → tk.slot = .closed

end Ticket

namespace DispatchSystem

/-- The invariant of the system. -/
structure Inv (s : DispatchSystem) : Prop where
  nodup : s.queue.waiting.Nodup
  waiting : ∀ i ∈ s.queue.waiting, ∃ tk, s.tickets[i]? = some tk ∧ tk.InQueue
  consistent : ∀ tk ∈ s.tickets, tk.Consistent
  dispatcher : ∀ i now, s.dispatcher = some (i, now) →
    ∃ tk, s.tickets[i]? = some tk ∧ tk.slot = .popped
  ledger : Balanced s.queue.counter Ticket.share s.tickets

theorem inv_init (cfg : QueueConfig) : (init cfg).Inv where
  nodup := List.nodup_nil
  waiting := by simp [init, newQueue]
  consistent := by simp [init]
  dispatcher := by simp [init]
  ledger := fun k => by cases k <;> rfl

/-- A handler's step moves the counters with its ticket's shares, keeps the ticket
consistent, and leaves the waiting list when it stops waiting. -/
theorem handlerStep_spec {q q' : Queue} {i : ℕ} {tk tk' : Ticket} {b : HandlerStep}
    (h : handlerStep q i tk b = some (q', tk')) (hnodup : q.waiting.Nodup)
    (hqueue : i ∈ q.waiting → tk.InQueue) (hcons : tk.Consistent)
    (hslot : tk.handler = .serving → 0 < q.inflight) :
    (∀ k, q'.counter k + tk.share k = q.counter k + tk'.share k) ∧
      q'.waiting.Sublist q.waiting ∧ (i ∈ q'.waiting → tk'.InQueue) ∧ tk'.Consistent ∧
      tk'.slot = tk.slot := by
  cases b with
  | cancelCtx =>
    simp only [handlerStep, Option.some.injEq, Prod.mk.injEq] at h
    obtain ⟨rfl, rfl⟩ := h
    exact ⟨fun k => by cases k <;> rfl, List.Sublist.refl _, hqueue, hcons, rfl⟩
  | timerFires =>
    simp only [handlerStep, Option.ite_none_right_eq_some, Option.some.injEq, Prod.mk.injEq] at h
    obtain ⟨-, rfl, rfl⟩ := h
    exact ⟨fun k => by cases k <;> rfl, List.Sublist.refl _, hqueue, hcons, rfl⟩
  | selectDispatch =>
    simp only [handlerStep, Option.ite_none_right_eq_some, Option.some.injEq, Prod.mk.injEq] at h
    obtain ⟨⟨hw, hc⟩, rfl, rfl⟩ := h
    refine ⟨fun k => ?_, List.Sublist.refl _, fun hi => ?_, fun _ => hc, rfl⟩
    · cases k <;> simp [Ticket.share, Ticket.popped, Ticket.countedAs, hw]
    · rw [(hqueue hi).1] at hc
      cases hc
  | selectCancel =>
    simp only [handlerStep, Option.ite_none_right_eq_some, Option.some.injEq, Prod.mk.injEq] at h
    obtain ⟨⟨hw, -⟩, rfl, rfl⟩ := h
    refine ⟨fun k => ?_, List.Sublist.refl _, fun hi => ⟨(hqueue hi).1, Or.inr ⟨_, rfl⟩⟩, ?_, rfl⟩
    · cases k <;> simp [Ticket.share, Ticket.popped, Ticket.countedAs, hw]
    · simp [Ticket.Consistent]
  | selectTimeout =>
    simp only [handlerStep, Option.ite_none_right_eq_some, Option.some.injEq, Prod.mk.injEq] at h
    obtain ⟨⟨hw, -⟩, rfl, rfl⟩ := h
    refine ⟨fun k => ?_, List.Sublist.refl _, fun hi => ⟨(hqueue hi).1, Or.inr ⟨_, rfl⟩⟩, ?_, rfl⟩
    · cases k <;> simp [Ticket.share, Ticket.popped, Ticket.countedAs, hw]
    · simp [Ticket.Consistent]
  | removeWaiting =>
    cases hh : tk.handler with
    | removing why =>
      simp only [handlerStep, hh, Option.some.injEq, Prod.mk.injEq] at h
      obtain ⟨rfl, rfl⟩ := h
      refine ⟨fun k => ?_, List.erase_sublist, fun hi => ?_, ?_, rfl⟩
      · cases k <;>
          simp [Ticket.share, Ticket.popped, Ticket.countedAs, hh, Queue.counter,
            Queue.removeWaiting]
      · exact absurd hi hnodup.not_mem_erase
      · simp [Ticket.Consistent]
    | waiting | counting | returning | failed | serving | finished =>
      simp [handlerStep, hh] at h
  | countExpired =>
    cases hh : tk.handler with
    | counting why =>
      simp only [handlerStep, hh, Option.some.injEq, Prod.mk.injEq] at h
      obtain ⟨rfl, rfl⟩ := h
      refine ⟨fun k => ?_, ?_, fun hi => ?_, ?_, rfl⟩
      · cases why <;> cases k <;>
          simp [Ticket.share, Ticket.popped, Ticket.countedAs, hh, Queue.counter,
            Queue.countExpired]
      · cases why <;> exact List.Sublist.refl _
      · have hold : i ∈ q.waiting := by cases why <;> exact hi
        simpa [Ticket.InQueue, hh] using hqueue hold
      · simp [Ticket.Consistent]
    | waiting | removing | returning | failed | serving | finished =>
      simp [handlerStep, hh] at h
  | returnExpired =>
    cases hh : tk.handler with
    | returning why =>
      simp only [handlerStep, hh, Option.some.injEq, Prod.mk.injEq] at h
      obtain ⟨rfl, rfl⟩ := h
      refine ⟨fun k => ?_, List.Sublist.refl _, fun hi => ?_, ?_, rfl⟩
      · cases why <;> cases k <;> simp [Ticket.share, Ticket.popped, Ticket.countedAs, hh]
      · simpa [Ticket.InQueue, hh] using hqueue hi
      · simp [Ticket.Consistent]
    | waiting | removing | counting | failed | serving | finished =>
      simp [handlerStep, hh] at h
  | done now =>
    simp only [handlerStep, Option.ite_none_right_eq_some, Option.some.injEq, Prod.mk.injEq] at h
    obtain ⟨hh, rfl, rfl⟩ := h
    have hclosed : tk.slot = .closed := hcons (Or.inl hh)
    refine ⟨fun k => ?_, List.Sublist.refl _, fun hi => ?_, fun _ => hclosed, rfl⟩
    · cases k <;>
        simp [Ticket.share, Ticket.popped, Ticket.countedAs, hh, hclosed, Queue.counter,
          Queue.done, hslot hh]
    · simpa [Ticket.InQueue, hh] using hqueue hi

/-- One ticket changes: the invariant is kept if the counters follow its shares and the
waiting list and the dispatcher still know the tickets they name. -/
theorem Inv.set {s : DispatchSystem} (hs : s.Inv) {i : ℕ} {tk tk' : Ticket} {q : Queue}
    {d : Option (ℕ × ℤ)} {cancels : List ℕ} (hi : s.tickets[i]? = some tk)
    (hledger : ∀ k, q.counter k + tk.share k = s.queue.counter k + tk'.share k)
    (hwaiting : q.waiting.Sublist s.queue.waiting) (hqueue : i ∈ q.waiting → tk'.InQueue)
    (hcons : tk'.Consistent)
    (hd : d = none ∨ (d = s.dispatcher ∧ tk'.slot = tk.slot) ∨
      ∃ now, d = some (i, now) ∧ tk'.slot = .popped) :
    Inv ⟨q, s.tickets.set i tk', d, cancels⟩ where
  nodup := hwaiting.nodup hs.nodup
  waiting := by
    intro j hj
    by_cases hij : i = j
    · subst hij
      exact ⟨tk', getElem?_set_self hi tk', hqueue hj⟩
    · obtain ⟨u, hu, hin⟩ := hs.waiting j (hwaiting.subset hj)
      exact ⟨u, by simpa [List.getElem?_set_ne hij] using hu, hin⟩
  consistent := by
    intro u hu
    rcases List.mem_or_eq_of_mem_set hu with hu | rfl
    · exact hs.consistent u hu
    · exact hcons
  dispatcher := by
    intro j now hj
    rcases hd with rfl | ⟨rfl, hslot⟩ | ⟨now', rfl, hslot⟩
    · cases hj
    · obtain ⟨u, hu, hpopped⟩ := hs.dispatcher j now hj
      by_cases hij : i = j
      · subst hij
        rw [hi, Option.some.injEq] at hu
        subst hu
        exact ⟨tk', getElem?_set_self hi tk', hslot.trans hpopped⟩
      · exact ⟨u, by simpa [List.getElem?_set_ne hij] using hu, hpopped⟩
    · obtain ⟨rfl, -⟩ : i = j ∧ now' = now := by simpa using hj
      exact ⟨tk', getElem?_set_self hi tk', hslot⟩
  ledger := hs.ledger.set hi hledger

/-- No ticket changes: the invariant is kept if the counters stay and no ticket joins the
waiting list. -/
theorem Inv.requeue {s : DispatchSystem} (hs : s.Inv) {q : Queue} {cancels : List ℕ}
    (hcounter : ∀ k, q.counter k = s.queue.counter k)
    (hwaiting : q.waiting.Sublist s.queue.waiting) :
    Inv ⟨q, s.tickets, s.dispatcher, cancels⟩ where
  nodup := hwaiting.nodup hs.nodup
  waiting := fun i hi => hs.waiting i (hwaiting.subset hi)
  consistent := hs.consistent
  dispatcher := hs.dispatcher
  ledger := fun k => (hcounter k).trans (hs.ledger k)

/-- A granted admission adds a ticket at the end of the waiting list. -/
theorem Inv.admission {s : DispatchSystem} (hs : s.Inv) {q : Queue} {now : ℤ}
    {gate : Option QueueError}
    (hq : s.queue.admitTicket now gate s.tickets.length = (q, none)) :
    Inv { s with queue := q, tickets := s.tickets ++ [newTicket now] } := by
  obtain ⟨-, -, -, rfl⟩ := Queue.admitTicket_eq_none hq
  have hnew : s.tickets.length ∉ s.queue.waiting := by
    intro hmem
    obtain ⟨tk, htk, -⟩ := hs.waiting _ hmem
    simp at htk
  have hold {i : ℕ} {tk : Ticket} (h : s.tickets[i]? = some tk) :
      (s.tickets ++ [newTicket now])[i]? = some tk := by
    rw [List.getElem?_append_left (List.getElem?_eq_some_iff.mp h).1, h]
  refine ⟨?_, ?_, ?_, ?_, ?_⟩
  · exact List.nodup_append.mpr ⟨hs.nodup, List.nodup_singleton _, by
      intro i hi j hj hij
      rw [List.mem_singleton.mp hj] at hij
      exact hnew (hij ▸ hi)⟩
  · intro i hi
    rcases List.mem_append.mp hi with hi | hi
    · obtain ⟨tk, htk, hin⟩ := hs.waiting i hi
      exact ⟨tk, hold htk, hin⟩
    · rw [List.mem_singleton.mp hi]
      exact ⟨newTicket now, List.getElem?_concat_length, rfl, Or.inl rfl⟩
  · intro tk htk
    rcases List.mem_append.mp htk with htk | htk
    · exact hs.consistent tk htk
    · rw [List.mem_singleton.mp htk]
      simp [Ticket.Consistent, newTicket]
  · intro i now' hd
    obtain ⟨tk, htk, hpopped⟩ := hs.dispatcher i now' hd
    exact ⟨tk, hold htk, hpopped⟩
  · refine hs.ledger.concat fun k => ?_
    cases k <;> simp [Queue.counter, Ticket.share, Ticket.popped, Ticket.countedAs, newTicket]

/-- A serving handler holds one of the counted slots. -/
theorem Inv.inflight_pos {s : DispatchSystem} (hs : s.Inv) {tk : Ticket} (htk : tk ∈ s.tickets)
    (hserving : tk.handler = .serving) : 0 < s.queue.inflight := by
  have hclosed := hs.consistent tk htk (Or.inl hserving)
  have hcount : s.queue.inflight = total (Ticket.share .inflight) s.tickets := hs.ledger .inflight
  have hne : total (Ticket.share .inflight) s.tickets ≠ 0 := by
    intro hzero
    have hshare := (total_eq_zero_iff _ _).mp hzero tk htk
    simp [Ticket.share, Ticket.popped, hclosed, hserving] at hshare
  omega

/-- Every step of every party keeps the invariant. -/
theorem Inv.step {s t : DispatchSystem} {a : DispatchAction} (hs : s.Inv)
    (h : s.step a = some t) : t.Inv := by
  rcases step_cases h with ⟨now, gate, q, e, -, hq, rfl⟩ | ⟨now, gate, q, -, hq, rfl⟩ |
    ⟨i, b, tk, q, tk', -, hi, hb, rfl⟩ | ⟨now, -, -, -, rfl⟩ | ⟨now, i, q, -, -, hq, rfl⟩ |
    ⟨i, now, -, hd, rfl⟩ | ⟨-, rfl⟩ | ⟨i, cancels, -, -, rfl⟩
  · obtain ⟨rejected, rfl⟩ := Queue.admitTicket_eq_some hq
    exact hs.requeue (fun k => by cases k <;> rfl) (List.Sublist.refl _)
  · exact hs.admission hq
  · have hmem : tk ∈ s.tickets := List.mem_of_getElem? hi
    obtain ⟨hledger, hwaiting, hqueue, hcons, hslot⟩ := handlerStep_spec hb hs.nodup
      (fun hin => by
        obtain ⟨u, hu, huq⟩ := hs.waiting i hin
        rw [hi, Option.some.injEq] at hu
        exact hu ▸ huq)
      (hs.consistent tk hmem) (hs.inflight_pos hmem)
    exact hs.set hi hledger hwaiting hqueue hcons (Or.inr (Or.inl ⟨rfl, hslot⟩))
  · exact hs
  · obtain ⟨waiting, samples, hw, -, rfl⟩ := Queue.drain_eq_some hq
    obtain ⟨tk, hi, hfree, hhandler⟩ := hs.waiting i (by rw [hw]; exact List.mem_cons_self)
    have hnodup := hs.nodup
    rw [hw, List.nodup_cons] at hnodup
    have hne : tk.handler ≠ .finished := by
      rcases hhandler with h | ⟨why, h⟩ <;> simp [h]
    rw [modify_eq_set hi]
    refine hs.set hi (fun k => ?_) (by rw [hw]; exact List.sublist_cons_self _ _)
      (fun hin => absurd hin hnodup.1) ?_ (Or.inr (Or.inr ⟨now, rfl, rfl⟩))
    · cases k <;> simp [Queue.counter, Ticket.share, Ticket.popped, Ticket.countedAs, hfree, hne]
    · rcases hhandler with h | ⟨why, h⟩ <;> simp [Ticket.Consistent, h]
  · obtain ⟨tk, hi, hpopped⟩ := hs.dispatcher i now hd
    rw [modify_eq_set hi]
    refine hs.set hi (fun k => ?_) (List.Sublist.refl _) (fun hin => ?_) (fun _ => rfl) (Or.inl rfl)
    · cases k <;> simp [Ticket.share, Ticket.popped, Ticket.countedAs, hpopped]
    · obtain ⟨u, hu, hfree, -⟩ := hs.waiting i hin
      rw [hi, Option.some.injEq] at hu
      rw [← hu, hpopped] at hfree
      cases hfree
  · exact hs.requeue (fun k => by cases k <;> rfl) (List.nil_sublist _)
  · cases hi : s.tickets[i]? with
    | none =>
      have hsame : s.tickets.modify i (fun tk => { tk with ctxDone := true }) = s.tickets := by
        rw [List.modify_eq_set_getElem?, hi]
        rfl
      rw [hsame]
      exact hs.requeue (fun k => rfl) (List.Sublist.refl _)
    | some tk =>
      rw [modify_eq_set hi]
      refine hs.set hi (fun k => by cases k <;> rfl) (List.Sublist.refl _) (fun hin => ?_)
        (hs.consistent tk (List.mem_of_getElem? hi)) (Or.inr (Or.inl ⟨rfl, rfl⟩))
      obtain ⟨u, hu, hin⟩ := hs.waiting i hin
      rw [hi, Option.some.injEq] at hu
      exact hu ▸ hin

/-! ### Conservation -/

/-- The number of tickets that were popped and whose handler has not finished. -/
def outstanding (s : DispatchSystem) : ℕ := s.tickets.countP fun tk => tk.popped && !tk.returned

/-- All handlers have returned. -/
def AllReturned (s : DispatchSystem) : Prop := ∀ tk ∈ s.tickets, tk.returned = true

/-- The in-flight counter is exact; once all handlers have returned it is zero, and every
ticket is counted in exactly one of the dispatched, timed-out and cancelled counters. -/
structure Conserved (s : DispatchSystem) : Prop where
  inflight : s.queue.inflight = s.outstanding
  drained : s.AllReturned → s.queue.inflight = 0
  counted : s.AllReturned → ∀ tk ∈ s.tickets,
    tk.share .dispatched + tk.share .timedOut + tk.share .cancelled = 1
  counters : s.AllReturned →
    s.queue.arrivals = s.queue.dispatched + s.queue.timedOut + s.queue.cancelled

/-- The in-flight counter exceeds the outstanding tickets by the leaked ones. -/
theorem Inv.inflight_eq {s : DispatchSystem} (hs : s.Inv) :
    s.queue.inflight = s.outstanding + s.tickets.countP Ticket.leaked := by
  have hsplit : total (Ticket.share .inflight) s.tickets =
      total (fun tk => if tk.popped && !tk.returned then 1 else 0) s.tickets +
        total (fun tk => if tk.leaked then 1 else 0) s.tickets := by
    refine total_add fun tk _ => ?_
    cases hh : tk.handler <;> cases hp : tk.popped <;>
      simp [Ticket.share, Ticket.returned, Ticket.leaked, hh, hp]
  rw [total_indicator, total_indicator] at hsplit
  have hledger : s.queue.inflight = total (Ticket.share .inflight) s.tickets := hs.ledger .inflight
  rw [hledger, hsplit, outstanding]
  push_cast
  rfl

/-- A consistent ticket that has returned without leaking is counted exactly once. -/
theorem Ticket.counted_once {tk : Ticket} (hcons : tk.Consistent) (hreturned : tk.returned = true)
    (hleak : tk.leaked = false) :
    tk.share .dispatched + tk.share .timedOut + tk.share .cancelled = 1 := by
  cases hh : tk.handler with
  | finished =>
    have hclosed := hcons (Or.inr hh)
    simp [Ticket.share, Ticket.popped, Ticket.countedAs, hh, hclosed]
  | failed why =>
    have hpopped : tk.popped = false := by simpa [Ticket.leaked, hh] using hleak
    cases why <;> simp [Ticket.share, Ticket.countedAs, hh, hpopped]
  | waiting | removing | counting | returning | serving =>
    simp [Ticket.returned, hh] at hreturned

/-- Slots are conserved exactly in the states without a leaked ticket. -/
theorem Inv.conserved_iff {s : DispatchSystem} (hs : s.Inv) :
    s.Conserved ↔ ∀ tk ∈ s.tickets, tk.leaked = false := by
  have hexact := hs.inflight_eq
  constructor
  · intro hc tk htk
    have hzero : s.tickets.countP Ticket.leaked = 0 := by
      have hinflight := hc.inflight
      omega
    exact Bool.eq_false_iff.mpr (List.countP_eq_zero.mp hzero tk htk)
  · intro hleak
    have hzero : s.tickets.countP Ticket.leaked = 0 :=
      List.countP_eq_zero.mpr fun tk htk => by simp [hleak tk htk]
    have hinflight : s.queue.inflight = s.outstanding := by omega
    have honce (hall : s.AllReturned) (tk : Ticket) (htk : tk ∈ s.tickets) :
        tk.share .dispatched + tk.share .timedOut + tk.share .cancelled = 1 :=
      Ticket.counted_once (hs.consistent tk htk) (hall tk htk) (hleak tk htk)
    refine ⟨hinflight, fun hall => ?_, honce, fun hall => ?_⟩
    · have hnone : s.outstanding = 0 :=
        List.countP_eq_zero.mpr fun tk htk => by simp [hall tk htk]
      omega
    · have hsum : total (Ticket.share .arrivals) s.tickets =
          total (Ticket.share .dispatched) s.tickets +
            total (fun tk => tk.share .timedOut + tk.share .cancelled) s.tickets :=
        total_add fun tk htk => by
          have h := honce hall tk htk
          simp only [Ticket.share] at h ⊢
          omega
      have hsum' : total (fun tk => tk.share .timedOut + tk.share .cancelled) s.tickets =
          total (Ticket.share .timedOut) s.tickets + total (Ticket.share .cancelled) s.tickets :=
        total_add fun tk _ => rfl
      have ha : (s.queue.arrivals : ℤ) = total (Ticket.share .arrivals) s.tickets :=
        hs.ledger .arrivals
      have hd : (s.queue.dispatched : ℤ) = total (Ticket.share .dispatched) s.tickets :=
        hs.ledger .dispatched
      have ht : (s.queue.timedOut : ℤ) = total (Ticket.share .timedOut) s.tickets :=
        hs.ledger .timedOut
      have hc : (s.queue.cancelled : ℤ) = total (Ticket.share .cancelled) s.tickets :=
        hs.ledger .cancelled
      omega

/-- A wait that returns an error has not been popped; the other steps are free. -/
def ReturnsUnpopped (s : DispatchSystem) : DispatchAction → Prop
  | .handler i .returnExpired => ∀ tk, s.tickets[i]? = some tk → tk.popped = false
  | _ => True

/-- Only the return of an expired wait can leak a slot. -/
theorem handlerStep_leaked {q q' : Queue} {i : ℕ} {tk tk' : Ticket} {b : HandlerStep}
    (h : handlerStep q i tk b = some (q', tk')) (hleak : tk.leaked = false) :
    tk'.leaked = false ↔ (b = .returnExpired → tk.popped = false) := by
  cases b with
  | returnExpired =>
    cases hh : tk.handler with
    | returning why =>
      simp only [handlerStep, hh, Option.some.injEq, Prod.mk.injEq] at h
      obtain ⟨rfl, rfl⟩ := h
      simp [Ticket.leaked, Ticket.popped]
    | waiting | removing | counting | failed | serving | finished =>
      simp [handlerStep, hh] at h
  | cancelCtx =>
    simp only [handlerStep, Option.some.injEq, Prod.mk.injEq] at h
    obtain ⟨rfl, rfl⟩ := h
    exact iff_of_true hleak nofun
  | timerFires =>
    simp only [handlerStep, Option.ite_none_right_eq_some, Option.some.injEq, Prod.mk.injEq] at h
    obtain ⟨-, rfl, rfl⟩ := h
    exact iff_of_true hleak nofun
  | selectDispatch | selectCancel | selectTimeout | done =>
    simp only [handlerStep, Option.ite_none_right_eq_some, Option.some.injEq, Prod.mk.injEq] at h
    obtain ⟨-, rfl, rfl⟩ := h
    exact iff_of_true (by simp [Ticket.leaked]) nofun
  | removeWaiting | countExpired =>
    cases hh : tk.handler <;> simp only [handlerStep, hh, Option.some.injEq, Prod.mk.injEq,
      reduceCtorEq] at h
    obtain ⟨rfl, rfl⟩ := h
    exact iff_of_true (by simp [Ticket.leaked]) nofun

/-- From a state without leaks, a step leads to one without leaks exactly if no popped
wait returns. -/
theorem Inv.step_leaked_iff {s t : DispatchSystem} {a : DispatchAction} (hs : s.Inv)
    (hleak : ∀ tk ∈ s.tickets, tk.leaked = false) (h : s.step a = some t) :
    (∀ tk ∈ t.tickets, tk.leaked = false) ↔ s.ReturnsUnpopped a := by
  rcases step_cases h with ⟨now, gate, q, e, rfl, -, rfl⟩ | ⟨now, gate, q, rfl, -, rfl⟩ |
    ⟨i, b, tk, q, tk', rfl, hi, hb, rfl⟩ | ⟨now, rfl, -, -, rfl⟩ | ⟨now, i, q, rfl, -, hq, rfl⟩ |
    ⟨i, now, rfl, hd, rfl⟩ | ⟨rfl, rfl⟩ | ⟨i, cancels, rfl, -, rfl⟩
  · exact iff_of_true hleak trivial
  · refine iff_of_true (fun tk htk => ?_) trivial
    rcases List.mem_append.mp htk with htk | htk
    · exact hleak tk htk
    · rw [List.mem_singleton.mp htk]
      rfl
  · rw [forall_mem_set_iff hi hleak, handlerStep_leaked hb (hleak tk (List.mem_of_getElem? hi))]
    cases b <;> simp [ReturnsUnpopped, hi]
  · exact iff_of_true hleak trivial
  · obtain ⟨waiting, samples, hw, -, rfl⟩ := Queue.drain_eq_some hq
    obtain ⟨tk, hi, -, hhandler⟩ := hs.waiting i (by rw [hw]; exact List.mem_cons_self)
    rw [modify_eq_set hi]
    refine iff_of_true ((forall_mem_set_iff hi hleak).mpr ?_) trivial
    rcases hhandler with h | ⟨why, h⟩ <;> simp [Ticket.leaked, h]
  · obtain ⟨tk, hi, hpopped⟩ := hs.dispatcher i now hd
    rw [modify_eq_set hi]
    refine iff_of_true ((forall_mem_set_iff hi hleak).mpr ?_) trivial
    have hold := hleak tk (List.mem_of_getElem? hi)
    simpa [Ticket.leaked, Ticket.popped, hpopped] using hold
  · exact iff_of_true hleak trivial
  · refine iff_of_true ?_ trivial
    cases hi : s.tickets[i]? with
    | none =>
      rw [List.modify_eq_set_getElem?, hi]
      exact hleak
    | some tk =>
      rw [modify_eq_set hi]
      exact (forall_mem_set_iff hi hleak).mpr (hleak tk (List.mem_of_getElem? hi))

/-- In every interleaving of admissions, waits, dispatches, completions and shutdown, the
in-flight slots are conserved in every state if and only if no wait returns an error
after its ticket was popped. -/
theorem conserved_iff_returnsUnpopped (cfg : QueueConfig) (as : List DispatchAction)
    (h : (exec step (init cfg) as).isSome) :
    Always step Conserved (init cfg) as ↔ StepsMeet step ReturnsUnpopped (init cfg) as := by
  obtain ⟨s, hs⟩ := Option.isSome_iff_exists.mp h
  refine always_iff_stepsMeet (I := Inv) (inv_init cfg) (fun _ _ _ hs ha => hs.step ha)
    ((inv_init cfg).conserved_iff.mpr (by simp [init])) (fun r a t hr hc ha => ?_) hs
  rw [(hr.step ha).conserved_iff]
  exact hr.step_leaked_iff (hr.conserved_iff.mp hc) ha

/-- One request times out, and leaves the waiting list before the dispatcher looks. -/
def timedOutRun : List DispatchAction :=
  [.admission 0 none, .handler 0 .timerFires, .handler 0 .selectTimeout, .handler 0 .removeWaiting,
    .drain 1, .handler 0 .countExpired, .handler 0 .returnExpired]

/-- A wait that leaves the list in time conserves the slots. -/
theorem timedOutRun_conserved :
    (exec step (init defaultQueueConfig) timedOutRun).isSome = true ∧
      Always step Conserved (init defaultQueueConfig) timedOutRun := by
  have hrun : (exec step (init defaultQueueConfig) timedOutRun).isSome = true := by decide
  refine ⟨hrun, (conserved_iff_returnsUnpopped _ _ hrun).mpr ?_⟩
  simp only [timedOutRun, stepsMeet_cons]
  refine ⟨trivial, fun _ h₁ => ⟨trivial, fun _ h₂ => ⟨trivial, fun _ h₃ => ⟨trivial, fun _ h₄ =>
    ⟨trivial, fun _ h₅ => ⟨trivial, fun _ h₆ => ⟨?_, fun _ _ => stepsMeet_nil _ _ _⟩⟩⟩⟩⟩⟩⟩
  cases h₁
  cases h₂
  cases h₃
  cases h₄
  cases h₅
  cases h₆
  rintro tk ⟨⟩
  rfl

/-- One request times out, and the dispatcher pops it before it leaves the waiting list. -/
def poppedRun : List DispatchAction :=
  [.admission 0 none, .handler 0 .timerFires, .handler 0 .selectTimeout, .drain 1, .closeDispatch,
    .handler 0 .removeWaiting, .handler 0 .countExpired, .handler 0 .returnExpired]

/-- After the popped run the only handler has returned, the in-flight counter is one, and
the ticket is counted both as dispatched and as timed out. -/
theorem poppedRun_leaks :
    ((exec step (init defaultQueueConfig) poppedRun).map fun s =>
        (s.tickets.map Ticket.returned, s.queue.inflight, s.queue.arrivals, s.queue.dispatched,
          s.queue.timedOut)) = some ([true], 1, 1, 1, 1) ∧
      ¬ Always step Conserved (init defaultQueueConfig) poppedRun := by
  have hend : ((exec step (init defaultQueueConfig) poppedRun).map fun s =>
        (s.tickets.map Ticket.returned, s.queue.inflight, s.queue.arrivals, s.queue.dispatched,
          s.queue.timedOut)) = some ([true], 1, 1, 1, 1) := by
    decide +kernel
  refine ⟨hend, fun halways => ?_⟩
  obtain ⟨s, hs, hobs⟩ := Option.map_eq_some_iff.mp hend
  simp only [Prod.mk.injEq] at hobs
  have hall : s.AllReturned := by
    intro tk htk
    have hmem : tk.returned ∈ s.tickets.map Ticket.returned := List.mem_map_of_mem htk
    rw [hobs.1] at hmem
    simpa using hmem
  have hzero := (halways poppedRun [] (by simp) s hs).drained hall
  omega

end DispatchSystem

end GpuSidecar.Dataplane
