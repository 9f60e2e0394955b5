import GpuSidecar.Models.Dataplane.Wakeup

/-!
# Quiescence of the queue

What becomes of the requests when no new ones arrive. The handlers, the dispatcher, the wakes
and a shutdown in progress take finitely many steps of their own, whatever their order, and
then rest. At rest the slots in flight are exactly the leaked ones. As long as fewer slots have
leaked than there are, every handler has returned. When all have leaked, whoever still waits
waits for its timer, and the dispatcher never hands out a slot again.
-/

namespace GpuSidecar.Dataplane

open Run Pool

/-- The steps that a handler takes of itself; its timer and its context are not among them. -/
def HandlerStep.own : HandlerStep → Bool
  | .cancelCtx => false
  | .timerFires => false
  | _ => true

/-- The steps that the parties take of themselves: no new request or shutdown, no timer or
cancelled context, and no safety tick. -/
def WakeAction.own : WakeAction → Bool
  | .party (.handler _ b) => b.own
  | .party .closeCancel => true
  | a => a.dispatching

/-- A bound on the steps that a handler still has to take, where `done` counts for the wake that
it leaves to be sent. -/
def Handler.remaining : Handler → ℕ
  | .waiting => 6
  | .serving => 4
  | .removing _ => 3
  | .counting _ => 2
  | .returning _ => 1
  | .failed _ => 0
  | .finished => 0

/-- What the handlers still have to do. -/
def DispatchSystem.remaining (s : DispatchSystem) : ℕ :=
  total (fun tk => tk.handler.remaining) s.tickets

/-- A bound on the steps that all parties still have to take. -/
def WakeSystem.work (s : WakeSystem) : ℕ :=
  s.pending + s.system.remaining + s.system.cancels.length

/-! ### Every step uses up work -/

/-- A handler's own step brings it closer to its end, and takes nobody else off the list. -/
theorem handlerStep_remaining {q q' : Queue} {i : ℕ} {tk tk' : Ticket} {b : HandlerStep}
    (h : handlerStep q i tk b = some (q', tk')) (hb : b.own = true) (s : DispatchSystem) :
    tk'.handler.remaining + 1 + 3 * s.wakes (.handler i b) ≤ tk.handler.remaining ∧
      q'.waiting.length ≤ q.waiting.length := by
  cases b with
  | cancelCtx => cases hb
  | timerFires => cases hb
  | selectDispatch | selectCancel | selectTimeout =>
    simp only [handlerStep, Option.ite_none_right_eq_some, Option.some.injEq, Prod.mk.injEq] at h
    obtain ⟨⟨hw, -⟩, rfl, rfl⟩ := h
    simp [Handler.remaining, DispatchSystem.wakes, hw]
  | removeWaiting =>
    cases hh : tk.handler <;> simp only [handlerStep, hh, Option.some.injEq, Prod.mk.injEq,
      reduceCtorEq] at h
    obtain ⟨rfl, rfl⟩ := h
    exact ⟨le_rfl, List.length_erase_le⟩
  | countExpired =>
    cases hh : tk.handler <;> simp only [handlerStep, hh, Option.some.injEq, Prod.mk.injEq,
      reduceCtorEq] at h
    obtain ⟨rfl, rfl⟩ := h
    rename_i why
    cases why <;> exact ⟨le_rfl, le_rfl⟩
  | returnExpired =>
    cases hh : tk.handler <;> simp only [handlerStep, hh, Option.some.injEq, Prod.mk.injEq,
      reduceCtorEq] at h
    obtain ⟨rfl, rfl⟩ := h
    exact ⟨le_rfl, le_rfl⟩
  | done now =>
    simp only [handlerStep, Option.ite_none_right_eq_some, Option.some.injEq, Prod.mk.injEq] at h
    obtain ⟨hh, rfl, rfl⟩ := h
    rw [hh]
    exact ⟨le_rfl, le_rfl⟩

/-- A change of a ticket that leaves its handler where it is leaves the same work. -/
theorem remaining_modify (tickets : List Ticket) (i : ℕ) {f : Ticket → Ticket}
    (hf : ∀ tk, (f tk).handler = tk.handler) :
    total (fun tk => tk.handler.remaining) (tickets.modify i f) =
      total (fun tk => tk.handler.remaining) tickets := by
  cases hi : tickets[i]? with
  | none =>
    rw [List.modify_eq_set_getElem?, hi]
    rfl
  | some tk =>
    have hset := total_set_add (fun tk => tk.handler.remaining) hi (f tk)
    rw [modify_eq_set hi]
    simp only [hf] at hset
    omega

namespace WakeSystem

variable {s t : WakeSystem} {a : WakeAction}

/-- The parties' own steps use up their work. -/
theorem work_step (ha : a.own = true) (h : s.step a = some t) : t.work + 1 ≤ s.work := by
  rcases step_cases h with ⟨b, r, rfl, -, hr, rfl⟩ | ⟨owed, -, ho, rfl⟩ | ⟨-, hl, hsig, rfl⟩ |
    ⟨rfl, -⟩ | ⟨rfl, -⟩ | ⟨now, -, hl, -, -, rfl⟩ | ⟨now, i, q, r, -, hl, hd, hq, hr, rfl⟩ |
    ⟨r, -, hl, hr, rfl⟩
  · rcases DispatchSystem.step_cases hr with ⟨_, _, _, _, rfl, -⟩ | ⟨_, _, _, rfl, -⟩ |
      ⟨i, b, tk, q, tk', rfl, hi, hb, rfl⟩ | ⟨_, rfl, -⟩ | ⟨_, _, _, rfl, -⟩ | ⟨_, _, rfl, -⟩ |
      ⟨rfl, -⟩ | ⟨i, cancels, rfl, hc, rfl⟩
    · cases ha
    · cases ha
    · -- a handler moves on, and owes a wake if it was its last step
      obtain ⟨hremaining, hwaiting⟩ := handlerStep_remaining hb ha s.system
      have hset := total_set_add (fun tk => tk.handler.remaining) hi tk'
      simp only [work, pending, DispatchSystem.remaining] at hset ⊢
      omega
    · cases ha
    · cases ha
    · cases ha
    · cases ha
    · have hsame := remaining_modify s.system.tickets i
        (f := fun tk => { tk with ctxDone := true }) fun _ => rfl
      simp only [work, pending, DispatchSystem.remaining, DispatchSystem.wakes, hc, hsame,
        List.length_cons]
      omega
  · have hbit : s.signal.toNat ≤ 1 := Bool.toNat_le s.signal
    simp only [work, pending, ho, Bool.toNat_true]
    omega
  · simp only [work, pending, hl, hsig, Bool.toNat_true, Bool.toNat_false, reduceCtorEq, if_true,
      if_false]
    omega
  · cases ha
  · cases ha
  · simp only [work, pending, hl, reduceCtorEq, if_true, if_false]
    omega
  · simp only [DispatchSystem.step, hd, hq, Option.some.injEq] at hr
    subst hr
    obtain ⟨waiting, samples, hw, -, rfl⟩ := Queue.drain_eq_some hq
    have hsame := remaining_modify s.system.tickets i
      (f := fun tk => { tk with slot := .popped }) fun _ => rfl
    simp only [work, pending, DispatchSystem.remaining, hsame, hw, hd, List.length_cons,
      Option.toList_some, Option.toList_none, List.length_nil]
    omega
  · obtain ⟨i, now, hd, rfl⟩ := DispatchSystem.closeDispatch_eq_some hr
    have hsame := remaining_modify s.system.tickets i
      (f := fun tk => { tk with slot := .closed, dispatchMono := now }) fun _ => rfl
    simp only [work, pending, DispatchSystem.remaining, hsame, hd, Option.toList_some,
      Option.toList_none, List.length_cons, List.length_nil]
    omega

/-- A run of own steps is no longer than the work, and keeps the dispatcher running. -/
theorem length_le_work {bs : List WakeAction} (h : exec step s bs = some t)
    (hbs : ∀ b ∈ bs, b.own = true) :
    bs.length + t.work ≤ s.work ∧ (s.loop ≠ .stopped → t.loop ≠ .stopped) := by
  refine exec_induction (P := fun bs t => (∀ b ∈ bs, b.own = true) →
    bs.length + t.work ≤ s.work ∧ (s.loop ≠ .stopped → t.loop ≠ .stopped)) ?_ ?_ h hbs
  · intro _
    exact ⟨by simp, id⟩
  · intro bs t b u _ ih hb hall
    obtain ⟨hlength, hlive⟩ := ih fun c hc => hall c (List.mem_append_left _ hc)
    have hown : b.own = true := hall b (by simp)
    refine ⟨?_, fun hs hstopped => ?_⟩
    · have := work_step hown hb
      rw [List.length_append, List.length_singleton]
      omega
    · rcases step_cases hb with ⟨_, _, -, -, -, rfl⟩ | ⟨_, -, -, rfl⟩ | ⟨-, -, -, rfl⟩ | ⟨rfl, -⟩ |
        ⟨rfl, -⟩ | ⟨_, -, -, -, -, rfl⟩ | ⟨_, _, _, _, -, -, -, -, -, rfl⟩ | ⟨_, -, -, -, rfl⟩
      · exact hlive hs hstopped
      · exact hlive hs hstopped
      · cases hstopped
      · cases hown
      · cases hown
      · cases hstopped
      · exact hlive hs hstopped
      · exact hlive hs hstopped

end WakeSystem

/-! ### Where a waiting ticket is -/

namespace DispatchSystem

/-- Where the tickets are: a popped one is in the dispatcher's hands, and one that waits for the
dispatcher is on the list, unless a shutdown has taken it off to cancel it. -/
structure Placed (s : DispatchSystem) : Prop where
  popped : ∀ i tk, s.tickets[i]? = some tk → tk.slot = .popped → ∃ now, s.dispatcher = some (i, now)
  waiting : ∀ i tk, s.tickets[i]? = some tk → tk.handler = .waiting → tk.slot = .free →
    i ∈ s.queue.waiting ∨ i ∈ s.cancels ∨ tk.ctxDone = true

theorem placed_init (cfg : QueueConfig) : (init cfg).Placed where
  popped i tk h := by simp [init] at h
  waiting i tk h := by simp [init] at h

/-- A handler's step takes at most its own ticket off the list, and none that still waits. -/
theorem handlerStep_placed {q q' : Queue} {i : ℕ} {tk tk' : Ticket} {b : HandlerStep}
    (h : handlerStep q i tk b = some (q', tk')) :
    tk'.slot = tk.slot ∧ (∀ j ∈ q.waiting, j ≠ i → j ∈ q'.waiting) ∧
      (tk'.handler = .waiting → tk.handler = .waiting ∧ q'.waiting = q.waiting ∧
        (tk.ctxDone = true → tk'.ctxDone = true)) := by
  cases b with
  | cancelCtx =>
    simp only [handlerStep, Option.some.injEq, Prod.mk.injEq] at h
    obtain ⟨rfl, rfl⟩ := h
    exact ⟨rfl, fun _ hj _ => hj, fun hw => ⟨hw, rfl, fun _ => rfl⟩⟩
  | timerFires =>
    simp only [handlerStep, Option.ite_none_right_eq_some, Option.some.injEq, Prod.mk.injEq] at h
    obtain ⟨-, rfl, rfl⟩ := h
    exact ⟨rfl, fun _ hj _ => hj, fun hw => ⟨hw, rfl, id⟩⟩
  | selectDispatch | selectCancel | selectTimeout | done =>
    simp only [handlerStep, Option.ite_none_right_eq_some, Option.some.injEq, Prod.mk.injEq] at h
    obtain ⟨-, rfl, rfl⟩ := h
    exact ⟨rfl, fun _ hj _ => hj, fun hw => by cases hw⟩
  | removeWaiting =>
    cases hh : tk.handler <;> simp only [handlerStep, hh, Option.some.injEq, Prod.mk.injEq,
      reduceCtorEq] at h
    obtain ⟨rfl, rfl⟩ := h
    exact ⟨rfl, fun j hj hne => (List.mem_erase_of_ne hne).mpr hj, fun hw => by cases hw⟩
  | countExpired =>
    cases hh : tk.handler <;> simp only [handlerStep, hh, Option.some.injEq, Prod.mk.injEq,
      reduceCtorEq] at h
    obtain ⟨rfl, rfl⟩ := h
    rename_i why
    cases why <;> exact ⟨rfl, fun _ hj _ => hj, fun hw => by cases hw⟩
  | returnExpired =>
    cases hh : tk.handler <;> simp only [handlerStep, hh, Option.some.injEq, Prod.mk.injEq,
      reduceCtorEq] at h
    obtain ⟨rfl, rfl⟩ := h
    exact ⟨rfl, fun _ hj _ => hj, fun hw => by cases hw⟩

/-- A handler neither reconfigures the queue nor dispatches. -/
theorem handlerStep_dispatched {q q' : Queue} {i : ℕ} {tk tk' : Ticket} {b : HandlerStep}
    (h : handlerStep q i tk b = some (q', tk')) :
    q'.cfg = q.cfg ∧ q'.dispatched = q.dispatched := by
  cases b with
  | cancelCtx =>
    simp only [handlerStep, Option.some.injEq, Prod.mk.injEq] at h
    obtain ⟨rfl, -⟩ := h
    exact ⟨rfl, rfl⟩
  | timerFires | selectDispatch | selectCancel | selectTimeout | done =>
    simp only [handlerStep, Option.ite_none_right_eq_some, Option.some.injEq, Prod.mk.injEq] at h
    obtain ⟨-, rfl, -⟩ := h
    exact ⟨rfl, rfl⟩
  | removeWaiting | returnExpired =>
    cases hh : tk.handler <;> simp only [handlerStep, hh, Option.some.injEq, Prod.mk.injEq,
      reduceCtorEq] at h
    obtain ⟨rfl, -⟩ := h
    exact ⟨rfl, rfl⟩
  | countExpired =>
    cases hh : tk.handler <;> simp only [handlerStep, hh, Option.some.injEq, Prod.mk.injEq,
      reduceCtorEq] at h
    obtain ⟨rfl, -⟩ := h
    rename_i why
    cases why <;> exact ⟨rfl, rfl⟩

theorem Placed.step {s t : DispatchSystem} {a : DispatchAction} (hs : s.Placed)
    (h : s.step a = some t) : t.Placed := by
  rcases step_cases h with ⟨now, gate, q, e, -, hq, rfl⟩ | ⟨now, gate, q, -, hq, rfl⟩ |
    ⟨i, b, tk, q, tk', -, hi, hb, rfl⟩ | ⟨now, -, -, -, rfl⟩ | ⟨now, i, q, -, hd, hq, rfl⟩ |
    ⟨i, now, -, hd, rfl⟩ | ⟨-, rfl⟩ | ⟨i, cancels, -, hc, rfl⟩
  · obtain ⟨rejected, rfl⟩ := Queue.admitTicket_eq_some hq
    exact ⟨hs.popped, hs.waiting⟩
  · obtain ⟨-, -, -, rfl⟩ := Queue.admitTicket_eq_none hq
    have hcases : ∀ j tk, (s.tickets ++ [newTicket now])[j]? = some tk →
        s.tickets[j]? = some tk ∨ (j = s.tickets.length ∧ tk = newTicket now) := by
      intro j tk hj
      rcases lt_or_ge j s.tickets.length with hlt | hge
      · rw [List.getElem?_append_left hlt] at hj
        exact .inl hj
      · rw [List.getElem?_append_right hge, List.getElem?_singleton] at hj
        split at hj
        · cases hj
          exact .inr ⟨by omega, rfl⟩
        · cases hj
    refine ⟨fun j tk hj hslot => ?_, fun j tk hj hw hfree => ?_⟩
    · rcases hcases j tk hj with hj | ⟨-, rfl⟩
      · exact hs.popped j tk hj hslot
      · cases hslot
    · rcases hcases j tk hj with hj | ⟨rfl, rfl⟩
      · exact (hs.waiting j tk hj hw hfree).imp_left (List.mem_append_left _)
      · exact .inl (List.mem_append_right _ (List.mem_singleton.mpr rfl))
  · obtain ⟨hslot, hothers, hwaits⟩ := handlerStep_placed hb
    refine ⟨fun j u hj hpopped => ?_, fun j u hj hw hfree => ?_⟩
    · by_cases hij : i = j
      · subst hij
        rw [getElem?_set_self hi, Option.some.injEq] at hj
        subst hj
        exact hs.popped i tk hi (hslot ▸ hpopped)
      · rw [List.getElem?_set_ne hij] at hj
        exact hs.popped j u hj hpopped
    · by_cases hij : i = j
      · subst hij
        rw [getElem?_set_self hi, Option.some.injEq] at hj
        subst hj
        obtain ⟨hwaiting, hlist, hctx⟩ := hwaits hw
        rcases hs.waiting i tk hi hwaiting (hslot ▸ hfree) with hin | hin | hdone
        · exact .inl (hlist ▸ hin)
        · exact .inr (.inl hin)
        · exact .inr (.inr (hctx hdone))
      · rw [List.getElem?_set_ne hij] at hj
        exact (hs.waiting j u hj hw hfree).imp_left fun hin => hothers j hin (Ne.symm hij)
  · exact hs
  · obtain ⟨waiting, samples, hw, -, rfl⟩ := Queue.drain_eq_some hq
    refine ⟨fun j u hj hpopped => ?_, fun j u hj hwaits hfree => ?_⟩
    · by_cases hij : i = j
      · exact ⟨now, by rw [hij]⟩
      · rw [List.getElem?_modify_ne _ _ hij] at hj
        obtain ⟨now', hd'⟩ := hs.popped j u hj hpopped
        rw [hd] at hd'
        cases hd'
    · by_cases hij : i = j
      · subst hij
        rw [List.getElem?_modify_eq, Option.map_eq_map, Option.map_eq_some_iff] at hj
        obtain ⟨tk, -, rfl⟩ := hj
        cases hfree
      · rw [List.getElem?_modify_ne _ _ hij] at hj
        rcases hs.waiting j u hj hwaits hfree with hin | hin
        · rw [hw] at hin
          exact .inl ((List.mem_cons.mp hin).resolve_left (Ne.symm hij))
        · exact .inr hin
  · refine ⟨fun j u hj hpopped => ?_, fun j u hj hwaits hfree => ?_⟩
    · by_cases hij : i = j
      · subst hij
        rw [List.getElem?_modify_eq, Option.map_eq_map, Option.map_eq_some_iff] at hj
        obtain ⟨tk, -, rfl⟩ := hj
        cases hpopped
      · rw [List.getElem?_modify_ne _ _ hij] at hj
        obtain ⟨now', hd'⟩ := hs.popped j u hj hpopped
        rw [hd, Option.some.injEq, Prod.mk.injEq] at hd'
        exact absurd hd'.1 hij
    · by_cases hij : i = j
      · subst hij
        rw [List.getElem?_modify_eq, Option.map_eq_map, Option.map_eq_some_iff] at hj
        obtain ⟨tk, -, rfl⟩ := hj
        cases hfree
      · rw [List.getElem?_modify_ne _ _ hij] at hj
        exact hs.waiting j u hj hwaits hfree
  · refine ⟨hs.popped, fun j u hj hwaits hfree => ?_⟩
    rcases hs.waiting j u hj hwaits hfree with hin | hin | hdone
    · exact .inr (.inl (List.mem_append_right _ hin))
    · exact .inr (.inl (List.mem_append_left _ hin))
    · exact .inr (.inr hdone)
  · refine ⟨fun j u hj hpopped => ?_, fun j u hj hwaits hfree => ?_⟩
    · rw [List.getElem?_modify, Option.map_eq_map, Option.map_eq_some_iff] at hj
      obtain ⟨tk, htk, rfl⟩ := hj
      refine hs.popped j tk htk ?_
      split at hpopped <;> exact hpopped
    · rw [List.getElem?_modify, Option.map_eq_map, Option.map_eq_some_iff] at hj
      obtain ⟨tk, htk, rfl⟩ := hj
      by_cases hij : i = j
      · rw [if_pos hij]
        exact .inr (.inr rfl)
      · rw [if_neg hij] at hwaits hfree ⊢
        rcases hs.waiting j tk htk hwaits hfree with hin | hin | hdone
        · exact .inl hin
        · rw [hc] at hin
          exact .inr (.inl ((List.mem_cons.mp hin).resolve_left (Ne.symm hij)))
        · exact .inr (.inr hdone)

end DispatchSystem

/-! ### At rest -/

namespace WakeSystem

variable {s t : WakeSystem}

/-- No party has a step of its own to take. -/
def AtRest (s : WakeSystem) : Prop := ∀ a : WakeAction, a.own = true → s.step a = none

theorem AtRest.settled (hs : s.AtRest) : s.Settled := by
  intro a ha
  refine hs a ?_
  cases a with
  | party b => cases ha
  | wake | receive | tick | ctxDone | drain | closeDispatch => exact ha

theorem AtRest.cancels (hs : s.AtRest) : s.system.cancels = [] := by
  have hnone := hs (.party .closeCancel) rfl
  cases hc : s.system.cancels with
  | nil => rfl
  | cons i cancels =>
    simp [step, DispatchAction.ofDispatcher, DispatchSystem.step, hc] at hnone

theorem AtRest.handlerStep (hs : s.AtRest) {i : ℕ} {tk : Ticket}
    (hi : s.system.tickets[i]? = some tk) {b : HandlerStep} (hb : b.own = true) :
    handlerStep s.system.queue i tk b = none := by
  have hnone := hs (.party (.handler i b)) hb
  simp only [step, DispatchAction.ofDispatcher, Bool.false_eq_true, if_false,
    Option.map_eq_none_iff, DispatchSystem.step, hi] at hnone
  rcases hstep : Dataplane.handlerStep s.system.queue i tk b with _ | ⟨q, tk'⟩
  · rfl
  · simp [hstep] at hnone

/-- A handler at rest has returned, or waits with nothing in its select ready. -/
theorem AtRest.handler (hs : s.AtRest) {i : ℕ} {tk : Ticket}
    (hi : s.system.tickets[i]? = some tk) (hreturned : tk.returned = false) :
    tk.handler = .waiting ∧ tk.slot ≠ .closed ∧ tk.ctxDone = false := by
  have hstep {b : HandlerStep} (hb : b.own = true) := hs.handlerStep hi hb
  cases hh : tk.handler with
  | waiting =>
    have hdispatch := hstep (b := .selectDispatch) rfl
    have hcancel := hstep (b := .selectCancel) rfl
    simp only [Dataplane.handlerStep, hh, true_and, ite_eq_right_iff, reduceCtorEq, imp_false,
      Bool.not_eq_true] at hdispatch hcancel
    exact ⟨rfl, hdispatch, hcancel⟩
  | removing why => simpa [Dataplane.handlerStep, hh] using hstep (b := .removeWaiting) rfl
  | counting why => simpa [Dataplane.handlerStep, hh] using hstep (b := .countExpired) rfl
  | returning why => simpa [Dataplane.handlerStep, hh] using hstep (b := .returnExpired) rfl
  | serving => simpa [Dataplane.handlerStep, hh] using hstep (b := .done 0) rfl
  | failed why => simp [Ticket.returned, hh] at hreturned
  | finished => simp [Ticket.returned, hh] at hreturned

/-- From every reachable state with a running dispatcher, the parties take a bounded number of
steps of their own, whatever their order. Where none is left, the slots in flight are the leaked
ones; a handler that has not returned is on the list, with a free slot; and unless as many slots
have leaked as there are, there is none. -/
theorem own_steps_end (cfg : QueueConfig) {as bs : List WakeAction}
    (hs : exec step (init cfg) as = some s) (hlive : s.loop ≠ .stopped)
    (ht : exec step s bs = some t) (hbs : ∀ b ∈ bs, b.own = true) :
    bs.length ≤ s.work ∧
      (t.AtRest →
        t.system.queue.inflight = t.system.tickets.countP Ticket.leaked ∧
        (∀ i tk, t.system.tickets[i]? = some tk → tk.returned = true ∨
          i ∈ t.system.queue.waiting ∧ tk.slot = .free) ∧
        (t.system.AllReturned ∨
          t.system.queue.cfg.maxInflightRequests ≤ t.system.tickets.countP Ticket.leaked)) := by
  obtain ⟨hlength, hrunning⟩ := length_le_work ht hbs
  refine ⟨by omega, fun hrest => ?_⟩
  have hreach : exec step (init cfg) (as ++ bs) = some t := by rw [exec_append, hs]; exact ht
  have hinv := inv_system hreach
  have hplaced : t.system.Placed := by
    obtain ⟨cs, hcs⟩ := exists_exec_system hreach
    exact exec_invariant (DispatchSystem.placed_init cfg) (fun _ _ _ hs ha => hs.step ha) hcs
  have hann : t.Announced :=
    exec_invariant (announced_init cfg) (fun _ _ _ h ha => h.step ha) hreach
  obtain ⟨hloop, hsignal, howed⟩ := hrest.settled.asleep (hrunning hlive)
  have hidle : t.system.dispatcher = none := by
    by_contra hd
    have hdraining := hann.held hd
    rw [hloop] at hdraining
    cases hdraining
  have hqueued : ∀ i tk, t.system.tickets[i]? = some tk → tk.returned = true ∨
      i ∈ t.system.queue.waiting ∧ tk.slot = .free := by
    intro i tk hi
    cases hreturned : tk.returned with
    | true => exact .inl rfl
    | false =>
      right
      obtain ⟨hwaiting, hopen, hctx⟩ := hrest.handler hi hreturned
      have hfree : tk.slot = .free := by
        cases hslot : tk.slot with
        | free => rfl
        | closed => exact absurd hslot hopen
        | popped =>
          obtain ⟨now, hd⟩ := hplaced.popped i tk hi hslot
          rw [hidle] at hd
          cases hd
      refine ⟨?_, hfree⟩
      rcases hplaced.waiting i tk hi hwaiting hfree with hin | hin | hdone
      · exact hin
      · rw [hrest.cancels] at hin
        cases hin
      · rw [hctx] at hdone
        cases hdone
  have hinflight : t.system.queue.inflight = t.system.tickets.countP Ticket.leaked := by
    have hnone : t.system.outstanding = 0 := by
      refine List.countP_eq_zero.mpr fun tk htk => ?_
      obtain ⟨i, hi⟩ := List.mem_iff_getElem?.mp htk
      rcases hqueued i tk hi with hreturned | ⟨-, hfree⟩
      · simp [hreturned]
      · simp [Ticket.popped, hfree]
    rw [hinv.inflight_eq, hnone, Nat.cast_zero, zero_add]
  refine ⟨hinflight, hqueued, ?_⟩
  by_cases hleaked : t.system.queue.cfg.maxInflightRequests ≤ t.system.tickets.countP Ticket.leaked
  · exact .inr hleaked
  · left
    -- a slot is free, so a ticket on the list would have been announced
    have hempty : t.system.queue.waiting = [] := by
      by_contra hne
      have hdispatchable : t.system.queue.Dispatchable := ⟨hne, by omega⟩
      rcases hann.wake (hrunning hlive) hdispatchable with h | h | h
      · rw [hsignal] at h
        cases h
      · omega
      · rw [hloop] at h
        cases h
    intro tk htk
    obtain ⟨i, hi⟩ := List.mem_iff_getElem?.mp htk
    rcases hqueued i tk hi with hreturned | ⟨hin, -⟩
    · exact hreturned
    · rw [hempty] at hin
      cases hin

/-- A sleeping dispatcher with nothing to announce, and handlers that have returned or wait with
nothing ready, are at rest. -/
theorem atRest_of_idle (hloop : s.loop = .selecting) (hsignal : s.signal = false)
    (howed : s.owed = 0) (hcancels : s.system.cancels = [])
    (hhandlers : ∀ tk ∈ s.system.tickets, tk.returned = true ∨
      tk.handler = .waiting ∧ tk.slot ≠ .closed ∧ tk.ctxDone = false ∧ tk.timerFired = false) :
    s.AtRest := by
  intro a ha
  cases a with
  | wake => simp [step, howed]
  | receive => simp [step, hsignal]
  | tick => cases ha
  | ctxDone => cases ha
  | drain now => simp [step, hloop]
  | closeDispatch => simp [step, hloop]
  | party b =>
    cases b with
    | closeCancel => simp [step, DispatchAction.ofDispatcher, DispatchSystem.step, hcancels]
    | admission | drain | closeDispatch | close => cases ha
    | handler i b =>
      cases hi : s.system.tickets[i]? with
      | none => simp [step, DispatchAction.ofDispatcher, DispatchSystem.step, hi]
      | some tk =>
        have hnone : Dataplane.handlerStep s.system.queue i tk b = none := by
          rcases hhandlers tk (List.mem_of_getElem? hi) with hreturned | ⟨hh, hslot, hctx, htimer⟩
          · cases hh : tk.handler <;> simp only [Ticket.returned, hh, reduceCtorEq] at hreturned <;>
              cases b <;> simp_all [Dataplane.handlerStep, WakeAction.own, HandlerStep.own]
          · cases b <;> simp_all [Dataplane.handlerStep, WakeAction.own, HandlerStep.own]
        simp [step, DispatchAction.ofDispatcher, DispatchSystem.step, hi, hnone]

/-- Two requests for one slot: the first times out while the dispatcher pops it. -/
def leakingRun : List WakeAction :=
  [.party (.admission 0 none), .party (.admission 1 none), .wake, .receive,
    .party (.handler 0 .timerFires), .party (.handler 0 .selectTimeout), .drain 2]

/-- The steps that are left. -/
def leakingRest : List WakeAction :=
  [.closeDispatch, .party (.handler 0 .removeWaiting), .drain 3, .wake, .receive, .drain 4,
    .party (.handler 0 .countExpired), .party (.handler 0 .returnExpired)]

/-- At rest the second request still waits, although no request is being served. -/
theorem leaking_rests :
    ∃ s t, exec step (init oneSlotConfig) leakingRun = some s ∧ s.loop ≠ .stopped ∧
      exec step s leakingRest = some t ∧ leakingRest.length ≤ s.work ∧ t.AtRest ∧
      t.system.queue.waiting = [1] ∧ t.system.tickets.map Ticket.returned = [true, false] ∧
      t.system.queue.inflight = 1 ∧ t.system.tickets.countP Ticket.leaked = 1 := by
  have hstart : ((exec step (init oneSlotConfig) leakingRun).map WakeSystem.loop) =
      some .draining := by decide +kernel
  obtain ⟨s, hs, hloop⟩ := Option.map_eq_some_iff.mp hstart
  have hend : ((exec step (init oneSlotConfig) (leakingRun ++ leakingRest)).map fun t =>
      ((t.loop, t.signal, t.owed, t.system.cancels), t.system.tickets, t.system.queue.waiting,
        t.system.tickets.countP Ticket.leaked)) =
      some ((.selecting, false, 0, []), [⟨0, 2, .closed, false, true, .failed .timedOut⟩,
        ⟨1, 0, .free, false, false, .waiting⟩], [1], 1) := by decide +kernel
  rw [exec_append, hs] at hend
  obtain ⟨t, ht, hvalues⟩ := Option.map_eq_some_iff.mp hend
  simp only [Prod.mk.injEq] at hvalues
  obtain ⟨⟨hidle, hsignal, howed, hcancels⟩, htickets, hwaiting, hleaked⟩ := hvalues
  have hlive : s.loop ≠ .stopped := by
    rw [hloop]
    decide
  have hrest : t.AtRest := atRest_of_idle hidle hsignal howed hcancels (by rw [htickets]; decide)
  obtain ⟨hlength, hsplit⟩ := own_steps_end oneSlotConfig hs hlive ht (by decide)
  refine ⟨s, t, hs, hlive, ht, hlength, hrest, hwaiting, by rw [htickets]; rfl, ?_, hleaked⟩
  rw [(hsplit hrest).1, hleaked]
  rfl

end WakeSystem

/-! ### Leaked slots -/

namespace DispatchSystem

variable {s t : DispatchSystem} {a : DispatchAction}

/-- A leaked slot stays leaked. -/
theorem handlerStep_leaked_mono {q q' : Queue} {i : ℕ} {tk tk' : Ticket} {b : HandlerStep}
    (h : handlerStep q i tk b = some (q', tk')) (hleaked : tk.leaked = true) :
    tk'.leaked = true := by
  cases hh : tk.handler with
  | failed why =>
    cases b with
    | cancelCtx =>
      simp only [handlerStep, Option.some.injEq, Prod.mk.injEq] at h
      obtain ⟨rfl, rfl⟩ := h
      exact hleaked
    | timerFires | selectDispatch | selectCancel | selectTimeout | removeWaiting | countExpired
      | returnExpired | done => simp [handlerStep, hh] at h
  | waiting | removing | counting | returning | serving | finished =>
    simp [Ticket.leaked, hh] at hleaked

/-- The leaked slots after one ticket has changed. -/
theorem leaked_set {tickets : List Ticket} {i : ℕ} {tk tk' : Ticket} (hi : tickets[i]? = some tk)
    (hleaked : tk.leaked = true → tk'.leaked = true) :
    tickets.countP Ticket.leaked ≤ (tickets.set i tk').countP Ticket.leaked := by
  have hset := total_set_add (fun tk => if tk.leaked then 1 else 0) hi tk'
  rw [total_indicator, total_indicator] at hset
  cases htk : tk.leaked with
  | false =>
    simp only [htk, Bool.false_eq_true, if_false] at hset
    omega
  | true =>
    simp only [htk, hleaked htk, if_true] at hset
    omega

theorem leaked_modify (tickets : List Ticket) (i : ℕ) {f : Ticket → Ticket}
    (hf : ∀ tk, tk.leaked = true → (f tk).leaked = true) :
    tickets.countP Ticket.leaked ≤ (tickets.modify i f).countP Ticket.leaked := by
  cases hi : tickets[i]? with
  | none =>
    rw [List.modify_eq_set_getElem?, hi]
    rfl
  | some tk =>
    rw [modify_eq_set hi]
    exact leaked_set hi (hf tk)

/-- No step gives a leaked slot back. -/
theorem leaked_step (h : s.step a = some t) :
    s.tickets.countP Ticket.leaked ≤ t.tickets.countP Ticket.leaked := by
  rcases step_cases h with ⟨_, _, _, _, -, -, rfl⟩ | ⟨now, _, _, -, -, rfl⟩ |
    ⟨i, b, tk, q, tk', -, hi, hb, rfl⟩ | ⟨_, -, -, -, rfl⟩ | ⟨now, i, q, -, -, -, rfl⟩ |
    ⟨i, now, -, -, rfl⟩ | ⟨-, rfl⟩ | ⟨i, cancels, -, -, rfl⟩
  · exact le_rfl
  · rw [List.countP_append]
    exact Nat.le_add_right _ _
  · exact leaked_set hi (handlerStep_leaked_mono hb)
  · exact le_rfl
  · refine leaked_modify _ _ fun tk htk => ?_
    simp only [Ticket.leaked, Ticket.popped, Bool.and_eq_true] at htk ⊢
    exact ⟨rfl, htk.2⟩
  · refine leaked_modify _ _ fun tk htk => ?_
    simp only [Ticket.leaked, Ticket.popped, Bool.and_eq_true] at htk ⊢
    exact ⟨rfl, htk.2⟩
  · exact le_rfl
  · exact leaked_modify _ _ fun _ htk => htk

/-- Once as many slots have leaked as there are, no continuation whatsoever dispatches another
ticket: the count of dispatched tickets stays, and no later request gets a slot. -/
theorem dispatched_of_leaked (cfg : QueueConfig) {as bs : List DispatchAction}
    (hs : exec step (init cfg) as = some s)
    (hdead : s.queue.cfg.maxInflightRequests ≤ s.tickets.countP Ticket.leaked)
    (ht : exec step s bs = some t) :
    t.queue.dispatched = s.queue.dispatched ∧
      ∀ i tk, s.tickets.length ≤ i → t.tickets[i]? = some tk →
        tk.slot = .free ∧ tk.handler ≠ .serving ∧ tk.handler ≠ .finished := by
  suffices hinv : t.Inv ∧ t.queue.cfg = s.queue.cfg ∧
      t.queue.cfg.maxInflightRequests ≤ t.tickets.countP Ticket.leaked ∧
      t.queue.dispatched = s.queue.dispatched ∧
      ∀ i tk, s.tickets.length ≤ i → t.tickets[i]? = some tk → tk.slot = .free by
    obtain ⟨hinv, -, -, hdispatched, hfree⟩ := hinv
    refine ⟨hdispatched, fun i tk hi htk => ?_⟩
    have hslot := hfree i tk hi htk
    have hcons := hinv.consistent tk (List.mem_of_getElem? htk)
    rw [Ticket.Consistent, hslot] at hcons
    refine ⟨hslot, fun h => ?_, fun h => ?_⟩
    · cases hcons (.inl h)
    · cases hcons (.inr h)
  have hinv : s.Inv := exec_invariant (inv_init cfg) (fun _ _ _ hs ha => hs.step ha) hs
  refine exec_invariant (P := fun t => t.Inv ∧ t.queue.cfg = s.queue.cfg ∧
      t.queue.cfg.maxInflightRequests ≤ t.tickets.countP Ticket.leaked ∧
      t.queue.dispatched = s.queue.dispatched ∧
      ∀ i tk, s.tickets.length ≤ i → t.tickets[i]? = some tk → tk.slot = .free) ?_ ?_ ht
  · refine ⟨hinv, rfl, hdead, rfl, fun i tk hi htk => ?_⟩
    have := (List.getElem?_eq_some_iff.mp htk).1
    omega
  · rintro t a u ⟨hinv, hcfg, hleaked, hdispatched, hfree⟩ hstep
    have hmono := leaked_step hstep
    -- every slot is taken
    have hfull : t.queue.cfg.maxInflightRequests ≤ t.queue.inflight := by
      rw [hinv.inflight_eq]
      omega
    suffices hrest : u.queue.cfg = t.queue.cfg ∧ u.queue.dispatched = t.queue.dispatched ∧
        ∀ i tk, s.tickets.length ≤ i → u.tickets[i]? = some tk → tk.slot = .free by
      obtain ⟨hcfg', hdispatched', hfree'⟩ := hrest
      refine ⟨hinv.step hstep, hcfg'.trans hcfg, ?_, hdispatched'.trans hdispatched, hfree'⟩
      rw [hcfg']
      omega
    rcases step_cases hstep with ⟨_, _, _, _, -, hq, rfl⟩ | ⟨now, _, _, -, hq, rfl⟩ |
      ⟨i, b, tk, q, tk', -, hi, hb, rfl⟩ | ⟨_, -, -, -, rfl⟩ | ⟨now, i, q, -, -, hq, rfl⟩ |
      ⟨i, now, -, hd, rfl⟩ | ⟨-, rfl⟩ | ⟨i, cancels, -, -, rfl⟩
    · obtain ⟨rejected, rfl⟩ := Queue.admitTicket_eq_some hq
      exact ⟨rfl, rfl, hfree⟩
    · obtain ⟨-, -, -, rfl⟩ := Queue.admitTicket_eq_none hq
      refine ⟨rfl, rfl, fun j tk hj htk => ?_⟩
      rcases lt_or_ge j t.tickets.length with hlt | hge
      · rw [List.getElem?_append_left hlt] at htk
        exact hfree j tk hj htk
      · rw [List.getElem?_append_right hge, List.getElem?_singleton] at htk
        split at htk
        · cases htk
          rfl
        · cases htk
    · have hslot := (handlerStep_placed hb).1
      obtain ⟨hcfg', hdispatched'⟩ := handlerStep_dispatched hb
      refine ⟨hcfg', hdispatched', fun j u hj hu => ?_⟩
      by_cases hij : i = j
      · subst hij
        rw [getElem?_set_self hi, Option.some.injEq] at hu
        rw [← hu, hslot]
        exact hfree i tk hj hi
      · rw [List.getElem?_set_ne hij] at hu
        exact hfree j u hj hu
    · exact ⟨rfl, rfl, hfree⟩
    · obtain ⟨waiting, samples, -, hroom, -⟩ := Queue.drain_eq_some hq
      omega
    · obtain ⟨tk, hi, hpopped⟩ := hinv.dispatcher i now hd
      refine ⟨rfl, rfl, fun j u hj hu => ?_⟩
      have hij : i ≠ j := by
        rintro rfl
        have hslot := hfree i tk hj hi
        rw [hpopped] at hslot
        cases hslot
      rw [List.getElem?_modify_ne _ _ hij] at hu
      exact hfree j u hj hu
    · exact ⟨rfl, rfl, hfree⟩
    · refine ⟨rfl, rfl, fun j u hj hu => ?_⟩
      rw [List.getElem?_modify, Option.map_eq_map, Option.map_eq_some_iff] at hu
      obtain ⟨tk, htk, rfl⟩ := hu
      have hslot := hfree j tk hj htk
      split <;> exact hslot

/-- A request that comes after the only slot has leaked is not dispatched. -/
theorem poppedRun_dead :
    ∃ s t, exec step (init WakeSystem.oneSlotConfig) poppedRun = some s ∧
      exec step s [.admission 5 none, .drain 6, .drain 7] = some t ∧
      t.queue.dispatched = s.queue.dispatched ∧ t.queue.waiting = [1] ∧
      ∀ tk, t.tickets[1]? = some tk → tk.slot = .free := by
  have hstart : ((exec step (init WakeSystem.oneSlotConfig) poppedRun).map fun s =>
      (s.queue.cfg.maxInflightRequests, s.tickets.countP Ticket.leaked, s.tickets.length)) =
      some (1, 1, 1) := by decide +kernel
  obtain ⟨s, hs, hvalues⟩ := Option.map_eq_some_iff.mp hstart
  simp only [Prod.mk.injEq] at hvalues
  obtain ⟨hslots, hleaked, htickets⟩ := hvalues
  have hend : ((exec step (init WakeSystem.oneSlotConfig) (poppedRun ++
      [.admission 5 none, .drain 6, .drain 7])).map fun t => t.queue.waiting) = some [1] := by
    decide +kernel
  rw [exec_append, hs] at hend
  obtain ⟨t, ht, hwaiting⟩ := Option.map_eq_some_iff.mp hend
  obtain ⟨hdispatched, hfree⟩ := dispatched_of_leaked WakeSystem.oneSlotConfig hs
    (by rw [hslots, hleaked]; rfl) ht
  exact ⟨s, t, hs, ht, hdispatched, hwaiting, fun tk htk => (hfree 1 tk (by omega) htk).1⟩

end DispatchSystem

end GpuSidecar.Dataplane
