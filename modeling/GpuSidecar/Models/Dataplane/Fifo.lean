import GpuSidecar.Models.Dataplane.Conservation
import Mathlib.Data.List.Range

/-!
# Bounds and order of dispatch

In every interleaving the queue and the in-flight counter stay within their bounds,
and tickets leave the queue in the order of their admission. A run shows the tickets
that it admits, pops and dispatches; the tickets popped so far, followed by those that
still wait, are always a sublist of the tickets admitted.
-/

namespace GpuSidecar.Dataplane

open Run Pool

namespace DispatchSystem

/-- The ticket that an action adds to the queue. -/
def admits (s : DispatchSystem) : DispatchAction → List ℕ
  | .admission now gate =>
    match s.queue.admitTicket now gate s.tickets.length with
    | (_, some _) => []
    | (_, none) => [s.tickets.length]
  | _ => []

/-- The ticket that an action takes out of the queue for an in-flight slot. -/
def pops (s : DispatchSystem) : DispatchAction → List ℕ
  | .drain now => ((s.queue.drain now s.enqueuedMono).map Prod.fst).toList
  | _ => []

/-- The ticket that the dispatcher holds between its critical section and the close of the
ticket's channel. -/
def held (s : DispatchSystem) : List ℕ := (s.dispatcher.map Prod.fst).toList

/-- The ticket whose dispatch channel an action closes. -/
def closes (s : DispatchSystem) : DispatchAction → List ℕ
  | .closeDispatch => s.held
  | _ => []

/-! ### What one step moves -/

/-- A handler's step neither takes a slot nor changes the configuration. -/
theorem handlerStep_inflight_le {q q' : Queue} {i : ℕ} {tk tk' : Ticket} {b : HandlerStep}
    (h : handlerStep q i tk b = some (q', tk')) : q'.inflight ≤ q.inflight ∧ q'.cfg = q.cfg := by
  cases b with
  | cancelCtx =>
    simp only [handlerStep, Option.some.injEq, Prod.mk.injEq] at h
    obtain ⟨rfl, -⟩ := h
    exact ⟨le_rfl, rfl⟩
  | timerFires | selectDispatch | selectCancel | selectTimeout =>
    simp only [handlerStep, Option.ite_none_right_eq_some, Option.some.injEq, Prod.mk.injEq] at h
    obtain ⟨-, rfl, -⟩ := h
    exact ⟨le_rfl, rfl⟩
  | removeWaiting | returnExpired =>
    cases hh : tk.handler <;> simp only [handlerStep, hh, Option.some.injEq, Prod.mk.injEq,
      reduceCtorEq] at h
    obtain ⟨rfl, -⟩ := h
    exact ⟨le_rfl, rfl⟩
  | countExpired =>
    cases hh : tk.handler <;> simp only [handlerStep, hh, Option.some.injEq, Prod.mk.injEq,
      reduceCtorEq] at h
    obtain ⟨rfl, -⟩ := h
    rename_i why
    cases why <;> exact ⟨le_rfl, rfl⟩
  | done now =>
    simp only [handlerStep, Option.ite_none_right_eq_some, Option.some.injEq, Prod.mk.injEq] at h
    obtain ⟨-, rfl, -⟩ := h
    refine ⟨?_, rfl⟩
    simp only [Queue.done]
    split <;> omega

/-- What a step can do to the queue's order and bounds: tickets join at the end, leave
anywhere, are popped at the front, and pass through the dispatcher one at a time. -/
structure Moves (s : DispatchSystem) (a : DispatchAction) (t : DispatchSystem) : Prop where
  config : t.queue.cfg = s.queue.cfg
  admitted : List.range t.tickets.length = List.range s.tickets.length ++ s.admits a
  order : (s.pops a ++ t.queue.waiting).Sublist (s.queue.waiting ++ s.admits a)
  dispatch : s.closes a ++ t.held = s.held ++ s.pops a
  queued : (t.queue.waiting.length : ℤ) ≤
    max (s.queue.waiting.length : ℤ) s.queue.cfg.maxQueuedRequests
  inflight : t.queue.inflight ≤ max s.queue.inflight s.queue.cfg.maxInflightRequests

/-- Every step of every party moves tickets in order. -/
theorem Inv.moves {s t : DispatchSystem} {a : DispatchAction} (hs : s.Inv)
    (h : s.step a = some t) : s.Moves a t := by
  rcases step_cases h with ⟨now, gate, q, e, rfl, hq, rfl⟩ | ⟨now, gate, q, rfl, hq, rfl⟩ |
    ⟨i, b, tk, q, tk', rfl, hi, hb, rfl⟩ | ⟨now, rfl, hd, hq, rfl⟩ | ⟨now, i, q, rfl, hd, hq, rfl⟩ |
    ⟨i, now, rfl, hd, rfl⟩ | ⟨rfl, rfl⟩ | ⟨i, cancels, rfl, -, rfl⟩
  · have hadmits : s.admits (.admission now gate) = [] := by simp [admits, hq]
    obtain ⟨rejected, rfl⟩ := Queue.admitTicket_eq_some hq
    exact ⟨rfl, by simp [hadmits], by simp [hadmits, pops], by simp [closes, pops, held],
      le_max_left _ _, le_max_left _ _⟩
  · have hadmits : s.admits (.admission now gate) = [s.tickets.length] := by simp [admits, hq]
    obtain ⟨-, -, hroom, rfl⟩ := Queue.admitTicket_eq_none hq
    refine ⟨rfl, ?_, by simp [hadmits, pops], by simp [closes, pops, held], ?_, le_max_left _ _⟩
    · rw [hadmits, List.length_append, List.length_singleton, List.range_succ]
    · refine le_max_of_le_right ?_
      rw [List.length_append, List.length_singleton]
      push_cast
      omega
  · have hmem : tk ∈ s.tickets := List.mem_of_getElem? hi
    obtain ⟨-, hwaiting, -⟩ := handlerStep_spec hb hs.nodup
      (fun hin => by
        obtain ⟨u, hu, huq⟩ := hs.waiting i hin
        rw [hi, Option.some.injEq] at hu
        exact hu ▸ huq)
      (hs.consistent tk hmem) (hs.inflight_pos hmem)
    obtain ⟨hinflight, hcfg⟩ := handlerStep_inflight_le hb
    have hlength := hwaiting.length_le
    refine ⟨hcfg, by simp [admits], by simpa [pops, admits] using hwaiting,
      by simp [closes, pops, held], le_max_of_le_left ?_, le_max_of_le_left hinflight⟩
    exact_mod_cast hlength
  · have hpops : t.pops (.drain now) = [] := by simp [pops, hq]
    exact ⟨rfl, by simp [admits], by simp [hpops, admits], by simp [hpops, closes],
      le_max_left _ _, le_max_left _ _⟩
  · have hpops : s.pops (.drain now) = [i] := by simp [pops, hq]
    obtain ⟨waiting, samples, hw, hfree, rfl⟩ := Queue.drain_eq_some hq
    refine ⟨rfl, by simp [admits], by simp [hpops, admits, hw], by simp [hpops, closes, held, hd],
      le_max_of_le_left ?_, le_max_of_le_right hfree⟩
    rw [hw, List.length_cons]
    push_cast
    omega
  · exact ⟨rfl, by simp [admits], by simp [pops, admits], by simp [closes, pops, held],
      le_max_left _ _, le_max_left _ _⟩
  · refine ⟨rfl, by simp [admits], ?_, by simp [closes, pops, held], ?_, le_max_left _ _⟩
    · exact List.nil_sublist _
    · exact le_max_of_le_left (Int.natCast_nonneg _)
  · exact ⟨rfl, by simp [admits], by simp [pops, admits], by simp [closes, pops, held],
      le_max_left _ _, le_max_left _ _⟩

/-! ### Runs -/

/-- The tickets that a run admits, in the order of their admission. -/
def admissions (cfg : QueueConfig) (as : List DispatchAction) : List ℕ :=
  observed step admits (init cfg) as

/-- The tickets that a run pops, in order. -/
def popped (cfg : QueueConfig) (as : List DispatchAction) : List ℕ :=
  observed step pops (init cfg) as

/-- The tickets whose dispatch channels a run closes, in order. -/
def dispatches (cfg : QueueConfig) (as : List DispatchAction) : List ℕ :=
  observed step closes (init cfg) as

/-- What holds of a run and the state that it reaches. -/
structure InOrder (cfg : QueueConfig) (as : List DispatchAction) (s : DispatchSystem) : Prop where
  inv : s.Inv
  config : s.queue.cfg = cfg
  admitted : admissions cfg as = List.range s.tickets.length
  order : (popped cfg as ++ s.queue.waiting).Sublist (admissions cfg as)
  dispatch : dispatches cfg as ++ s.held = popped cfg as
  queued : (s.queue.waiting.length : ℤ) ≤ cfg.maxQueuedRequests
  inflight : s.queue.inflight ≤ cfg.maxInflightRequests

/-- With bounds that are not negative every run is in order. -/
theorem inOrder {cfg : QueueConfig} (hqueued : 0 ≤ cfg.maxQueuedRequests)
    (hinflight : 0 ≤ cfg.maxInflightRequests) {as : List DispatchAction} {s : DispatchSystem}
    (h : exec step (init cfg) as = some s) : InOrder cfg as s := by
  refine exec_induction (P := InOrder cfg) ?_ ?_ h
  · exact ⟨inv_init cfg, rfl, rfl, List.nil_sublist _, rfl, hqueued, hinflight⟩
  · intro as s a t hs ih ha
    have hm := ih.inv.moves ha
    have hadmits : admissions cfg (as ++ [a]) = admissions cfg as ++ s.admits a :=
      observed_concat admits hs ha
    have hpops : popped cfg (as ++ [a]) = popped cfg as ++ s.pops a := observed_concat pops hs ha
    have hcloses : dispatches cfg (as ++ [a]) = dispatches cfg as ++ s.closes a :=
      observed_concat closes hs ha
    refine ⟨ih.inv.step ha, hm.config.trans ih.config, ?_, ?_, ?_, ?_, ?_⟩
    · rw [hadmits, ih.admitted, hm.admitted]
    · rw [hpops, hadmits, List.append_assoc]
      have hstep : (popped cfg as ++ (s.pops a ++ t.queue.waiting)).Sublist
          (popped cfg as ++ (s.queue.waiting ++ s.admits a)) := hm.order.append_left _
      rw [← List.append_assoc (popped cfg as) s.queue.waiting] at hstep
      exact hstep.trans (ih.order.append_right _)
    · rw [hcloses, hpops, List.append_assoc, hm.dispatch, ← List.append_assoc, ih.dispatch]
    · refine hm.queued.trans (max_le ih.queued ?_)
      rw [ih.config]
    · refine hm.inflight.trans (max_le ih.inflight ?_)
      rw [ih.config]

/-- Every popped ticket is in flight or completed. -/
theorem Inv.dispatched_eq {s : DispatchSystem} (hs : s.Inv) :
    (s.queue.dispatched : ℤ) = s.queue.inflight + s.queue.completed := by
  have hsplit : total (Ticket.share .dispatched) s.tickets =
      total (Ticket.share .inflight) s.tickets + total (Ticket.share .completed) s.tickets := by
    refine total_add fun tk htk => ?_
    have hcons := hs.consistent tk htk
    by_cases hfin : tk.handler = .finished
    · have hclosed := hcons (Or.inr hfin)
      simp [Ticket.share, Ticket.popped, hfin, hclosed]
    · simp [Ticket.share, hfin]
  have hd : (s.queue.dispatched : ℤ) = total (Ticket.share .dispatched) s.tickets :=
    hs.ledger .dispatched
  have hi : s.queue.inflight = total (Ticket.share .inflight) s.tickets := hs.ledger .inflight
  have hc : (s.queue.completed : ℤ) = total (Ticket.share .completed) s.tickets :=
    hs.ledger .completed
  omega

/-- The bounds and the balance of the queue. -/
structure Bounded (cfg : QueueConfig) (s : DispatchSystem) : Prop where
  queued : (s.queue.waiting.length : ℤ) ≤ cfg.maxQueuedRequests
  inflight_nonneg : 0 ≤ s.queue.inflight
  inflight : s.queue.inflight ≤ cfg.maxInflightRequests
  dispatched : (s.queue.dispatched : ℤ) = s.queue.inflight + s.queue.completed

/-- In every interleaving of admissions, waits, dispatches, completions and shutdown the
queue keeps its bounds, no dispatch channel is closed twice, and tickets are popped and
dispatched in the order of their admission. -/
theorem bounded_and_fifo (cfg : QueueConfig) (hqueued : 0 ≤ cfg.maxQueuedRequests)
    (hinflight : 0 ≤ cfg.maxInflightRequests) (as : List DispatchAction) (s : DispatchSystem)
    (h : exec step (init cfg) as = some s) :
    s.Bounded cfg ∧ (∀ t, (dispatches cfg as).count t ≤ 1) ∧
      (popped cfg as).Sublist (admissions cfg as) ∧
      (dispatches cfg as).Sublist (admissions cfg as) := by
  have ho := inOrder hqueued hinflight h
  have hpopped : (popped cfg as).Sublist (admissions cfg as) :=
    (List.sublist_append_left _ _).trans ho.order
  have hdispatches : (dispatches cfg as).Sublist (admissions cfg as) := by
    rw [← ho.dispatch] at hpopped
    exact (List.sublist_append_left _ _).trans hpopped
  have hnodup : (dispatches cfg as).Nodup := by
    rw [ho.admitted] at hdispatches
    exact hdispatches.nodup List.nodup_range
  have hnonneg : 0 ≤ s.queue.inflight := by
    have hi : s.queue.inflight = total (Ticket.share .inflight) s.tickets := ho.inv.ledger .inflight
    omega
  exact ⟨⟨ho.queued, hnonneg, ho.inflight, ho.inv.dispatched_eq⟩,
    List.nodup_iff_count_le_one.mp hnodup, hpopped, hdispatches⟩

/-- Two requests with a timeout between them: the first times out, the second is served. -/
def secondServedRun : List DispatchAction :=
  [.admission 0 none, .admission 1 none, .handler 0 .timerFires, .handler 0 .selectTimeout,
    .handler 0 .removeWaiting, .drain 2, .closeDispatch, .handler 1 .selectDispatch,
    .handler 1 (.done 3)]

/-- The second request is dispatched within the bounds, after the first one left. -/
theorem secondServedRun_bounded :
    ∃ s, exec step (init defaultQueueConfig) secondServedRun = some s ∧
      s.Bounded defaultQueueConfig ∧ dispatches defaultQueueConfig secondServedRun = [1] := by
  have hrun : (exec step (init defaultQueueConfig) secondServedRun).isSome = true := by
    decide +kernel
  obtain ⟨s, hs⟩ := Option.isSome_iff_exists.mp hrun
  have hspec := bounded_and_fifo defaultQueueConfig (by decide) (by decide) secondServedRun s hs
  exact ⟨s, hs, hspec.1, by decide +kernel⟩

end DispatchSystem

end GpuSidecar.Dataplane
