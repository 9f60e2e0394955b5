import GpuSidecar.Models.Dataplane.Conservation

/-!
# The dispatcher's wakeups

The dispatcher sleeps in a select until a wake arrives on a channel of capacity one or
its safety tick fires. `Admit` and `Done` send their wake only after they have left
their critical section, so a ticket can be dispatchable while nothing announces it
yet. The system below adds the channel, the wakes still owed and the position of the
dispatcher to the parties of the queue. No wake is lost: left alone, the owed wakes
and the dispatcher stop after finitely many steps with every slot handed out that
could be, and the safety tick is not needed for it.
-/

namespace GpuSidecar.Dataplane

open Run

/-- The position of the dispatcher in `Run`. -/
inductive Loop where
  /-- In the select. -/
  | selecting
  /-- In `drain`. -/
  | draining
  /-- `Run` has returned. -/
  | stopped
  deriving DecidableEq, Repr

/-- The parties of the queue with the channel between them. -/
structure WakeSystem where
  system : DispatchSystem
  /-- Whether the channel holds its one signal. -/
  signal : Bool
  /-- The calls of `Admit` and `Done` between their critical section and their wake. -/
  owed : ℕ
  loop : Loop
  deriving DecidableEq, Repr

/-- One atomic step of one party. -/
inductive WakeAction where
  /-- A step of a party other than the dispatcher. -/
  | party (a : DispatchAction)
  /-- A call of `Admit` or `Done` sends its wake, which is dropped if one is buffered. -/
  | wake
  /-- The select takes the signal. -/
  | receive
  /-- The select takes the safety tick. -/
  | tick
  /-- The select takes the cancelled context. -/
  | ctxDone
  /-- The critical section of a drain iteration. -/
  | drain (now : ℤ)
  | closeDispatch
  deriving DecidableEq, Repr

/-- The steps that only the dispatcher takes. -/
def DispatchAction.ofDispatcher : DispatchAction → Bool
  | .drain _ => true
  | .closeDispatch => true
  | _ => false

/-- The steps of the dispatcher and of the owed wakes; its tick is not among them. -/
def WakeAction.dispatching : WakeAction → Bool
  | .wake => true
  | .receive => true
  | .drain _ => true
  | .closeDispatch => true
  | _ => false

namespace DispatchSystem

/-- The wakes that a step leaves to be sent. -/
def wakes (s : DispatchSystem) : DispatchAction → ℕ
  | .admission now gate =>
    match s.queue.admitTicket now gate s.tickets.length with
    | (_, some _) => 0
    | (_, none) => 1
  | .handler _ (.done _) => 1
  | _ => 0

end DispatchSystem

namespace WakeSystem

def init (cfg : QueueConfig) : WakeSystem := ⟨DispatchSystem.init cfg, false, 0, .selecting⟩

def step (s : WakeSystem) : WakeAction → Option WakeSystem
  | .party a =>
    if a.ofDispatcher then none
    else (s.system.step a).map fun t => { s with system := t, owed := s.owed + s.system.wakes a }
  | .wake =>
    match s.owed with
    | 0 => none
    | owed + 1 => some { s with owed := owed, signal := true }
  | .receive =>
    if s.loop = .selecting ∧ s.signal then some { s with signal := false, loop := .draining }
    else none
  | .tick => if s.loop = .selecting then some { s with loop := .draining } else none
  | .ctxDone => if s.loop = .selecting then some { s with loop := .stopped } else none
  | .drain now =>
    if s.loop = .draining ∧ s.system.dispatcher = none then
      match s.system.queue.drain now s.system.enqueuedMono with
      | none => some { s with loop := .selecting }
      | some _ => (s.system.step (.drain now)).map fun t => { s with system := t }
    else none
  | .closeDispatch =>
    if s.loop = .draining then
      (s.system.step .closeDispatch).map fun t => { s with system := t }
    else none

/-- What one step can do. -/
theorem step_cases {s t : WakeSystem} {a : WakeAction} (h : s.step a = some t) :
    (∃ b r, a = .party b ∧ b.ofDispatcher = false ∧ s.system.step b = some r ∧
      t = { s with system := r, owed := s.owed + s.system.wakes b }) ∨
    (∃ owed, a = .wake ∧ s.owed = owed + 1 ∧ t = { s with owed := owed, signal := true }) ∨
    (a = .receive ∧ s.loop = .selecting ∧ s.signal = true ∧
      t = { s with signal := false, loop := .draining }) ∨
    (a = .tick ∧ s.loop = .selecting ∧ t = { s with loop := .draining }) ∨
    (a = .ctxDone ∧ s.loop = .selecting ∧ t = { s with loop := .stopped }) ∨
    (∃ now, a = .drain now ∧ s.loop = .draining ∧ s.system.dispatcher = none ∧
      s.system.queue.drain now s.system.enqueuedMono = none ∧ t = { s with loop := .selecting }) ∨
    (∃ now i q r, a = .drain now ∧ s.loop = .draining ∧ s.system.dispatcher = none ∧
      s.system.queue.drain now s.system.enqueuedMono = some (i, q) ∧
      s.system.step (.drain now) = some r ∧ t = { s with system := r }) ∨
    (∃ r, a = .closeDispatch ∧ s.loop = .draining ∧ s.system.step .closeDispatch = some r ∧
      t = { s with system := r }) := by
  cases a with
  | party b =>
    left
    simp only [step, Option.ite_none_left_eq_some, Option.map_eq_some_iff] at h
    obtain ⟨hb, r, hr, rfl⟩ := h
    exact ⟨b, r, rfl, by simpa using hb, hr, rfl⟩
  | wake =>
    right; left
    cases ho : s.owed with
    | zero => simp [step, ho] at h
    | succ owed =>
      simp only [step, ho, Option.some.injEq] at h
      exact ⟨owed, rfl, rfl, h.symm⟩
  | receive =>
    right; right; left
    simp only [step, Option.ite_none_right_eq_some, Option.some.injEq] at h
    exact ⟨rfl, h.1.1, h.1.2, h.2.symm⟩
  | tick =>
    right; right; right; left
    simp only [step, Option.ite_none_right_eq_some, Option.some.injEq] at h
    exact ⟨rfl, h.1, h.2.symm⟩
  | ctxDone =>
    right; right; right; right; left
    simp only [step, Option.ite_none_right_eq_some, Option.some.injEq] at h
    exact ⟨rfl, h.1, h.2.symm⟩
  | drain now =>
    right; right; right; right; right
    simp only [step, Option.ite_none_right_eq_some] at h
    obtain ⟨⟨hl, hd⟩, h⟩ := h
    rcases hq : s.system.queue.drain now s.system.enqueuedMono with _ | ⟨i, q⟩
    · left
      simp only [hq, Option.some.injEq] at h
      exact ⟨now, rfl, hl, hd, hq, h.symm⟩
    · right; left
      simp only [hq, Option.map_eq_some_iff] at h
      obtain ⟨r, hr, rfl⟩ := h
      exact ⟨now, i, q, r, rfl, hl, hd, hq, hr, rfl⟩
  | closeDispatch =>
    right; right; right; right; right; right; right
    simp only [step, Option.ite_none_right_eq_some, Option.map_eq_some_iff] at h
    obtain ⟨hl, r, hr, rfl⟩ := h
    exact ⟨r, rfl, hl, hr, rfl⟩

/-- A step is one of the queue's parties, or none of theirs. -/
theorem step_system {s t : WakeSystem} {a : WakeAction} (h : s.step a = some t) :
    t.system = s.system ∨ ∃ b, s.system.step b = some t.system := by
  rcases step_cases h with ⟨b, r, -, -, hr, rfl⟩ | ⟨_, -, -, rfl⟩ | ⟨-, -, -, rfl⟩ | ⟨-, -, rfl⟩ |
    ⟨-, -, rfl⟩ | ⟨_, -, -, -, -, rfl⟩ | ⟨now, _, _, r, -, -, -, -, hr, rfl⟩ | ⟨r, -, -, hr, rfl⟩
  · exact .inr ⟨b, hr⟩
  · exact .inl rfl
  · exact .inl rfl
  · exact .inl rfl
  · exact .inl rfl
  · exact .inl rfl
  · exact .inr ⟨.drain now, hr⟩
  · exact .inr ⟨.closeDispatch, hr⟩

/-- The dispatcher that waits for wakes does nothing that the free dispatcher cannot do:
the queue and its tickets go through a run of the parties alone. -/
theorem exists_exec_system {cfg : QueueConfig} {as : List WakeAction} {s : WakeSystem}
    (h : exec step (init cfg) as = some s) :
    ∃ bs, exec DispatchSystem.step (DispatchSystem.init cfg) bs = some s.system := by
  refine exec_invariant
    (P := fun s => ∃ bs, exec DispatchSystem.step (DispatchSystem.init cfg) bs = some s.system)
    ⟨[], rfl⟩ ?_ h
  rintro s a t ⟨bs, hbs⟩ ha
  rcases step_system ha with hsame | ⟨b, hb⟩
  · exact ⟨bs, hsame ▸ hbs⟩
  · exact ⟨bs ++ [b], exec_concat_eq_some.mpr ⟨_, hbs, hb⟩⟩

theorem inv_system {cfg : QueueConfig} {as : List WakeAction} {s : WakeSystem}
    (h : exec step (init cfg) as = some s) : s.system.Inv := by
  obtain ⟨bs, hbs⟩ := exists_exec_system h
  exact exec_invariant (DispatchSystem.inv_init cfg) (fun _ _ _ hs ha => hs.step ha) hbs

end WakeSystem

/-! ### Announcement of what can be dispatched -/

/-- A ticket waits and a slot is free. -/
def Queue.Dispatchable (q : Queue) : Prop :=
  q.waiting ≠ [] ∧ q.inflight < q.cfg.maxInflightRequests

theorem Queue.drain_eq_none_iff {q : Queue} {now : ℤ} {enqueuedMono : ℕ → ℤ} :
    q.drain now enqueuedMono = none ↔ ¬ q.Dispatchable := by
  rw [drain, Dispatchable]
  cases hw : q.waiting with
  | nil => simp
  | cons t waiting =>
    by_cases hfull : q.cfg.maxInflightRequests ≤ q.inflight <;> simp [hfull, not_lt.mpr]

/-- A handler makes a ticket dispatchable only by `Done`. -/
theorem handlerStep_dispatchable {q q' : Queue} {i : ℕ} {tk tk' : Ticket} {b : HandlerStep}
    (h : handlerStep q i tk b = some (q', tk')) (hdone : ∀ now, b ≠ .done now)
    (hq : q'.Dispatchable) : q.Dispatchable := by
  cases b with
  | cancelCtx =>
    simp only [handlerStep, Option.some.injEq, Prod.mk.injEq] at h
    rwa [h.1]
  | timerFires | selectDispatch | selectCancel | selectTimeout =>
    simp only [handlerStep, Option.ite_none_right_eq_some, Option.some.injEq, Prod.mk.injEq] at h
    rwa [h.2.1]
  | removeWaiting =>
    cases hh : tk.handler <;> simp only [handlerStep, hh, Option.some.injEq, Prod.mk.injEq,
      reduceCtorEq] at h
    obtain ⟨rfl, -⟩ := h
    refine ⟨fun hnil => hq.1 ?_, hq.2⟩
    simp [Queue.removeWaiting, hnil]
  | countExpired =>
    cases hh : tk.handler <;> simp only [handlerStep, hh, Option.some.injEq, Prod.mk.injEq,
      reduceCtorEq] at h
    obtain ⟨rfl, -⟩ := h
    rename_i why
    cases why <;> exact hq
  | returnExpired =>
    cases hh : tk.handler <;> simp only [handlerStep, hh, Option.some.injEq, Prod.mk.injEq,
      reduceCtorEq] at h
    rwa [h.1]
  | done now => exact absurd rfl (hdone now)

/-- A step that owes no wake makes nothing dispatchable. -/
theorem DispatchSystem.dispatchable_of_step {s t : DispatchSystem} {a : DispatchAction}
    (h : s.step a = some t) (hparty : a.ofDispatcher = false) (hwakes : s.wakes a = 0)
    (ht : t.queue.Dispatchable) : s.queue.Dispatchable := by
  rcases step_cases h with ⟨now, gate, q, e, rfl, hq, rfl⟩ | ⟨now, gate, q, rfl, hq, rfl⟩ |
    ⟨i, b, tk, q, tk', rfl, -, hb, rfl⟩ | ⟨now, rfl, -⟩ | ⟨now, i, q, rfl, -⟩ |
    ⟨i, now, rfl, -⟩ | ⟨rfl, rfl⟩ | ⟨i, cancels, rfl, -, rfl⟩
  · obtain ⟨rejected, rfl⟩ := Queue.admitTicket_eq_some hq
    exact ht
  · simp [wakes, hq] at hwakes
  · refine handlerStep_dispatchable hb (fun now hdone => ?_) ht
    subst hdone
    simp [wakes] at hwakes
  · simp [DispatchAction.ofDispatcher] at hparty
  · simp [DispatchAction.ofDispatcher] at hparty
  · simp [DispatchAction.ofDispatcher] at hparty
  · exact absurd rfl ht.1
  · exact ht

/-- The dispatcher closes the channel of the ticket that it holds. -/
theorem DispatchSystem.closeDispatch_eq_some {s t : DispatchSystem}
    (h : s.step .closeDispatch = some t) :
    ∃ i now, s.dispatcher = some (i, now) ∧ t = { s with
      tickets := s.tickets.modify i fun tk => { tk with slot := .closed, dispatchMono := now }
      dispatcher := none } := by
  rcases hd : s.dispatcher with _ | ⟨i, now⟩
  · simp [step, hd] at h
  · simp only [step, hd, Option.some.injEq] at h
    exact ⟨i, now, rfl, h.symm⟩

/-- A step of another party leaves the dispatcher where it is. -/
theorem DispatchSystem.dispatcher_of_step {s t : DispatchSystem} {a : DispatchAction}
    (h : s.step a = some t) (hparty : a.ofDispatcher = false) : t.dispatcher = s.dispatcher := by
  rcases step_cases h with ⟨now, gate, q, e, rfl, hq, rfl⟩ | ⟨now, gate, q, rfl, hq, rfl⟩ |
    ⟨i, b, tk, q, tk', rfl, -, hb, rfl⟩ | ⟨now, rfl, -⟩ | ⟨now, i, q, rfl, -⟩ |
    ⟨i, now, rfl, -⟩ | ⟨rfl, rfl⟩ | ⟨i, cancels, rfl, -, rfl⟩
  · rfl
  · rfl
  · rfl
  · simp [DispatchAction.ofDispatcher] at hparty
  · simp [DispatchAction.ofDispatcher] at hparty
  · simp [DispatchAction.ofDispatcher] at hparty
  · rfl
  · rfl

namespace WakeSystem

/-- What the channel protocol keeps: a running dispatcher that could hand out a slot is
awake or will be woken, and a popped ticket is held inside `drain` only. -/
structure Announced (s : WakeSystem) : Prop where
  wake : s.loop ≠ .stopped → s.system.queue.Dispatchable →
    s.signal = true ∨ 0 < s.owed ∨ s.loop = .draining
  held : s.system.dispatcher ≠ none → s.loop = .draining

theorem announced_init (cfg : QueueConfig) : (init cfg).Announced where
  wake := fun _ h => absurd rfl h.1
  held := fun h => absurd rfl h

theorem Announced.step {s t : WakeSystem} {a : WakeAction} (hs : s.Announced)
    (h : s.step a = some t) : t.Announced := by
  rcases step_cases h with ⟨b, r, -, hb, hr, rfl⟩ | ⟨_, -, -, rfl⟩ | ⟨-, -, -, rfl⟩ | ⟨-, -, rfl⟩ |
    ⟨-, hl, rfl⟩ | ⟨now, -, -, hd, hq, rfl⟩ | ⟨now, _, _, r, -, hl, -, -, hr, rfl⟩ |
    ⟨r, -, hl, hr, rfl⟩
  · refine ⟨fun hl hdis => ?_, fun hd => hs.held ?_⟩
    · rcases Nat.eq_zero_or_pos (s.system.wakes b) with hzero | hpos
      · have hold := hs.wake hl (DispatchSystem.dispatchable_of_step hr hb hzero hdis)
        rwa [hzero]
      · exact .inr (.inl (by simp only; omega))
    · rwa [← DispatchSystem.dispatcher_of_step hr hb]
  · exact ⟨fun _ _ => .inl rfl, hs.held⟩
  · exact ⟨fun _ _ => .inr (.inr rfl), fun _ => rfl⟩
  · exact ⟨fun _ _ => .inr (.inr rfl), fun _ => rfl⟩
  · refine ⟨fun hne => absurd rfl hne, fun hd => ?_⟩
    have hdraining := hs.held hd
    rw [hl] at hdraining
    cases hdraining
  · exact ⟨fun _ hdis => absurd hdis (Queue.drain_eq_none_iff.mp hq), fun hne => absurd hd hne⟩
  · exact ⟨fun _ _ => .inr (.inr hl), fun _ => hl⟩
  · exact ⟨fun _ _ => .inr (.inr hl), fun _ => hl⟩

/-! ### The dispatcher left alone -/

/-- A bound on the steps that the dispatcher and the owed wakes still have to take. -/
def pending (s : WakeSystem) : ℕ :=
  3 * s.owed + 2 * s.signal.toNat + (if s.loop = .draining then 1 else 0) +
    2 * s.system.queue.waiting.length + s.system.dispatcher.toList.length

/-- The dispatcher has closed the ticket's channel, so its wait returns nil. -/
def Released (s : DispatchSystem) (i : ℕ) : Prop :=
  ∃ tk, s.tickets[i]? = some tk ∧ tk.slot = .closed

/-- What a run of the dispatcher and the owed wakes from `s` has reached after `n` steps:
the first `k` tickets have their slots, and all but the held one are released. -/
structure Progress (s : WakeSystem) (n : ℕ) (t : WakeSystem) (k : ℕ) : Prop where
  config : t.system.queue.cfg = s.system.queue.cfg
  waiting : t.system.queue.waiting = s.system.queue.waiting.drop k
  count : k ≤ s.system.queue.waiting.length
  inflight : t.system.queue.inflight = s.system.queue.inflight + k
  room : k = 0 ∨ t.system.queue.inflight ≤ s.system.queue.cfg.maxInflightRequests
  released : ∀ i ∈ s.system.queue.waiting.take k,
    Released t.system i ∨ ∃ now, t.system.dispatcher = some (i, now)
  steps : n + t.pending ≤ s.pending
  live : t.loop = .stopped → s.loop = .stopped

theorem progress_refl (s : WakeSystem) : s.Progress 0 s 0 where
  config := rfl
  waiting := rfl
  count := Nat.zero_le _
  inflight := by simp
  room := .inl rfl
  released := by simp
  steps := by omega
  live := id

/-- Closing a channel releases the ticket that the dispatcher holds and no other. -/
theorem released_closeDispatch {s t : DispatchSystem} (hs : s.Inv)
    (h : s.step .closeDispatch = some t) {i : ℕ}
    (hi : Released s i ∨ ∃ now, s.dispatcher = some (i, now)) : Released t i := by
  obtain ⟨j, now, hd, rfl⟩ := DispatchSystem.closeDispatch_eq_some h
  rcases hi with ⟨tk, htk, hclosed⟩ | ⟨now', hd'⟩
  · refine ⟨_, by rw [List.getElem?_modify, htk]; rfl, ?_⟩
    split
    · rfl
    · exact hclosed
  · rw [hd, Option.some.injEq, Prod.mk.injEq] at hd'
    obtain ⟨rfl, -⟩ := hd'
    obtain ⟨tk, htk, -⟩ := hs.dispatcher j now hd
    exact ⟨_, by rw [List.getElem?_modify, htk]; rfl, by simp⟩

/-- A pop hands the oldest ticket to the dispatcher and leaves the released ones alone. -/
theorem released_drain {s t : DispatchSystem} (hs : s.Inv) {now : ℤ} {j : ℕ} {q : Queue}
    (hd : s.dispatcher = none) (hq : s.queue.drain now s.enqueuedMono = some (j, q))
    (h : s.step (.drain now) = some t) :
    t.queue = q ∧ t.dispatcher = some (j, now) ∧ ∀ i, Released s i → Released t i := by
  simp only [DispatchSystem.step, hd, hq, Option.some.injEq] at h
  subst h
  refine ⟨rfl, rfl, ?_⟩
  rintro i ⟨tk, htk, hclosed⟩
  obtain ⟨waiting, -, hw, -, -⟩ := Queue.drain_eq_some hq
  obtain ⟨tk', htk', hfree, -⟩ := hs.waiting j (by rw [hw]; exact List.mem_cons_self)
  have hne : j ≠ i := by
    rintro rfl
    rw [htk, Option.some.injEq] at htk'
    rw [← htk', hclosed] at hfree
    cases hfree
  exact ⟨tk, by simp [htk, hne], hclosed⟩

/-- Every step of the dispatcher or of an owed wake is progress. -/
theorem Progress.step {s t u : WakeSystem} {n k : ℕ} {a : WakeAction} (hp : s.Progress n t k)
    (hinv : t.system.Inv) (ha : a.dispatching = true) (h : t.step a = some u) :
    ∃ k', s.Progress (n + 1) u k' := by
  have hsteps := hp.steps
  rcases step_cases h with ⟨b, r, rfl, -, -, -⟩ | ⟨owed, -, ho, rfl⟩ | ⟨-, hl, hsig, rfl⟩ |
    ⟨rfl, -⟩ | ⟨rfl, -⟩ | ⟨now, -, hl, -, -, rfl⟩ | ⟨now, i, q, r, -, hl, hd, hq, hr, rfl⟩ |
    ⟨r, -, hl, hr, rfl⟩
  · cases ha
  · refine ⟨k, { hp with steps := ?_ }⟩
    have hbit : t.signal.toNat ≤ 1 := Bool.toNat_le t.signal
    simp only [pending, ho, Bool.toNat_true] at hsteps ⊢
    omega
  · refine ⟨k, { hp with steps := ?_, live := nofun }⟩
    simp only [pending, hl, hsig, Bool.toNat_true, Bool.toNat_false, reduceCtorEq, if_true,
      if_false] at hsteps ⊢
    omega
  · cases ha
  · cases ha
  · refine ⟨k, { hp with steps := ?_, live := nofun }⟩
    simp only [pending, hl, reduceCtorEq, if_true, if_false] at hsteps ⊢
    omega
  · obtain ⟨rfl, hheld, hreleased⟩ := released_drain hinv hd hq hr
    obtain ⟨waiting, samples, hw, hroom, hqueue⟩ := Queue.drain_eq_some hq
    have hdrop : s.system.queue.waiting.drop k = i :: waiting := hp.waiting ▸ hw
    have hlt : k < s.system.queue.waiting.length := by
      have hlength := congrArg List.length hdrop
      simp only [List.length_drop, List.length_cons] at hlength
      omega
    have hget : s.system.queue.waiting[k]? = some i := by
      rw [← List.head?_drop, hdrop]
      rfl
    refine ⟨k + 1, ⟨?_, ?_, hlt, ?_, .inr ?_, ?_, ?_, ?_⟩⟩
    · rw [hqueue]
      exact hp.config
    · rw [hqueue, ← List.drop_drop, hdrop]
      rfl
    · rw [hqueue]
      simp only [hp.inflight, Nat.cast_add, Nat.cast_one]
      omega
    · rw [hqueue, ← hp.config]
      simp only
      omega
    · intro j hj
      rw [List.take_add_one, hget, Option.toList_some, List.mem_append, List.mem_singleton] at hj
      rcases hj with hj | rfl
      · rcases hp.released j hj with hrel | ⟨now', hheld'⟩
        · exact .inl (hreleased j hrel)
        · rw [hd] at hheld'
          cases hheld'
      · exact .inr ⟨now, hheld⟩
    · have hwaiting : r.queue.waiting = waiting := by rw [hqueue]
      simp only [pending, hw, hwaiting, hd, hheld, Option.toList_some, Option.toList_none,
        List.length_cons, List.length_nil] at hsteps ⊢
      omega
    · exact hp.live
  · have hreleased {i : ℕ} := released_closeDispatch hinv hr (i := i)
    obtain ⟨i, now, hd, rfl⟩ := DispatchSystem.closeDispatch_eq_some hr
    refine ⟨k, { hp with released := fun j hj => .inl (hreleased (hp.released j hj)), steps := ?_ }⟩
    simp only [pending, hd, Option.toList_some, Option.toList_none, List.length_cons,
      List.length_nil] at hsteps ⊢
    omega

/-- A run of the dispatcher and the owed wakes is progress all along. -/
theorem exists_progress {cfg : QueueConfig} {as bs : List WakeAction} {s t : WakeSystem}
    (hs : exec step (init cfg) as = some s) (ht : exec step s bs = some t)
    (hbs : ∀ b ∈ bs, b.dispatching = true) : ∃ k, s.Progress bs.length t k := by
  refine exec_induction (P := fun bs t => (∀ b ∈ bs, b.dispatching = true) →
    ∃ k, s.Progress bs.length t k) ?_ ?_ ht hbs
  · exact fun _ => ⟨0, progress_refl s⟩
  · intro bs t b u ht ih hb hall
    obtain ⟨k, hk⟩ := ih fun c hc => hall c (List.mem_append_left _ hc)
    have hreach : exec step (init cfg) (as ++ bs) = some t := by rw [exec_append, hs]; exact ht
    have hlast : b.dispatching = true := hall b (by simp)
    simpa using hk.step (inv_system hreach) hlast hb

/-- No step of the dispatcher or of an owed wake is left. -/
def Settled (s : WakeSystem) : Prop := ∀ a : WakeAction, a.dispatching = true → s.step a = none

/-- A settled dispatcher that has not stopped sleeps with nothing announced. -/
theorem Settled.asleep {s : WakeSystem} (hs : s.Settled) (hlive : s.loop ≠ .stopped) :
    s.loop = .selecting ∧ s.signal = false ∧ s.owed = 0 := by
  have howed : s.owed = 0 := by
    cases ho : s.owed with
    | zero => rfl
    | succ owed => simpa [step, ho] using hs .wake rfl
  have hloop : s.loop = .selecting := by
    cases hl : s.loop with
    | selecting => rfl
    | stopped => exact absurd hl hlive
    | draining =>
      -- inside `drain` either the next iteration or the close of a channel is possible
      cases hd : s.system.dispatcher with
      | some d => simpa [step, DispatchSystem.step, hl, hd] using hs .closeDispatch rfl
      | none =>
        have hdrain := hs (.drain 0) rfl
        rcases hq : s.system.queue.drain 0 s.system.enqueuedMono with _ | ⟨i, q⟩
        · simp [step, hl, hd, hq] at hdrain
        · simp [step, DispatchSystem.step, hl, hd, hq] at hdrain
  refine ⟨hloop, ?_, howed⟩
  cases hsig : s.signal with
  | false => rfl
  | true => simpa [step, hloop, hsig] using hs .receive rfl

end WakeSystem

/-- The number of waiting tickets for which a slot is free. -/
def Queue.grantable (q : Queue) : ℕ :=
  min q.waiting.length (q.cfg.maxInflightRequests - q.inflight).toNat

namespace WakeSystem

/-- No wake is lost. From every reachable state of a running dispatcher, the wakes still
owed and the dispatcher stop after a bounded number of steps in whatever order they take
them, without any safety tick; and where they stop, the oldest waiting tickets have been
released to every slot that was free, and no others. -/
theorem no_lost_wakeup (cfg : QueueConfig) {as bs : List WakeAction} {s t : WakeSystem}
    (hs : exec step (init cfg) as = some s) (hlive : s.loop ≠ .stopped)
    (ht : exec step s bs = some t) (hbs : ∀ b ∈ bs, b.dispatching = true) :
    bs.length ≤ s.pending ∧
      (t.Settled →
        t.system.queue.waiting = s.system.queue.waiting.drop s.system.queue.grantable ∧
        t.system.queue.inflight = s.system.queue.inflight + s.system.queue.grantable ∧
        ∀ i ∈ s.system.queue.waiting.take s.system.queue.grantable, Released t.system i) := by
  obtain ⟨k, hk⟩ := exists_progress hs ht hbs
  refine ⟨by have := hk.steps; omega, fun hsettled => ?_⟩
  have hreach : exec step (init cfg) (as ++ bs) = some t := by rw [exec_append, hs]; exact ht
  have hann : t.Announced :=
    exec_invariant (announced_init cfg) (fun _ _ _ h ha => h.step ha) hreach
  have hrunning : t.loop ≠ .stopped := fun hstop => hlive (hk.live hstop)
  obtain ⟨hloop, hsig, howed⟩ := hsettled.asleep hrunning
  have hnone : ¬ t.system.queue.Dispatchable := by
    intro hdis
    rcases hann.wake hrunning hdis with h | h | h
    · rw [hsig] at h
      cases h
    · omega
    · rw [hloop] at h
      cases h
  -- nothing is dispatchable any more, so `k` has reached one of its two bounds
  have hcount : k = s.system.queue.grantable := by
    have hc := hk.count
    have hr := hk.room
    have hi := hk.inflight
    have hstop : t.system.queue.waiting = [] ∨
        t.system.queue.cfg.maxInflightRequests ≤ t.system.queue.inflight := by
      by_contra hcon
      rw [not_or, not_le] at hcon
      exact hnone hcon
    rw [hk.waiting, List.drop_eq_nil_iff, hk.config] at hstop
    rw [Queue.grantable]
    omega
  refine ⟨hcount ▸ hk.waiting, hcount ▸ hk.inflight, fun i hi => ?_⟩
  rw [← hcount] at hi
  rcases hk.released i hi with hrel | ⟨now, hheld⟩
  · exact hrel
  · have hdraining := hann.held (by rw [hheld]; exact nofun)
    rw [hloop] at hdraining
    cases hdraining

/-- A dispatcher that sleeps with nothing announced is settled. -/
theorem settled_of_asleep {s : WakeSystem} (hloop : s.loop = .selecting)
    (hsig : s.signal = false) (howed : s.owed = 0) : s.Settled := by
  intro a ha
  cases a with
  | wake => simp [step, howed]
  | receive => simp [step, hsig]
  | drain now => simp [step, hloop]
  | closeDispatch => simp [step, hloop]
  | party b => cases ha
  | tick => cases ha
  | ctxDone => cases ha

/-- A queue with one slot. -/
def oneSlotConfig : QueueConfig := { defaultQueueConfig with maxInflightRequests := 1 }

/-- Two requests are admitted for one slot, and the dispatcher takes the wake of the first
before the second has sent its own. -/
def burstRun : List WakeAction :=
  [.party (.admission 0 none), .wake, .receive, .party (.admission 1 none)]

/-- The first ticket is handed out, and the late wake finds no free slot. -/
def burstRest : List WakeAction :=
  [.drain 2, .closeDispatch, .wake, .drain 3, .receive, .drain 4]

/-- The burst settles with the first ticket released and the second one waiting. -/
theorem burst_settles :
    ∃ s t, exec step (init oneSlotConfig) burstRun = some s ∧ exec step s burstRest = some t ∧
      s.system.queue.waiting = [0, 1] ∧ t.system.queue.waiting = [1] ∧ Released t.system 0 := by
  have hbefore : ((exec step (init oneSlotConfig) burstRun).map fun s =>
      (s.loop, s.system.queue.waiting, s.system.queue.grantable)) =
        some (.draining, [0, 1], 1) := by
    decide +kernel
  have hafter : (((exec step (init oneSlotConfig) burstRun).bind fun s =>
      exec step s burstRest).map fun t => (t.loop, t.signal, t.owed)) =
        some (.selecting, false, 0) := by
    decide +kernel
  obtain ⟨s, hs, hsobs⟩ := Option.map_eq_some_iff.mp hbefore
  obtain ⟨t, ht, htobs⟩ := Option.map_eq_some_iff.mp hafter
  rw [hs, Option.bind_some] at ht
  simp only [Prod.mk.injEq] at hsobs htobs
  obtain ⟨hwaiting, -, hreleased⟩ := (no_lost_wakeup oneSlotConfig hs (by rw [hsobs.1]; decide) ht
    (by decide)).2 (settled_of_asleep htobs.1 htobs.2.1 htobs.2.2)
  rw [hsobs.2.1, hsobs.2.2] at hwaiting hreleased
  exact ⟨s, t, hs, ht, hsobs.2.1, hwaiting, hreleased 0 (by simp)⟩

end WakeSystem

end GpuSidecar.Dataplane
