import GpuSidecar.Models.Dataplane.Dispatch
import GpuSidecar.Models.Engine.DrainEndpoint
import GpuSidecar.Models.Engine.Readiness

/-!
# The admission gate

The embedding of the gate that `cmd/sidecar/main.go` hands to the queue. `Admit` calls it
while it holds the queue's lock. The gate reads the health of the runtime, the readiness of
the device and its drain flag one after the other, and none of them is guarded by that
lock: a health check, a poll or an operator can change each of them between two reads, and
before the ticket is enqueued. What the gate does promise is a bound. While one of its three
reasons for a refusal persists, at most one ticket is admitted, namely that of an `Admit`
which has read past this reason before it arose.
-/

namespace GpuSidecar.Sidecar

open Dataplane Engine Run

/-- Where an `Admit` that holds the lock stands: before one of the gate's reads, or with the
gate's answer. -/
inductive GateStep where
  | health
  | readiness
  | draining
  | returned (reason : Option QueueError)
  deriving DecidableEq, Repr

/-- The parts of the sidecar that an admission involves. -/
structure GateSystem where
  queue : DispatchSystem
  host : Host
  /-- The outcome of the last health check of the runtime. -/
  healthy : Bool
  /-- The `Admit` that holds the queue's lock, if there is one. -/
  admitting : Option GateStep

/-- What the main function wires together. -/
structure Wiring where
  supervisor : Supervisor
  exp : ℚ → ℚ
  quote : String → String
  bounds : ReadinessBounds
  dpDeviceID : String

inductive GateAction where
  /-- An `Admit` takes the lock and looks whether the queue is closed. -/
  | lock
  /-- The next read of the gate. -/
  | gate (now : ℤ)
  /-- The `Admit` enqueues its ticket or refuses it, and unlocks. -/
  | finish (now : ℤ)
  /-- A step of a handler, the dispatcher or the shutdown. -/
  | party (a : DispatchAction)
  | host (e : HostEvent)
  | checkHealth (up : Bool)

def GateAction.finishes : GateAction → Bool
  | .finish _ => true
  | _ => false

/-- The steps of the other parties that need the queue's lock. -/
def locks : DispatchAction → Bool
  | .admission .. | .drain _ | .close => true
  | .handler _ .removeWaiting | .handler _ .countExpired | .handler _ (.done _) => true
  | .handler .. | .closeDispatch | .closeCancel => false

def isAdmission : DispatchAction → Bool
  | .admission .. => true
  | _ => false

namespace Wiring

/-- The readiness of the device gives its lifecycle state as a reason. -/
def offline (w : Wiring) (h : Host) (now : ℤ) : Bool :=
  match h.deviceReadiness w.bounds w.dpDeviceID now with
  | none => false
  | some st => st.reasons.contains "LIFECYCLE_OFFLINE"

/-- One read of the gate. -/
def readGate (w : Wiring) (s : GateSystem) (now : ℤ) : GateStep → Option GateStep
  | .health =>
    some (if !s.healthy then .returned (some .runtimeUnhealthy) else .readiness)
  | .readiness =>
    some (if w.offline s.host now then .returned (some .backendOffline) else .draining)
  | .draining =>
    some (.returned (if s.host.draining w.dpDeviceID then some .backendDraining else none))
  | .returned _ => none

def step (w : Wiring) (s : GateSystem) : GateAction → Option GateSystem
  | .lock =>
    match s.admitting with
    | some _ => none
    | none => some { s with admitting := if s.queue.queue.closed then none else some .health }
  | .gate now =>
    match s.admitting with
    | none => none
    | some g => (w.readGate s now g).map fun g' => { s with admitting := some g' }
  | .finish now =>
    match s.admitting with
    | some (.returned reason) =>
      (s.queue.step (.admission now reason)).map fun q => { s with queue := q, admitting := none }
    | _ => none
  | .party a =>
    if isAdmission a ∨ locks a ∧ s.admitting.isSome then none
    else (s.queue.step a).map fun q => { s with queue := q }
  | .host e => some { s with host := w.supervisor.react w.exp w.quote s.host e }
  | .checkHealth up => some { s with healthy := up }

def init (cfg : QueueConfig) (h : Host) : GateSystem := ⟨.init cfg, h, false, none⟩

end Wiring

/-- The gate's reasons for a refusal. -/
inductive Barrier where
  | unhealthy
  | offline
  | draining
  deriving DecidableEq, Repr

namespace Barrier

/-- The reason holds now. -/
def up (w : Wiring) (s : GateSystem) : Barrier → Prop
  | .unhealthy => s.healthy = false
  | .offline => ((s.host.devices w.dpDeviceID).bind fun d => d.state.published) = some .offline
  | .draining => s.host.draining w.dpDeviceID = true

/-- Only these actions can end it. A poll need not: it may find the device offline again. -/
def endedBy (w : Wiring) : Barrier → GateAction → Prop
  | .unhealthy, .checkHealth up => up = true
  | .offline, .host (.poll id _ _) => id = w.dpDeviceID
  | .draining, .host e => e.wants w.quote w.dpDeviceID = some false
  | _, _ => False

/-- The gate has read past it. -/
def passed : Barrier → GateStep → Bool
  | _, .returned reason => reason.isNone
  | .unhealthy, g => g = .readiness || g = .draining
  | .offline, g => g = .draining
  | .draining, _ => false

theorem passed_returned (k : Barrier) (reason : Option QueueError) :
    k.passed (.returned reason) = reason.isNone := by
  cases k <;> rfl

end Barrier

/-! ### What one step does -/

/-- A handler neither closes the queue nor refuses an admission. -/
theorem handlerStep_queue {q q' : Queue} {t : ℕ} {tk tk' : Ticket} {b : HandlerStep}
    (h : handlerStep q t tk b = some (q', tk')) :
    q'.closed = q.closed ∧ q'.rejected = q.rejected := by
  cases b with
  | cancelCtx =>
    simp only [handlerStep, Option.some.injEq, Prod.mk.injEq] at h
    rw [← h.1]
    exact ⟨rfl, rfl⟩
  | timerFires | selectDispatch | selectCancel | selectTimeout | done =>
    simp only [handlerStep, Option.ite_none_right_eq_some, Option.some.injEq, Prod.mk.injEq] at h
    rw [← h.2.1]
    exact ⟨rfl, rfl⟩
  | removeWaiting | returnExpired =>
    simp only [handlerStep] at h
    split at h
    · simp only [Option.some.injEq, Prod.mk.injEq] at h
      rw [← h.1]
      exact ⟨rfl, rfl⟩
    · cases h
  | countExpired =>
    simp only [handlerStep] at h
    split at h
    · rename_i why _
      simp only [Option.some.injEq, Prod.mk.injEq] at h
      rw [← h.1]
      cases why <;> exact ⟨rfl, rfl⟩
    · cases h

/-- The parties other than `Admit` neither make a ticket nor refuse one, and only a shutdown
closes the queue. -/
theorem step_of_not_isAdmission {s t : DispatchSystem} {a : DispatchAction}
    (h : s.step a = some t) (ha : isAdmission a = false) :
    t.tickets.length = s.tickets.length ∧ t.queue.rejected = s.queue.rejected ∧
      (locks a = false → t.queue.closed = s.queue.closed) := by
  rcases DispatchSystem.step_cases h with ⟨_, _, _, _, rfl, -⟩ | ⟨_, _, _, rfl, -⟩ |
    ⟨i, b, tk, q, tk', rfl, -, hb, rfl⟩ | ⟨_, rfl, -, -, rfl⟩ | ⟨_, i, q, rfl, -, hq, rfl⟩ |
    ⟨i, _, rfl, -, rfl⟩ | ⟨rfl, rfl⟩ | ⟨i, _, rfl, -, rfl⟩
  · cases ha
  · cases ha
  · obtain ⟨hclosed, hrejected⟩ := handlerStep_queue hb
    exact ⟨List.length_set, hrejected, fun _ => hclosed⟩
  · exact ⟨rfl, rfl, fun _ => rfl⟩
  · obtain ⟨_, _, -, -, rfl⟩ := Queue.drain_eq_some hq
    exact ⟨List.length_modify .., rfl, fun _ => rfl⟩
  · exact ⟨List.length_modify .., rfl, fun _ => rfl⟩
  · exact ⟨rfl, rfl, fun hlock => by cases hlock⟩
  · exact ⟨List.length_modify .., rfl, fun _ => rfl⟩

/-- An admission to an open queue makes a ticket or counts a refusal. -/
theorem step_admission {s t : DispatchSystem} {now : ℤ} {gate : Option QueueError}
    (h : s.step (.admission now gate) = some t) (hopen : s.queue.closed = false) :
    t.tickets.length + t.queue.rejected = s.tickets.length + s.queue.rejected + 1 ∧
      s.tickets.length ≤ t.tickets.length ∧
      t.tickets.length ≤ s.tickets.length + (if gate.isNone then 1 else 0) := by
  simp only [DispatchSystem.step, Queue.admitTicket, hopen, Bool.false_eq_true, if_false] at h
  cases gate with
  | some reason =>
    simp only [Option.some.injEq] at h
    subst h
    exact ⟨rfl, le_rfl, le_rfl⟩
  | none =>
    by_cases hfull : s.queue.cfg.maxQueuedRequests ≤ s.queue.waiting.length
    · simp only [if_pos hfull, Option.some.injEq] at h
      subst h
      exact ⟨rfl, le_rfl, Nat.le_succ _⟩
    · simp only [if_neg hfull, Option.some.injEq] at h
      subst h
      simp only [List.length_append, List.length_singleton]
      exact ⟨by omega, by omega, le_rfl⟩

namespace Wiring

variable {w : Wiring} {s t : GateSystem} {a : GateAction}

/-- What one step of the system can do. -/
theorem step_cases (h : w.step s a = some t) :
    (a = .lock ∧ s.admitting = none ∧ (t = s ∨
      s.queue.queue.closed = false ∧ t = { s with admitting := some .health })) ∨
    (∃ now g g', a = .gate now ∧ s.admitting = some g ∧ w.readGate s now g = some g' ∧
      t = { s with admitting := some g' }) ∨
    (∃ now reason q, a = .finish now ∧ s.admitting = some (.returned reason) ∧
      s.queue.step (.admission now reason) = some q ∧
      t = { s with queue := q, admitting := none }) ∨
    (∃ b q, a = .party b ∧ isAdmission b = false ∧ (locks b = true → s.admitting = none) ∧
      s.queue.step b = some q ∧ t = { s with queue := q }) ∨
    (∃ e, a = .host e ∧ t = { s with host := w.supervisor.react w.exp w.quote s.host e }) ∨
    (∃ up, a = .checkHealth up ∧ t = { s with healthy := up }) := by
  cases a with
  | lock =>
    refine Or.inl ⟨rfl, ?_⟩
    cases hg : s.admitting with
    | some g => simp [step, hg] at h
    | none =>
      refine ⟨rfl, ?_⟩
      simp only [step, hg, Option.some.injEq] at h
      by_cases hclosed : s.queue.queue.closed = true
      · left
        rw [← h, if_pos hclosed, ← hg]
      · right
        exact ⟨Bool.eq_false_of_not_eq_true hclosed, by rw [← h, if_neg hclosed]⟩
  | gate now =>
    refine Or.inr (Or.inl ?_)
    cases hg : s.admitting with
    | none => simp [step, hg] at h
    | some g =>
      simp only [step, hg, Option.map_eq_some_iff] at h
      obtain ⟨g', hread, rfl⟩ := h
      exact ⟨now, g, g', rfl, rfl, hread, rfl⟩
  | finish now =>
    refine Or.inr (Or.inr (Or.inl ?_))
    simp only [step] at h
    split at h
    · rename_i reason hg
      obtain ⟨q, hq, rfl⟩ := Option.map_eq_some_iff.mp h
      exact ⟨now, reason, q, rfl, hg, hq, rfl⟩
    · cases h
  | party b =>
    refine Or.inr (Or.inr (Or.inr (Or.inl ?_)))
    simp only [step, Option.ite_none_left_eq_some, Option.map_eq_some_iff, not_or, not_and] at h
    obtain ⟨⟨hadm, hlock⟩, q, hq, rfl⟩ := h
    exact ⟨b, q, rfl, Bool.eq_false_of_not_eq_true hadm,
      fun hb => Option.not_isSome_iff_eq_none.mp (hlock hb), hq, rfl⟩
  | host e =>
    exact Or.inr (Or.inr (Or.inr (Or.inr (Or.inl ⟨e, rfl, (Option.some.inj h).symm⟩))))
  | checkHealth up =>
    exact Or.inr (Or.inr (Or.inr (Or.inr (Or.inr ⟨up, rfl, (Option.some.inj h).symm⟩))))

/-- While an `Admit` holds the lock, the queue stays open. -/
theorem open_of_admitting {cfg : QueueConfig} {host : Host} {as : List GateAction}
    (h : exec w.step (init cfg host) as = some s) (hs : s.admitting.isSome = true) :
    s.queue.queue.closed = false := by
  refine exec_invariant (P := fun s => s.admitting.isSome = true → s.queue.queue.closed = false)
    (fun hnone => by cases hnone) ?_ h hs
  intro s a t ih hstep hsome
  rcases step_cases hstep with ⟨-, -, rfl | ⟨hopen, rfl⟩⟩ | ⟨_, g, _, -, hg, -, rfl⟩ |
    ⟨_, _, _, -, -, -, rfl⟩ | ⟨b, q, -, hadm, hlock, hq, rfl⟩ | ⟨_, -, rfl⟩ | ⟨_, -, rfl⟩
  · exact ih hsome
  · exact hopen
  · exact ih (by rw [hg]; rfl)
  · cases hsome
  · have hfree : locks b = false := by
      by_contra hb
      rw [hlock (Bool.eq_true_of_not_eq_false hb)] at hsome
      cases hsome
    rw [(step_of_not_isAdmission hq hadm).2.2 hfree]
    exact ih hsome
  · exact ih hsome
  · exact ih hsome

/-! ### Behind a barrier -/

theorem offline_iff (h : Host) (now : ℤ) :
    w.offline h now = true ↔
      ((h.devices w.dpDeviceID).bind fun d => d.state.published) = some .offline := by
  rw [offline, Host.deviceReadiness]
  cases h.devices w.dpDeviceID with
  | none => simp
  | some d =>
    simp only [Option.map_some, Option.bind_some, List.contains_iff_mem]
    exact d.offline_mem_reasons w.bounds w.dpDeviceID now _

/-- The gate does not read past a barrier that is up. -/
theorem readGate_passed {k : Barrier} {now : ℤ} {g g' : GateStep} (hup : k.up w s)
    (h : w.readGate s now g = some g') (hpassed : k.passed g' = true) : k.passed g = true := by
  cases g with
  | health =>
    simp only [readGate, Option.some.injEq] at h
    split at h
    · subst h
      rw [Barrier.passed_returned] at hpassed
      cases hpassed
    · rename_i hhealthy
      subst h
      cases k with
      | unhealthy => exact absurd ((Bool.not_eq_true' _).mpr hup) hhealthy
      | offline | draining => cases hpassed
  | readiness =>
    simp only [readGate, Option.some.injEq] at h
    split at h
    · subst h
      rw [Barrier.passed_returned] at hpassed
      cases hpassed
    · rename_i honline
      subst h
      cases k with
      | unhealthy => rfl
      | offline => exact absurd ((offline_iff s.host now).mpr hup) honline
      | draining => cases hpassed
  | draining =>
    simp only [readGate, Option.some.injEq] at h
    subst h
    rw [Barrier.passed_returned] at hpassed
    cases k with
    | unhealthy | offline => rfl
    | draining =>
      rw [if_pos (show s.host.draining w.dpDeviceID = true from hup)] at hpassed
      cases hpassed
  | returned reason => cases h

/-- A barrier that is up stays up until one of its actions ends it. -/
theorem step_up {k : Barrier} (hup : k.up w s) (h : w.step s a = some t)
    (ha : ¬ k.endedBy w a) : k.up w t := by
  rcases step_cases h with ⟨-, -, rfl | ⟨-, rfl⟩⟩ | ⟨_, _, _, -, -, -, rfl⟩ |
    ⟨_, _, _, -, -, -, rfl⟩ | ⟨_, _, -, -, -, -, rfl⟩ | ⟨e, rfl, rfl⟩ | ⟨up, rfl, rfl⟩
  · exact hup
  · exact hup
  · exact hup
  · exact hup
  · exact hup
  · cases k with
    | unhealthy => exact hup
    | offline =>
      refine (Supervisor.react_published _ _ _ s.host e ?_).trans hup
      rintro p timestamp rfl
      exact ha rfl
    | draining =>
      obtain ⟨d, hd⟩ := Host.exists_of_draining hup
      have hnow := w.supervisor.react_draining w.exp w.quote hd e
      cases hwants : e.wants w.quote w.dpDeviceID with
      | none =>
        rw [hwants] at hnow
        exact hnow.trans hup
      | some on =>
        cases on with
        | false => exact absurd hwants ha
        | true =>
          rw [hwants] at hnow
          exact hnow
  · cases k with
    | unhealthy => exact Bool.eq_false_of_not_eq_true ha
    | offline | draining => exact hup

/-- A barrier stays up through every run without an action that ends it. -/
theorem always_up {k : Barrier} (hup : k.up w s) {as : List GateAction}
    (has : ∀ a ∈ as, ¬ k.endedBy w a) : Always w.step (k.up w) s as := by
  have hmeet : StepsMeet w.step (fun _ a => ¬ k.endedBy w a) s as := by
    intro before a after hsplit _ _
    exact has a (by rw [hsplit]; simp)
  exact always_of_stepsMeet (P := fun s => k.up w s) hup
    (fun _ _ _ hs ha hstep => step_up hs hstep ha) hmeet

/-- The tickets made so far, and one for an `Admit` that has read past the barrier. -/
def due (k : Barrier) (s : GateSystem) : ℕ :=
  s.queue.tickets.length + if s.admitting.any k.passed then 1 else 0

/-- Behind a barrier nothing more becomes due. -/
theorem step_due {k : Barrier} (hup : k.up w s)
    (hopen : s.admitting.isSome = true → s.queue.queue.closed = false)
    (h : w.step s a = some t) : due k t ≤ due k s := by
  rcases step_cases h with ⟨-, hg, rfl | ⟨-, rfl⟩⟩ | ⟨_, g, g', -, hg, hread, rfl⟩ |
    ⟨_, reason, q, -, hg, hq, rfl⟩ | ⟨_, q, -, hadm, -, hq, rfl⟩ | ⟨_, -, rfl⟩ | ⟨_, -, rfl⟩
  · exact le_rfl
  · have hpassed : k.passed .health = false := by cases k <;> rfl
    simp [due, hg, hpassed]
  · simp only [due, hg, Option.any_some]
    by_cases hpassed : k.passed g' = true
    · rw [if_pos hpassed, if_pos (readGate_passed hup hread hpassed)]
    · rw [if_neg hpassed]
      omega
  · have hbound := (step_admission hq (hopen (by rw [hg]; rfl))).2.2
    simpa [due, hg, Barrier.passed_returned] using hbound
  · simp only [due, (step_of_not_isAdmission hq hadm).1]
    exact le_rfl
  · exact le_rfl
  · exact le_rfl

/-- Every `Admit` that runs past the look at the queue to its end makes a ticket or counts a
refusal. -/
theorem step_ledger (hopen : s.admitting.isSome = true → s.queue.queue.closed = false)
    (h : w.step s a = some t) :
    t.queue.tickets.length + t.queue.queue.rejected =
      s.queue.tickets.length + s.queue.queue.rejected + if a.finishes then 1 else 0 := by
  rcases step_cases h with ⟨rfl, -, rfl | ⟨-, rfl⟩⟩ | ⟨_, _, _, rfl, -, -, rfl⟩ |
    ⟨_, reason, q, rfl, hg, hq, rfl⟩ | ⟨_, q, rfl, hadm, -, hq, rfl⟩ | ⟨_, rfl, rfl⟩ | ⟨_, rfl, rfl⟩
  · rfl
  · rfl
  · rfl
  · exact (step_admission hq (hopen (by rw [hg]; rfl))).1
  · obtain ⟨htickets, hrejected, -⟩ := step_of_not_isAdmission hq hadm
    simp only [htickets, hrejected]
    rfl
  · rfl
  · rfl

/-- From any reachable state, for every interleaving of admissions, gate reads, health checks,
polls, drain requests, handlers, dispatcher and shutdown through which the runtime stays
unhealthy, the device offline or the device drained: at most one ticket has been made, only
for an `Admit` whose gate had read past the condition before. Every other `Admit` that had
found the queue open and came to its end was counted as refused. -/
theorem admissions_behind_barrier {cfg : QueueConfig} {host : Host} {bs : List GateAction}
    (hreach : exec w.step (init cfg host) bs = some s) {k : Barrier} {as : List GateAction}
    (h : exec w.step s as = some t) (hup : Always w.step (k.up w) s as) :
    t.queue.tickets.length ≤
        s.queue.tickets.length + (if s.admitting.any k.passed then 1 else 0) ∧
      t.queue.tickets.length + t.queue.queue.rejected =
        s.queue.tickets.length + s.queue.queue.rejected + as.countP GateAction.finishes := by
  suffices hinv : due k t ≤ due k s ∧ t.queue.tickets.length + t.queue.queue.rejected =
      s.queue.tickets.length + s.queue.queue.rejected + as.countP GateAction.finishes from
    ⟨(Nat.le_add_right _ _).trans hinv.1, hinv.2⟩
  induction as using List.reverseRecOn generalizing t with
  | nil =>
    rw [exec_nil, Option.some.injEq] at h
    subst h
    exact ⟨le_rfl, rfl⟩
  | append_singleton as a ih =>
    obtain ⟨r, hr, hlast⟩ := exec_concat_eq_some.mp h
    obtain ⟨hbefore, -⟩ := (always_concat h).mp hup
    obtain ⟨hdue, hledger⟩ := ih hr hbefore
    have hrun : exec w.step (init cfg host) (bs ++ as) = some r := by
      rw [exec_append, hreach]
      exact hr
    have hopen := fun hsome => open_of_admitting hrun hsome
    have hupr : k.up w r := hbefore as [] (by simp) r hr
    refine ⟨(step_due hupr hopen hlast).trans hdue, ?_⟩
    rw [step_ledger hopen hlast, hledger, List.countP_append, List.countP_singleton, add_assoc]

end Wiring

/-- A sidecar with one device. -/
def oneDevice : Wiring where
  supervisor := smallSupervisor
  exp := fun _ => 1
  quote := id
  bounds := defaultReadinessBounds
  dpDeviceID := "0"

/-- An operator drains the device just after the gate has read its flag. -/
def lateDrain : List GateAction :=
  [.checkHealth true, .lock, .gate 0, .gate 0, .gate 0,
    .host (.drain (formRequest "POST" "true") 0)]

/-- The `Admit` that was under way comes to its end, and then another one. -/
def twoAdmits : List GateAction := [.finish 1, .lock, .gate 2, .gate 2, .gate 2, .finish 2]

/-- After the drain the first of them still makes its ticket, and the other one is refused. -/
theorem lateDrain_admits :
    ∃ s t, exec oneDevice.step (Wiring.init defaultQueueConfig (smallSupervisor.initHost [] ["0"]))
        lateDrain = some s ∧ exec oneDevice.step s twoAdmits = some t ∧
      Barrier.draining.up oneDevice s ∧
      s.queue.tickets.length = 0 ∧ t.queue.tickets.length = 1 ∧ t.queue.queue.rejected = 1 := by
  have hbefore : (exec oneDevice.step
      (Wiring.init defaultQueueConfig (smallSupervisor.initHost [] ["0"])) lateDrain).map
        (fun s => (s.host.draining "0", s.queue.tickets.length, s.queue.queue.rejected)) =
          some (true, 0, 0) := by decide +kernel
  have hafter : (exec oneDevice.step
      (Wiring.init defaultQueueConfig (smallSupervisor.initHost [] ["0"]))
        (lateDrain ++ twoAdmits)).map (fun t => t.queue.tickets.length) = some 1 := by
    decide +kernel
  obtain ⟨s, hs, hvalues⟩ := Option.map_eq_some_iff.mp hbefore
  simp only [Prod.mk.injEq] at hvalues
  obtain ⟨hdraining, htickets, hrejected⟩ := hvalues
  rw [exec_append, hs, Option.bind_some] at hafter
  obtain ⟨t, ht, hmade⟩ := Option.map_eq_some_iff.mp hafter
  have hup : Always oneDevice.step (Barrier.draining.up oneDevice) s twoAdmits :=
    Wiring.always_up (w := oneDevice) (k := .draining) hdraining
      (by simp [twoAdmits, Barrier.endedBy])
  obtain ⟨-, hledger⟩ := Wiring.admissions_behind_barrier hs ht hup
  have hfinished : twoAdmits.countP GateAction.finishes = 2 := rfl
  exact ⟨s, t, hs, ht, hdraining, htickets, hmade, by omega⟩

end GpuSidecar.Sidecar
