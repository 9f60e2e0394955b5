import GpuSidecar.Core.Run.Guarded
import GpuSidecar.Models.Engine.Recording

/-!
# The transition log under concurrent drains

A poll reads the state of its device, steps the machine and appends its events, each
under a lock of its own, and `SetDraining` sets the flag and then appends its event.
The poll loop and the operators' calls are the parties of a guarded transition system
whose atomic steps are these critical sections. The log is a chain, every transition
starting where the one before it ended, exactly if each drain event is appended while
the log stands at the state that its call has read.
-/

namespace GpuSidecar.Engine

open Lifecycle Run

/-! ### The parties and their critical sections -/

/-- How far the poll loop has come with its poll. -/
inductive PollPhase where
  | idle
  /-- The state has been read. -/
  | read (prevState : LifecycleState)
  /-- The machine has been stepped, and these events are still to be appended. -/
  | appending (queue : List Event)
  deriving DecidableEq

/-- A device, its poll loop, and the events of the drain calls that have set the flag and are
still to append them. -/
structure AuditState where
  device : DeviceState
  poll : PollPhase
  drains : List Event

/-- The critical sections of the poll loop and of the drain calls. -/
inductive AuditAction where
  | pollRead
  | pollStep (p : Probe)
  | pollAppend
  | pollReturn
  | drainCheck (d : Bool) (source : String) (now : ℤ)
  | drainAppend (i : ℕ)
  deriving DecidableEq

/-- A transition event takes its `From` from the state that the poll has read before. -/
def Event.readFrom (prevState : LifecycleState) (e : Event) : Event :=
  if e.kind = .stateTransition then { e with fromState := some prevState } else e

namespace AuditState

/-- The device's stored events, the oldest first. -/
def log (a : AuditState) : List Event := a.device.hist.events.items

/-- Appends an event. A run ends before the ring wraps. -/
def append (a : AuditState) (e : Event) : Option AuditState :=
  if a.device.hist.events.size < a.device.hist.events.cap then
    some { a with device := a.device.addEvent e }
  else none

end AuditState

namespace Supervisor

open DeviceState

/-- One critical section. -/
def audit (s : Supervisor) (exp : ℚ → ℚ) (a : AuditState) : AuditAction → Option AuditState
  | .pollRead =>
    match a.poll with
    | .idle => some { a with poll := .read a.device.machine.state }
    | _ => none
  | .pollStep p =>
    match a.poll with
    | .read prevState => some { a with
        device := withoutEvents (fun ds => s.pollDevice exp ds p) a.device
        poll := .appending ((eventsOf (fun ds => s.pollDevice exp ds p) a.device).map
          (Event.readFrom prevState)) }
    | _ => none
  | .pollAppend =>
    match a.poll with
    | .appending (e :: queue) => { a with poll := .appending queue }.append e
    | _ => none
  | .pollReturn =>
    match a.poll with
    | .appending [] => some { a with poll := .idle }
    | _ => none
  | .drainCheck d source now => some { a with
      device := withoutEvents (fun ds => ds.setDraining d source now) a.device
      drains := a.drains ++ eventsOf (fun ds => ds.setDraining d source now) a.device }
  | .drainAppend i =>
    match a.drains[i]? with
    | some e => { a with drains := a.drains.eraseIdx i }.append e
    | none => none

/-- A newly discovered device. -/
def auditInit (s : Supervisor) (deviceID : String) : AuditState := ⟨s.init deviceID, .idle, []⟩

end Supervisor

/-! ### Undisturbed calls -/

/-- Events that already start at the state read are left alone. -/
theorem map_readFrom_of_edges {prevState : LifecycleState} {es : List Event}
    (h : ∀ step ∈ edges es, step.1 = some prevState) : es.map (Event.readFrom prevState) = es := by
  refine (List.map_congr_left fun e he => ?_).trans (List.map_id es)
  by_cases hkind : e.kind = .stateTransition
  · rw [Event.readFrom, if_pos hkind, ← h _ (mem_edges he hkind)]
    rfl
  · exact if_neg hkind

namespace Supervisor

open DeviceState

/-- The poll loop appends its queue. -/
theorem exec_pollAppend (s : Supervisor) (exp : ℚ → ℚ) {ds : DeviceState} {queue : List Event}
    (hroom : ds.hist.events.size + queue.length ≤ ds.hist.events.cap) (drains : List Event) :
    exec (s.audit exp) ⟨ds, .appending queue, drains⟩
        (List.replicate queue.length .pollAppend ++ [.pollReturn]) =
      some ⟨queue.foldl addEvent ds, .idle, drains⟩ := by
  induction queue generalizing ds with
  | nil => rfl
  | cons e queue ih =>
    rw [List.length_cons] at hroom
    have hlt : ds.hist.events.size < ds.hist.events.cap := by omega
    have hstep : s.audit exp ⟨ds, .appending (e :: queue), drains⟩ .pollAppend =
        some ⟨ds.addEvent e, .appending queue, drains⟩ := if_pos hlt
    have hroom' : (ds.addEvent e).hist.events.size + queue.length ≤
        (ds.addEvent e).hist.events.cap := by
      have hsize : (ds.addEvent e).hist.events.size = ds.hist.events.size + 1 :=
        RingBuffer.size_push_of_lt hlt e
      rw [hsize]
      exact (by omega : ds.hist.events.size + 1 + queue.length ≤ ds.hist.events.cap)
    rw [List.length_cons, List.replicate_succ, List.cons_append, exec, hstep]
    exact ih hroom'

/-- A poll between which and its end nothing else happens is a poll of the sequential model. -/
theorem exec_poll (s : Supervisor) (exp : ℚ → ℚ) (ds : DeviceState) (p : Probe)
    (drains : List Event)
    (hroom : ds.hist.events.size + (eventsOf (fun ds => s.pollDevice exp ds p) ds).length ≤
      ds.hist.events.cap) :
    exec (s.audit exp) ⟨ds, .idle, drains⟩
        (.pollRead :: .pollStep p ::
          (List.replicate (eventsOf (fun ds => s.pollDevice exp ds p) ds).length .pollAppend ++
            [.pollReturn])) =
      some ⟨s.pollDevice exp ds p, .idle, drains⟩ := by
  obtain ⟨-, hedges, hfold⟩ := (s.logs_pollDevice exp ds p).eventsOf (by decide)
  have hqueue : (eventsOf (fun ds => s.pollDevice exp ds p) ds).map
      (Event.readFrom ds.machine.state) = eventsOf (fun ds => s.pollDevice exp ds p) ds := by
    apply map_readFrom_of_edges
    rw [hedges]
    split <;> simp
  have hstep : s.audit exp ⟨ds, .read ds.machine.state, drains⟩ (.pollStep p) =
      some ⟨withoutEvents (fun ds => s.pollDevice exp ds p) ds,
        .appending (eventsOf (fun ds => s.pollDevice exp ds p) ds), drains⟩ := by
    simp only [audit, hqueue]
  rw [exec, show s.audit exp ⟨ds, .idle, drains⟩ .pollRead =
    some ⟨ds, .read ds.machine.state, drains⟩ from rfl, Option.bind_some, exec, hstep,
    Option.bind_some]
  refine (s.exec_pollAppend exp ?_ drains).trans (by rw [hfold])
  exact hroom

/-- A drain call between whose check and whose append nothing else happens is a call of the
sequential model. -/
theorem exec_setDraining (s : Supervisor) (exp : ℚ → ℚ) (ds : DeviceState) (poll : PollPhase)
    (drains : List Event) (d : Bool) (source : String) (now : ℤ)
    (hroom : ds.hist.events.size < ds.hist.events.cap) :
    exec (s.audit exp) ⟨ds, poll, drains⟩
        (.drainCheck d source now :: List.replicate
          (eventsOf (fun ds => ds.setDraining d source now) ds).length
          (.drainAppend drains.length)) =
      some ⟨ds.setDraining d source now, poll, drains⟩ := by
  obtain ⟨hlen, -, hfold⟩ := (logs_setDraining ds d source now).eventsOf (by split <;> decide)
  have hone : (eventsOf (fun ds => ds.setDraining d source now) ds).length ≤ 1 :=
    hlen.trans (by split <;> decide)
  rw [exec, audit, Option.bind_some]
  rcases hes : eventsOf (fun ds => ds.setDraining d source now) ds with _ | ⟨e, es⟩
  · rw [hes] at hfold
    simp [← hfold]
  · obtain rfl : es = [] := by
      rw [hes, List.length_cons] at hone
      exact List.length_eq_zero_iff.mp (by omega)
    rw [hes] at hfold
    have happ : s.audit exp ⟨withoutEvents (fun ds => ds.setDraining d source now) ds, poll,
        drains ++ [e]⟩ (.drainAppend drains.length) =
          some ⟨ds.setDraining d source now, poll, drains⟩ := by
      simp only [audit, List.getElem?_concat_length, AuditState.append,
        List.eraseIdx_append_of_length_le (Nat.le_refl _), Nat.sub_self, List.eraseIdx_cons_zero,
        List.append_nil]
      rw [← hfold]
      exact if_pos hroom
    rw [List.length_singleton, List.replicate_one, exec, happ]
    rfl

end Supervisor

/-! ### The chain -/

/-- The state that the last transition of a log leads to. -/
def lastTo (es : List Event) : LifecycleState :=
  ((edges es).getLast?.bind Prod.snd).getD .unknown

/-- Every transition starts where the one before it ended, and the first one at UNKNOWN. -/
def Chained (es : List Event) : Prop :=
  ∀ before e after, es = before ++ e :: after → e.kind = .stateTransition →
    e.fromState = some (lastTo before)

theorem chained_nil : Chained [] := by
  intro before e after h
  simp at h

theorem chained_concat (es : List Event) (e : Event) :
    Chained (es ++ [e]) ↔
      Chained es ∧ (e.kind = .stateTransition → e.fromState = some (lastTo es)) := by
  constructor
  · intro h
    exact ⟨fun before e' after he => h before e' (after ++ [e]) (by rw [he]; simp),
      h es e [] rfl⟩
  · rintro ⟨h, hlast⟩ before e' after he
    rcases List.eq_nil_or_concat after with rfl | ⟨after', c, rfl⟩
    · obtain ⟨rfl, rfl⟩ := List.append_singleton_inj.mp he
      exact hlast
    · have he' : es ++ [e] = (before ++ e' :: after') ++ [c] := by simpa using he
      exact h before e' after' (List.append_singleton_inj.mp he').1

theorem lastTo_concat_of_ne {e : Event} (h : e.kind ≠ .stateTransition) (es : List Event) :
    lastTo (es ++ [e]) = lastTo es := by
  rw [lastTo, edges_append, edges_cons_of_ne h]
  simp [lastTo, edges]

theorem lastTo_concat_of_eq {e : Event} (h : e.kind = .stateTransition) {state : LifecycleState}
    (hto : e.toState = some state) (es : List Event) : lastTo (es ++ [e]) = state := by
  rw [lastTo, edges_append, edges_cons_of_eq h, hto]
  simp [edges]

/-- Only the beginning of the events' transitions changes. -/
theorem edges_readFrom (prevState : LifecycleState) (es : List Event) :
    edges (es.map (Event.readFrom prevState)) =
      (edges es).map fun step => (some prevState, step.2) := by
  induction es with
  | nil => rfl
  | cons e es ih =>
    by_cases h : e.kind = .stateTransition
    · have hread : e.readFrom prevState = { e with fromState := some prevState } := if_pos h
      rw [List.map_cons, edges_cons_of_eq (by rw [hread]; exact h), edges_cons_of_eq h,
        List.map_cons, ih, hread]
    · have hread : e.readFrom prevState = e := if_neg h
      rw [List.map_cons, hread, edges_cons_of_ne h, edges_cons_of_ne h, ih]

namespace AuditState

/-- The transitions that the poll has still to append. -/
def pending (a : AuditState) : List (Option LifecycleState × Option LifecycleState) :=
  match a.poll with
  | .appending queue => edges queue
  | _ => []

/-- The state that the appended transitions account for: the one that the poll's pending
transition leaves, or else the machine's. -/
def accounted (a : AuditState) : LifecycleState :=
  match a.pending with
  | (some prevState, _) :: _ => prevState
  | _ => a.device.machine.state

theorem pending_of_appending {a : AuditState} {queue : List Event}
    (h : a.poll = .appending queue) : a.pending = edges queue := by
  rw [pending, h]

theorem accounted_of_nil {a : AuditState} (h : a.pending = []) :
    a.accounted = a.device.machine.state := by
  rw [accounted, h]

theorem accounted_of_cons {a : AuditState} {prevState : LifecycleState}
    {next : Option LifecycleState} {rest : List (Option LifecycleState × Option LifecycleState)}
    (h : a.pending = (some prevState, next) :: rest) : a.accounted = prevState := by
  rw [accounted, h]

/-- What holds between critical sections. -/
structure Consistent (a : AuditState) : Prop where
  read : ∀ prevState, a.poll = .read prevState → prevState = a.device.machine.state
  pending : a.pending = [] ∨
    ∃ prevState, a.pending = [(some prevState, some a.device.machine.state)]
  drains : ∀ e ∈ a.drains, e.kind = .stateTransition ∧
    ∃ state, e.fromState = some state ∧ e.toState = some state
  log : Chained a.log → lastTo a.log = a.accounted

theorem append_eq_some {a t : AuditState} {e : Event} (h : a.append e = some t) :
    t = { a with device := a.device.addEvent e } ∧ t.log = a.log ++ [e] := by
  rw [append] at h
  split at h
  · rename_i hroom
    cases h
    exact ⟨rfl, RingBuffer.items_push_of_lt hroom e⟩
  · cases h

/-- A drain event is appended while the log accounts for the state that its call has read. -/
def InStep (a : AuditState) : AuditAction → Prop
  | .drainAppend i => ∀ e, a.drains[i]? = some e → e.fromState = some a.accounted
  | _ => True

end AuditState

namespace AuditState

open DeviceState

variable {s : Supervisor} {exp : ℚ → ℚ} {a t : AuditState}

/-- The step of the machine leaves the state, or the poll's queue announces the change. -/
theorem spec_pollStep {p : Probe} (hI : a.Consistent)
    (h : s.audit exp a (.pollStep p) = some t) : t.Consistent ∧ t.log = a.log := by
  simp only [Supervisor.audit] at h
  split at h
  · rename_i prevState hread
    have hprev := hI.read prevState hread
    have hacc : a.accounted = a.device.machine.state :=
      accounted_of_nil (by rw [AuditState.pending, hread])
    have hedges := ((s.logs_pollDevice exp a.device p).eventsOf (by decide)).2.1
    have htrans := a.device.machine.step_transitioned (s.observation exp a.device p)
    cases h
    have hmachine : (withoutEvents (fun ds => s.pollDevice exp ds p) a.device).machine =
      (a.device.machine.step (s.observation exp a.device p)).1 :=
        (s.pollDevice_outages exp a.device p).1
    have hpend := (pending_of_appending (a := ⟨withoutEvents (fun ds => s.pollDevice exp ds p)
      a.device, _, a.drains⟩) rfl).trans ((edges_readFrom prevState _).trans
        (congrArg (List.map _) hedges))
    refine ⟨⟨fun _ hread' => (by cases hread'), ?_, hI.drains, fun hch => ?_⟩, rfl⟩
    · rw [hpend]
      split
      · exact Or.inr ⟨prevState, by rw [hmachine]; rfl⟩
      · exact Or.inl rfl
    · refine (hI.log hch).trans (hacc.trans ?_)
      rcases hstep : (a.device.machine.step (s.observation exp a.device p)).2 with _ | _
      · rw [hstep, if_neg Bool.false_ne_true] at hpend
        have hsame : a.device.machine.state =
            (a.device.machine.step (s.observation exp a.device p)).1.state := by
          simpa [hstep] using htrans
        exact hsame.trans ((congrArg LifecycleMachine.state hmachine).symm.trans
          (accounted_of_nil hpend).symm)
      · rw [hstep, if_pos rfl] at hpend
        exact hprev.symm.trans (accounted_of_cons hpend).symm
  · cases h

/-- The poll's own events continue the chain. -/
theorem spec_pollAppend (hI : a.Consistent) (h : s.audit exp a .pollAppend = some t) :
    t.Consistent ∧ (Chained a.log → Chained t.log) := by
  simp only [Supervisor.audit] at h
  split at h
  · rename_i e queue hpoll
    have hpend := pending_of_appending hpoll
    obtain ⟨ht, hlog⟩ := append_eq_some h
    have hlog' : t.log = a.log ++ [e] := hlog
    have hpend' : t.pending = edges queue := by rw [ht]; rfl
    have hmachine : t.device.machine = a.device.machine := by rw [ht]; rfl
    have hread : ∀ prevState, t.poll ≠ .read prevState := by
      intro prevState
      rw [ht]
      exact fun h => by cases h
    have hdrains : t.drains = a.drains := by rw [ht]
    by_cases hkind : e.kind = .stateTransition
    · rw [edges_cons_of_eq hkind] at hpend
      obtain hnil | ⟨prevState, hsingle⟩ := hI.pending
      · cases hpend.symm.trans hnil
      · have hcons := List.cons_eq_cons.mp (hpend.symm.trans hsingle)
        obtain ⟨hfrom, hto⟩ := Prod.ext_iff.mp hcons.1
        have hnone : t.pending = [] := hpend'.trans hcons.2
        have hacc : a.accounted = prevState := accounted_of_cons hsingle
        refine ⟨⟨fun q hq => absurd hq (hread q), Or.inl hnone, hdrains ▸ hI.drains, ?_⟩, ?_⟩
        · intro _
          rw [hlog', lastTo_concat_of_eq hkind hto, accounted_of_nil hnone, hmachine]
        · intro hch
          rw [hlog', chained_concat]
          refine ⟨hch, fun _ => hfrom.trans ?_⟩
          rw [hI.log hch, hacc]
    · rw [edges_cons_of_ne hkind, ← hpend'] at hpend
      have hacc : t.accounted = a.accounted := by
        rw [accounted, accounted, hpend, hmachine]
      have hchain : Chained t.log ↔ Chained a.log := by
        rw [hlog', chained_concat]
        exact and_iff_left fun h => absurd h hkind
      refine ⟨⟨fun q hq => absurd hq (hread q), ?_, hdrains ▸ hI.drains, ?_⟩, hchain.mpr⟩
      · rw [← hpend, hmachine]
        exact hI.pending
      · intro hch
        rw [hlog', lastTo_concat_of_ne hkind, hacc]
        exact hI.log (hchain.mp hch)
  · cases h

/-- A drain event continues the chain exactly if the log accounts for its state. -/
theorem spec_drainAppend {i : ℕ} (hI : a.Consistent)
    (h : s.audit exp a (.drainAppend i) = some t) :
    t.Consistent ∧ (Chained a.log → (Chained t.log ↔ a.InStep (.drainAppend i))) := by
  simp only [Supervisor.audit] at h
  split at h
  · rename_i e he
    obtain ⟨rfl, hlog⟩ := append_eq_some h
    obtain ⟨hkind, state, hfrom, hto⟩ := hI.drains e (List.mem_of_getElem? he)
    have hlast : lastTo (a.log ++ [e]) = state := lastTo_concat_of_eq hkind hto a.log
    have hchain : Chained (a.log ++ [e]) ↔ Chained a.log ∧ state = lastTo a.log := by
      rw [chained_concat, hfrom, Option.some_inj]
      simp only [hkind, forall_const]
    constructor
    · refine ⟨hI.read, hI.pending, fun e' he' => hI.drains e' (List.mem_of_mem_eraseIdx he'), ?_⟩
      rw [hlog]
      intro hch
      obtain ⟨hch, hstate⟩ := hchain.mp hch
      exact hlast.trans (hstate.trans (hI.log hch))
    · intro hch
      rw [hlog]
      refine hchain.trans ?_
      rw [and_iff_right hch, hI.log hch]
      constructor
      · intro hstate e' he'
        cases he.symm.trans he'
        rw [hfrom, hstate]
      · intro hstep
        have := hstep e he
        rwa [hfrom, Option.some_inj] at this
  · cases h

/-- A step keeps the invariant, and from a chain it leads to a chain exactly if it is in
step. -/
theorem spec_audit (act : AuditAction) (hI : a.Consistent) (h : s.audit exp a act = some t) :
    t.Consistent ∧ (Chained a.log → (Chained t.log ↔ a.InStep act)) := by
  cases act with
  | pollRead =>
    simp only [Supervisor.audit] at h
    split at h
    · rename_i hidle
      cases h
      have hpend : a.pending = [] := by rw [AuditState.pending, hidle]
      refine ⟨⟨fun _ hread => ?_, Or.inl rfl, hI.drains, fun hch => ?_⟩,
        fun hch => iff_of_true hch trivial⟩
      · cases hread
        rfl
      · exact (hI.log hch).trans (accounted_of_nil hpend)
    · cases h
  | pollStep p =>
    obtain ⟨hI', hlog⟩ := spec_pollStep hI h
    exact ⟨hI', fun hch => iff_of_true (hlog ▸ hch) trivial⟩
  | pollAppend =>
    obtain ⟨hI', hchain⟩ := spec_pollAppend hI h
    exact ⟨hI', fun hch => iff_of_true (hchain hch) trivial⟩
  | pollReturn =>
    simp only [Supervisor.audit] at h
    split at h
    · rename_i hpoll
      cases h
      have hpend : a.pending = [] := pending_of_appending hpoll
      refine ⟨⟨fun _ hread => (by cases hread), Or.inl rfl, hI.drains, fun hch => ?_⟩,
        fun hch => iff_of_true hch trivial⟩
      exact (hI.log hch).trans (accounted_of_nil hpend)
    · cases h
  | drainCheck d source now =>
    simp only [Supervisor.audit, Option.some_inj] at h
    have hstate : t.device.machine.state = a.device.machine.state := by
      rw [← h]
      exact setDraining_state a.device d source now
    have hpend : t.pending = a.pending := by rw [← h]; rfl
    have hpoll : t.poll = a.poll := by rw [← h]
    have hlog : t.log = a.log := by rw [← h]; rfl
    refine ⟨⟨?_, ?_, ?_, ?_⟩, fun hch => iff_of_true (hlog ▸ hch) trivial⟩
    · rw [hpoll, hstate]
      exact hI.read
    · rw [hpend, hstate]
      exact hI.pending
    · rw [← h]
      intro e he
      rcases List.mem_append.mp he with he | he
      · exact hI.drains e he
      · obtain ⟨hkind, hfrom, hto⟩ := mem_eventsOf_setDraining he
        exact ⟨hkind, _, hfrom, hto⟩
    · rw [hlog, accounted, hpend, hstate]
      exact hI.log
  | drainAppend i => exact spec_drainAppend hI h

end AuditState

namespace Supervisor

/-- In every interleaving of a device's polls with drain calls that does not fill the ring, the
log is a chain at all times exactly if every drain event is appended while the log accounts
for the state that its call has read. -/
theorem log_chained_iff (s : Supervisor) (exp : ℚ → ℚ) (deviceID : String)
    {acts : List AuditAction} {a : AuditState}
    (h : exec (s.audit exp) (s.auditInit deviceID) acts = some a) :
    Always (s.audit exp) (fun a => Chained a.log) (s.auditInit deviceID) acts ↔
      StepsMeet (s.audit exp) AuditState.InStep (s.auditInit deviceID) acts := by
  refine always_iff_stepsMeet (I := AuditState.Consistent) ?_ ?_ ?_ ?_ h
  · exact ⟨fun _ hread => (by cases hread), Or.inl rfl, fun _ he => (by cases he), fun _ => rfl⟩
  · intro a act t hI hstep
    exact (AuditState.spec_audit act hI hstep).1
  · exact chained_nil
  · intro a act t hI hch hstep
    exact (AuditState.spec_audit act hI hstep).2 hch

/-- A drain call sets the flag and appends its event between the read of a poll and its step.
The poll finds the device gone and logs the transition to OFFLINE. -/
def drainWithinPoll : List AuditAction :=
  [.pollRead, .drainCheck true "api" 0, .drainAppend 0,
    .pollStep (plainTurn true .unsup 0).probe, .pollAppend, .pollAppend, .pollAppend, .pollReturn]

/-- The log holds both transitions and is a chain at all times. -/
theorem log_chained_drainWithinPoll :
    ∃ a, exec (smallSupervisor.audit fun _ => 1) (smallSupervisor.auditInit "0")
        drainWithinPoll = some a ∧
      edges a.log = [(some .unknown, some .unknown), (some .unknown, some .offline)] ∧
      Always (smallSupervisor.audit fun _ => 1) (fun a => Chained a.log)
        (smallSupervisor.auditInit "0") drainWithinPoll := by
  have hrun : (exec (smallSupervisor.audit fun _ => 1) (smallSupervisor.auditInit "0")
      drainWithinPoll).map (fun a => edges a.log) =
        some [(some .unknown, some .unknown), (some .unknown, some .offline)] := by
    decide +kernel
  obtain ⟨a, ha, hlog⟩ := Option.map_eq_some_iff.mp hrun
  refine ⟨a, ha, hlog, (log_chained_iff smallSupervisor (fun _ => 1) "0" ha).mpr ?_⟩
  -- only the third step appends a drain event
  refine stepsMeet_cons.mpr ⟨trivial, fun t ht => stepsMeet_cons.mpr ⟨trivial, fun u hu =>
    stepsMeet_cons.mpr ⟨fun e he => ?_, fun _ _ => stepsMeet_cons.mpr ⟨trivial, fun _ _ =>
      stepsMeet_cons.mpr ⟨trivial, fun _ _ => stepsMeet_cons.mpr ⟨trivial, fun _ _ =>
        stepsMeet_cons.mpr ⟨trivial, fun _ _ => stepsMeet_cons.mpr ⟨trivial, fun _ _ =>
          stepsMeet_nil _ _ _⟩⟩⟩⟩⟩⟩⟩⟩
  cases ht
  cases hu
  obtain ⟨-, hfrom, -⟩ := DeviceState.mem_eventsOf_setDraining (List.mem_of_getElem? he)
  rw [hfrom, AuditState.accounted_of_nil rfl]
  exact congrArg some (DeviceState.setDraining_state _ true "api" 0).symm

/-- A drain call reads UNKNOWN, the first poll finds the device gone and logs the transition to
OFFLINE, and then the call appends its event from UNKNOWN. -/
theorem lateDrain_not_chained :
    ∃ a, exec (smallSupervisor.audit fun _ => 1) (smallSupervisor.auditInit "0")
        [.drainCheck true "api" 0, .pollRead, .pollStep (plainTurn true .unsup 0).probe,
          .pollAppend, .pollAppend, .pollAppend, .pollReturn, .drainAppend 0] = some a ∧
      edges a.log = [(some .unknown, some .offline), (some .unknown, some .unknown)] ∧
      ¬ Chained a.log := by
  have hrun : (exec (smallSupervisor.audit fun _ => 1) (smallSupervisor.auditInit "0")
      [.drainCheck true "api" 0, .pollRead, .pollStep (plainTurn true .unsup 0).probe,
        .pollAppend, .pollAppend, .pollAppend, .pollReturn, .drainAppend 0]).map (fun a =>
          (edges a.log, lastTo a.log.dropLast, a.log.getLast?.map fun e => (e.kind, e.fromState))) =
      some ([(some .unknown, some .offline), (some .unknown, some .unknown)], .offline,
        some (.stateTransition, some .unknown)) := by
    decide +kernel
  obtain ⟨a, ha, hlog⟩ := Option.map_eq_some_iff.mp hrun
  simp only [Prod.mk.injEq, Option.map_eq_some_iff] at hlog
  obtain ⟨hedges, hbefore, e, he, hkind, hfrom⟩ := hlog
  refine ⟨a, ha, hedges, fun hch => ?_⟩
  rw [← List.dropLast_append_getLast? e he, chained_concat] at hch
  have hlast := hch.2 hkind
  rw [hfrom, hbefore] at hlast
  cases hlast

end Supervisor

end GpuSidecar.Engine
