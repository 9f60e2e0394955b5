import GpuSidecar.Models.Engine.Outages

/-!
# The events that a device records

A poll and a drain call append events to the ring of their device and never read it.
This file says which events: whatever the ring holds, the same ones are appended, and
among them a poll appends at most one transition, the one that its step of the machine
made.
-/

namespace GpuSidecar.Engine

open Lifecycle

/-- The states that the transitions among the events lead from and to. -/
def edges (es : List Event) : List (Option LifecycleState × Option LifecycleState) :=
  (es.filter fun e => e.kind = .stateTransition).map fun e => (e.fromState, e.toState)

theorem edges_append (es es' : List Event) : edges (es ++ es') = edges es ++ edges es' := by
  simp [edges]

theorem edges_cons_of_eq {e : Event} (h : e.kind = .stateTransition) (es : List Event) :
    edges (e :: es) = (e.fromState, e.toState) :: edges es := by
  simp [edges, h]

theorem edges_cons_of_ne {e : Event} (h : e.kind ≠ .stateTransition) (es : List Event) :
    edges (e :: es) = edges es := by
  simp [edges, h]

theorem mem_edges {e : Event} {es : List Event} (he : e ∈ es) (h : e.kind = .stateTransition) :
    (e.fromState, e.toState) ∈ edges es := by
  apply List.mem_map_of_mem
  simpa [he] using h

/-- Events that are as many as their transitions are all transitions. -/
theorem kind_of_length_le {es : List Event} (h : es.length ≤ (edges es).length) {e : Event}
    (he : e ∈ es) : e.kind = .stateTransition := by
  rw [edges, List.length_map] at h
  have hall := List.length_filter_eq_length_iff.mp (Nat.le_antisymm (List.length_filter_le _ es) h)
  simpa using hall e he

/-- A history with another ring of events. -/
def DeviceHistory.withEvents (d : DeviceHistory) (r : RingBuffer Event) : DeviceHistory :=
  { d with events := r }

theorem DeviceHistory.observeUncorr_withEvents (d : DeviceHistory) (r : RingBuffer Event)
    (cur : ℕ) (supported : Bool) :
    (d.withEvents r).observeUncorr cur supported =
      ((d.observeUncorr cur supported).1.withEvents r, (d.observeUncorr cur supported).2) := by
  exact observeUncorr_comm (·.withEvents r) (fun _ => rfl) (fun _ => rfl) (fun _ _ _ => rfl) d cur
    supported

namespace DeviceState

/-- A device with another ring of events. -/
def withEvents (ds : DeviceState) (r : RingBuffer Event) : DeviceState :=
  { ds with hist := ds.hist.withEvents r }

/-- The events that `f` appends to a device: those that it leaves in an empty ring. No step of
a device reads the ring, and none appends more than eight events. -/
def eventsOf (f : DeviceState → DeviceState) (ds : DeviceState) : List Event :=
  (f (ds.withEvents (.new ⟨8, Nat.succ_pos 7⟩))).hist.events.items

/-- What `f` does to a device apart from the events that it appends. -/
def withoutEvents (f : DeviceState → DeviceState) (ds : DeviceState) : DeviceState :=
  (f ds).withEvents ds.hist.events

/-- Whatever the ring holds, `f` appends the same events to it, at most `n` of them, and the
transitions among them are `steps`. -/
def Logs (f : DeviceState → DeviceState) (ds : DeviceState) (n : ℕ)
    (steps : List (Option LifecycleState × Option LifecycleState)) : Prop :=
  ∃ es, es.length ≤ n ∧ edges es = steps ∧
    ∀ r, f (ds.withEvents r) = (f ds).withEvents (es.foldl RingBuffer.push r)

section

variable {f g : DeviceState → DeviceState} {ds : DeviceState} {n m : ℕ}
  {steps steps' : List (Option LifecycleState × Option LifecycleState)}

theorem logs_nothing (h : ∀ r, f (ds.withEvents r) = (f ds).withEvents r) : Logs f ds 0 [] :=
  ⟨[], Nat.le_refl 0, rfl, h⟩

/-- One event, whose content does not depend on the ring. -/
theorem logs_event {e : RingBuffer Event → Event}
    (h : ∀ r, f (ds.withEvents r) = (f ds).withEvents (r.push (e r)))
    (he : ∀ r, e r = e ds.hist.events) (hsteps : edges [e ds.hist.events] = steps) :
    Logs f ds 1 steps :=
  ⟨[e ds.hist.events], Nat.le_refl 1, hsteps, fun r => by rw [h, he]; rfl⟩

theorem Logs.mono (h : Logs f ds n steps) (hle : n ≤ m) : Logs f ds m steps := by
  obtain ⟨es, hlen, hedges, happ⟩ := h
  exact ⟨es, hlen.trans hle, hedges, happ⟩

theorem Logs.comp (hf : Logs f ds n steps) (hg : Logs g (f ds) m steps') :
    Logs (fun ds => g (f ds)) ds (n + m) (steps ++ steps') := by
  obtain ⟨es, hlen, rfl, happ⟩ := hf
  obtain ⟨es', hlen', rfl, happ'⟩ := hg
  refine ⟨es ++ es', ?_, edges_append es es', fun r => ?_⟩
  · rw [List.length_append]
    omega
  · simp only [happ, happ', List.foldl_append]

theorem Logs.congr (hf : Logs f ds n steps) (h : ∀ r, g (ds.withEvents r) = f (ds.withEvents r)) :
    Logs g ds n steps := by
  obtain ⟨es, hlen, hedges, happ⟩ := hf
  have hself : g ds = f ds := h ds.hist.events
  exact ⟨es, hlen, hedges, fun r => by rw [h, happ, hself]⟩

/-- The events are those found in an empty ring, and appending them one after the other to what
`f` does apart from them is what `f` does. -/
theorem Logs.eventsOf (h : Logs f ds n steps) (hn : n ≤ 8) :
    (eventsOf f ds).length ≤ n ∧ edges (eventsOf f ds) = steps ∧
      (eventsOf f ds).foldl addEvent (withoutEvents f ds) = f ds := by
  obtain ⟨es, hlen, rfl, happ⟩ := h
  have hes : DeviceState.eventsOf f ds = es := by
    rw [DeviceState.eventsOf, happ]
    refine (RingBuffer.items_foldl_push_of_le ?_).trans (List.nil_append es)
    exact (Nat.zero_add es.length).trans_le (hlen.trans hn)
  have hfold : ∀ (es : List Event) (ds : DeviceState) (r : RingBuffer Event),
      es.foldl addEvent (ds.withEvents r) = ds.withEvents (es.foldl RingBuffer.push r) := by
    intro es
    induction es with
    | nil => exact fun _ _ => rfl
    | cons e es ih => exact fun ds r => ih ds (r.push e)
  rw [hes]
  exact ⟨hlen, rfl, (hfold es (f ds) ds.hist.events).trans (happ ds.hist.events).symm⟩

end

theorem logs_detectDisconnect (ds : DeviceState) (mono wall : ℤ) :
    Logs (fun ds => ds.detectDisconnect mono wall) ds 1 [] := by
  by_cases hfirst : ds.machine.state = .offline ∧ ds.wasOffline = false
  · apply logs_event
    · intro r
      rw [show ds.detectDisconnect mono wall = _ from if_pos hfirst]
      exact if_pos hfirst
    · exact fun _ => rfl
    · rfl
  · refine (logs_nothing fun r => ?_).mono (Nat.zero_le 1)
    rw [show ds.detectDisconnect mono wall = ds from if_neg hfirst]
    exact if_neg hfirst

theorem logs_detectRejoin (ds : DeviceState) (mono wall : ℤ) :
    Logs (fun ds => ds.detectRejoin mono wall) ds 1 [] := by
  by_cases hback : ds.wasOffline = true ∧ ds.machine.state = .recovering
  · apply logs_event
    · intro r
      rw [show ds.detectRejoin mono wall = _ from if_pos hback]
      exact if_pos hback
    · exact fun _ => rfl
    · rfl
  · refine (logs_nothing fun r => ?_).mono (Nat.zero_le 1)
    rw [show ds.detectRejoin mono wall = ds from if_neg hback]
    exact if_neg hback

/-- The report of a poll names the transition, if there was one. -/
theorem logs_reportPoll (ds : DeviceState) (h : Health) (prevState : LifecycleState)
    (transitioned : Bool) (wall : ℤ) :
    Logs (fun ds => ds.reportPoll h prevState transitioned wall) ds 2
      (if transitioned then [(some prevState, some ds.machine.state)] else []) := by
  cases transitioned with
  | false =>
    cases hok : h.gpuVisible && h.gpuAccessible with
    | false =>
      refine Logs.mono ?_ (Nat.le_succ 1)
      apply logs_event
      · intro r
        simp only [reportPoll, hok]
        rfl
      · exact fun _ => rfl
      · rfl
    | true =>
      refine (logs_nothing fun r => ?_).mono (Nat.zero_le 2)
      simp only [reportPoll, hok]
      rfl
  | true =>
    cases hok : h.gpuVisible && h.gpuAccessible with
    | false =>
      refine ⟨[?transition, ?failure], Nat.le_refl 2, ?edges, ?app⟩
      case app =>
        intro r
        simp only [reportPoll, withEvents, addEvent, hok, Bool.false_eq_true, ↓reduceIte]
        rfl
      case edges => rfl
    | true =>
      refine Logs.mono ?_ (Nat.le_succ 1)
      apply logs_event
      · intro r
        simp only [reportPoll, hok]
        rfl
      · exact fun _ => rfl
      · rfl

theorem logs_detectWorkers (ds : DeviceState) (h : Health) (mono wall : ℤ) :
    Logs (fun ds => ds.detectWorkers h mono wall) ds 1 [] := by
  have hprocs : ∀ r, (ds.withEvents r).lastProcs = ds.lastProcs := fun _ => rfl
  by_cases hcur : h.computeProcs.supported = false
  · refine (logs_nothing fun r => ?_).mono (Nat.zero_le 1)
    simp only [detectWorkers, if_pos hcur]
  by_cases hprev : ds.lastProcs.supported = false
  · by_cases hpos : 0 < h.computeProcs.value
    · apply logs_event
      · intro r
        simp only [detectWorkers, hprocs, if_neg hcur, if_pos hprev, if_pos hpos]
        rfl
      · exact fun _ => rfl
      · rfl
    · refine (logs_nothing fun r => ?_).mono (Nat.zero_le 1)
      simp only [detectWorkers, hprocs, if_neg hcur, if_pos hprev, if_neg hpos]
  by_cases hup : ds.lastProcs.value < h.computeProcs.value
  · apply logs_event
    · intro r
      simp only [detectWorkers, hprocs, if_neg hcur, if_neg hprev, if_pos hup,
        DeviceHistory.markWorkerStart_iterate]
      rfl
    · exact fun _ => rfl
    · rfl
  by_cases hdown : h.computeProcs.value < ds.lastProcs.value
  · apply logs_event
    · intro r
      simp only [detectWorkers, hprocs, if_neg hcur, if_neg hprev, if_neg hup, if_pos hdown,
        DeviceHistory.markWorkerStop_iterate]
      rfl
    · exact fun _ => rfl
    · rfl
  · refine (logs_nothing fun r => ?_).mono (Nat.zero_le 1)
    simp only [detectWorkers, hprocs, if_neg hcur, if_neg hprev, if_neg hup, if_neg hdown]

/-- A change of the drain flag is logged as a transition from the current state to itself. -/
theorem logs_setDraining (ds : DeviceState) (d : Bool) (source : String) (now : ℤ) :
    Logs (fun ds => ds.setDraining d source now) ds (if ds.machine.draining = d then 0 else 1)
      (if ds.machine.draining = d then [] else
        [(some ds.machine.state, some ds.machine.state)]) := by
  by_cases hsame : ds.machine.draining = d
  · have hcheck : ds.machine.setDrainingChecked d = _ := if_pos hsame
    have hcheck' : ∀ r, (ds.withEvents r).machine.setDrainingChecked d = _ := fun _ => hcheck
    rw [if_pos hsame, if_pos hsame]
    refine logs_nothing fun r => ?_
    simp only [setDraining, hcheck, hcheck']
    rfl
  · have hcheck : ds.machine.setDrainingChecked d = _ := if_neg hsame
    have hcheck' : ∀ r, (ds.withEvents r).machine.setDrainingChecked d = _ := fun _ => hcheck
    rw [if_neg hsame, if_neg hsame]
    apply logs_event
    · intro r
      simp only [setDraining, hcheck, hcheck']
      rfl
    · exact fun _ => rfl
    · rfl

/-- The events of a drain call. -/
theorem mem_eventsOf_setDraining {ds : DeviceState} {d : Bool} {source : String} {now : ℤ}
    {e : Event} (he : e ∈ eventsOf (fun ds => ds.setDraining d source now) ds) :
    e.kind = .stateTransition ∧ e.fromState = some ds.machine.state ∧
      e.toState = some ds.machine.state := by
  obtain ⟨hlen, hedges, -⟩ := (logs_setDraining ds d source now).eventsOf (by split <;> decide)
  have hkind : e.kind = .stateTransition := by
    refine kind_of_length_le ?_ he
    rw [hedges]
    refine hlen.trans_eq ?_
    split <;> rfl
  have hmem := mem_edges he hkind
  rw [hedges] at hmem
  split at hmem
  · exact absurd hmem (List.not_mem_nil)
  · exact ⟨hkind, Prod.ext_iff.mp (List.mem_singleton.mp hmem)⟩

theorem setDraining_state (ds : DeviceState) (d : Bool) (source : String) (now : ℤ) :
    (ds.setDraining d source now).machine.state = ds.machine.state := by
  obtain ⟨d', hd⟩ := (call_outages ds (.setDraining d source now)).2
  exact (congrArg LifecycleMachine.state hd).trans rfl

/-- The score and the errors do not depend on the events. -/
theorem assess_withEvents (exp : ℚ → ℚ) (ds : DeviceState) (r : RingBuffer Event) (h : Health)
    (mono wall : ℤ) :
    (ds.withEvents r).assess exp h mono wall =
      ((ds.assess exp h mono wall).1.withEvents r, (ds.assess exp h mono wall).2) := by
  have hrecord : (ds.withEvents r).hist.recordProbe (h.gpuVisible && h.gpuAccessible)
      h.probeLatencyMs mono wall = (ds.hist.recordProbe (h.gpuVisible && h.gpuAccessible)
        h.probeLatencyMs mono wall).withEvents r := rfl
  simp only [assess, hrecord, DeviceHistory.observeUncorr_withEvents]
  rfl

end DeviceState

namespace Supervisor

open DeviceState

/-- A poll appends at most five events, and a transition among them exactly if its step of the
machine changed the state. -/
theorem logs_pollDevice (s : Supervisor) (exp : ℚ → ℚ) (ds : DeviceState) (p : Probe) :
    Logs (fun ds => s.pollDevice exp ds p) ds 5
      (if (ds.machine.step (s.observation exp ds p)).2 then
        [(some ds.machine.state, some (ds.machine.step (s.observation exp ds p)).1.state)]
      else []) := by
  have hassess := fun r => assess_withEvents exp ds r (s.health p) p.mono p.wall
  have hobs : ∀ r, s.observation exp (ds.withEvents r) p = s.observation exp ds p := by
    intro r
    rw [observation, hassess]
    rfl
  have hstepped : Logs (fun ds => s.stepped exp ds p) ds 0 [] := by
    refine logs_nothing fun r => ?_
    simp only [stepped, hobs, hassess]
    rfl
  have hedges := (hstepped.comp (logs_detectDisconnect _ p.mono p.wall)).comp
    (logs_detectRejoin _ p.mono p.wall)
  have hreport := (hedges.comp (logs_reportPoll _ (s.health p) ds.machine.state
    (ds.machine.step (s.observation exp ds p)).2 p.wall)).comp
      (logs_detectWorkers _ (s.health p) p.mono p.wall)
  have hpublish := hreport.comp (g := fun d => d.publish (s.health p)
    (ds.assess exp (s.health p) p.mono p.wall).2.1 p.mono p.wall) (logs_nothing fun _ => rfl)
  have hmachine : (((s.stepped exp ds p).detectDisconnect p.mono p.wall).detectRejoin p.mono
      p.wall).machine = (ds.machine.step (s.observation exp ds p)).1 :=
    (detectRejoin_outages _ p.mono p.wall).2.trans (detectDisconnect_outages _ p.mono p.wall).2
  simp only [hmachine, List.nil_append, List.append_nil] at hpublish
  refine hpublish.congr fun r => ?_
  simp only [pollDevice_eq, examine_eq, hobs, hassess]
  rfl

end Supervisor

end GpuSidecar.Engine
