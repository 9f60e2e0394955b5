import GpuSidecar.Models.Engine.Supervisor

/-!
# The detection of workers

A poll compares the process count of its sample with that of the last poll. What the
detection reads and writes is a part of the device of its own: the events, the counts
of starts and stops, the log of changes and the last published status. This file
says what the detection does to that part, and that reporting and detection leave
everything else alone.
-/

namespace GpuSidecar.Engine

open Lifecycle

/-- The part of a device that the detection of workers reads or writes. -/
structure WorkerPart where
  events : RingBuffer Event
  workerStarts : ℕ
  workerStops : ℕ
  lastStatus : Option DeviceStatus
  workerSeen : Bool
  workerEvents : WorkerEventLog

/-- Starts minus stops. -/
def WorkerPart.net (w : WorkerPart) : ℤ := (w.workerStarts : ℤ) - w.workerStops

/-- The change of the process count that two successive polls show. -/
def procsChange (prev cur : Field ℤ) : ℤ :=
  if prev.supported = true ∧ cur.supported = true then cur.value - prev.value else 0

/-- What a detection with the given change makes of a worker part. -/
structure WorkerPart.Detects (w : WorkerPart) (change mono : ℤ) (w' : WorkerPart) : Prop where
  lastStatus : w'.lastStatus = w.lastStatus
  net : w'.net = w.net + change
  log : w'.workerEvents =
    if 0 < change then w.workerEvents.recordAppearance mono
    else if change < 0 then w.workerEvents.recordDisappearance mono
    else w.workerEvents
  started : 0 < change → ∃ e, w'.events.items.getLast? = some e ∧ e.kind = .workerStarted
  disappeared : change < 0 →
    ∃ e, w'.events.items.getLast? = some e ∧ e.kind = .workerDisappeared

theorem WorkerPart.Detects.none {w w' : WorkerPart} {mono : ℤ}
    (hstatus : w'.lastStatus = w.lastStatus) (hnet : w'.net = w.net)
    (hlog : w'.workerEvents = w.workerEvents) : w.Detects 0 mono w' where
  lastStatus := hstatus
  net := by rw [hnet, add_zero]
  log := hlog
  started h := absurd h (lt_irrefl 0)
  disappeared h := absurd h (lt_irrefl 0)

/-- A history with the events and worker counts of another worker part. -/
def DeviceHistory.withWorkers (d : DeviceHistory) (w : WorkerPart) : DeviceHistory :=
  { d with
    events := w.events
    rel := { d.rel with workerStarts := w.workerStarts, workerStops := w.workerStops } }

namespace DeviceState

/-- A device with another worker part. -/
def withWorkers (ds : DeviceState) (w : WorkerPart) : DeviceState :=
  { ds with
    hist := ds.hist.withWorkers w
    lastStatus := w.lastStatus
    workerSeen := w.workerSeen
    workerEvents := w.workerEvents }

/-- The worker part of a device. -/
def workers (ds : DeviceState) : WorkerPart where
  events := ds.hist.events
  workerStarts := ds.hist.rel.workerStarts
  workerStops := ds.hist.rel.workerStops
  lastStatus := ds.lastStatus
  workerSeen := ds.workerSeen
  workerEvents := ds.workerEvents

/-- Two devices that differ in their worker parts only. -/
def Alike (ds ds' : DeviceState) : Prop := ∃ w, ds' = ds.withWorkers w

theorem Alike.refl (ds : DeviceState) : ds.Alike ds := ⟨ds.workers, rfl⟩

theorem Alike.symm {ds ds' : DeviceState} (h : ds.Alike ds') : ds'.Alike ds := by
  obtain ⟨w, rfl⟩ := h
  exact ⟨ds.workers, rfl⟩

theorem Alike.trans {ds ds' ds'' : DeviceState} (h : ds.Alike ds') (h' : ds'.Alike ds'') :
    ds.Alike ds'' := by
  obtain ⟨w, rfl⟩ := h
  obtain ⟨w', rfl⟩ := h'
  exact ⟨w', rfl⟩

theorem alike_addEvent (ds : DeviceState) (e : Event) : ds.Alike (ds.addEvent e) :=
  ⟨{ ds.workers with events := ds.hist.events.push e }, rfl⟩

/-- A relation of devices that differ in what neither the detection of outages nor an operator's
call reads. Either side may log what it likes; the rest is written on both sides. -/
structure Congruence (R : DeviceState → DeviceState → Prop) : Prop where
  symm : ∀ {ds ds'}, R ds ds' → R ds' ds
  machine : ∀ {ds ds'}, R ds ds' → ds'.machine = ds.machine
  wasOffline : ∀ {ds ds'}, R ds ds' → ds'.wasOffline = ds.wasOffline
  offlineMono : ∀ {ds ds'}, R ds ds' → ds'.offlineMono = ds.offlineMono
  addEvent : ∀ {ds ds'}, R ds ds' → ∀ e, R ds (ds'.addEvent e)
  setMachine : ∀ {ds ds'}, R ds ds' → ∀ m, R { ds with machine := m } { ds' with machine := m }
  markDisconnect : ∀ {ds ds'}, R ds ds' → ∀ mono,
    R { ds with wasOffline := true, offlineMono := mono, hist := ds.hist.markDisconnect mono }
      { ds' with wasOffline := true, offlineMono := mono, hist := ds'.hist.markDisconnect mono }
  markRejoin : ∀ {ds ds'}, R ds ds' → ∀ recMs,
    R { ds with wasOffline := false, hist := ds.hist.markRejoin recMs }
      { ds' with wasOffline := false, hist := ds'.hist.markRejoin recMs }
  setThroughputVariance : ∀ {ds ds'}, R ds ds' → ∀ cov,
    R { ds with hist := ds.hist.setThroughputVariance cov }
      { ds' with hist := ds'.hist.setThroughputVariance cov }

namespace Congruence

variable {R : DeviceState → DeviceState → Prop} (hR : Congruence R) {ds ds' : DeviceState}

include hR

theorem addEvents (h : R ds ds') (e e' : Event) : R (ds.addEvent e) (ds'.addEvent e') :=
  hR.symm (hR.addEvent (hR.symm (hR.addEvent h e')) e)

theorem detectDisconnect (h : R ds ds') (mono wall : ℤ) :
    R (ds.detectDisconnect mono wall) (ds'.detectDisconnect mono wall) := by
  by_cases hfirst : ds.machine.state = .offline ∧ ds.wasOffline = false
  · have hfirst' : ds'.machine.state = .offline ∧ ds'.wasOffline = false := by
      rw [hR.machine h, hR.wasOffline h]
      exact hfirst
    rw [DeviceState.detectDisconnect, DeviceState.detectDisconnect, if_pos hfirst, if_pos hfirst']
    exact hR.addEvents (hR.markDisconnect h mono) _ _
  · have hfirst' : ¬ (ds'.machine.state = .offline ∧ ds'.wasOffline = false) := by
      rw [hR.machine h, hR.wasOffline h]
      exact hfirst
    rw [DeviceState.detectDisconnect, DeviceState.detectDisconnect, if_neg hfirst, if_neg hfirst']
    exact h

theorem detectRejoin (h : R ds ds') (mono wall : ℤ) :
    R (ds.detectRejoin mono wall) (ds'.detectRejoin mono wall) := by
  by_cases hback : ds.wasOffline = true ∧ ds.machine.state = .recovering
  · have hback' : ds'.wasOffline = true ∧ ds'.machine.state = .recovering := by
      rw [hR.machine h, hR.wasOffline h]
      exact hback
    have houtage : Time.milliseconds (mono - ds'.offlineMono) =
        Time.milliseconds (mono - ds.offlineMono) := by rw [hR.offlineMono h]
    rw [DeviceState.detectRejoin, DeviceState.detectRejoin, if_pos hback, if_pos hback', houtage]
    exact hR.addEvents (hR.markRejoin h _) _ _
  · have hback' : ¬ (ds'.wasOffline = true ∧ ds'.machine.state = .recovering) := by
      rw [hR.machine h, hR.wasOffline h]
      exact hback
    rw [DeviceState.detectRejoin, DeviceState.detectRejoin, if_neg hback, if_neg hback']
    exact h

/-- Reporting a poll adds events only. -/
theorem reportPoll (hds : R ds ds') (h : Health) (prevState : LifecycleState)
    (transitioned : Bool) (wall : ℤ) : R ds (ds'.reportPoll h prevState transitioned wall) := by
  unfold DeviceState.reportPoll
  cases transitioned with
  | false =>
    cases h.gpuVisible && h.gpuAccessible with
    | false => exact hR.addEvent hds _
    | true => exact hds
  | true =>
    cases h.gpuVisible && h.gpuAccessible with
    | false => exact hR.addEvent (hR.addEvent hds _) _
    | true => exact hR.addEvent hds _

theorem call (h : R ds ds') (c : OperatorCall) : R (ds.call c) (ds'.call c) := by
  cases c with
  | setDraining d source now =>
    rw [DeviceState.call, DeviceState.call, setDraining, setDraining, hR.machine h]
    rcases ds.machine.setDrainingChecked d with ⟨machine, prevState, changed⟩
    have hset := hR.setMachine h machine
    cases changed with
    | false => exact hset
    | true => exact hR.addEvents hset _ _
  | setThroughputVariance cov => exact hR.setThroughputVariance h cov

theorem calls (h : R ds ds') (calls : List OperatorCall) :
    R (calls.foldl DeviceState.call ds) (calls.foldl DeviceState.call ds') := by
  induction calls generalizing ds ds' with
  | nil => exact h
  | cons c calls ih => exact ih (hR.call h c)

end Congruence

theorem alike_congruence : Congruence Alike where
  symm := Alike.symm
  machine := by
    rintro _ _ ⟨w, rfl⟩
    rfl
  wasOffline := by
    rintro _ _ ⟨w, rfl⟩
    rfl
  offlineMono := by
    rintro _ _ ⟨w, rfl⟩
    rfl
  addEvent := fun h e => h.trans (alike_addEvent _ e)
  setMachine := by
    rintro _ _ ⟨w, rfl⟩ m
    exact ⟨w, rfl⟩
  markDisconnect := by
    rintro _ _ ⟨w, rfl⟩ mono
    exact ⟨w, rfl⟩
  markRejoin := by
    rintro _ _ ⟨w, rfl⟩ recMs
    exact ⟨w, rfl⟩
  setThroughputVariance := by
    rintro _ _ ⟨w, rfl⟩ cov
    exact ⟨w, rfl⟩

/-- A poll without a process count, or the first one after such a poll, detects no change. -/
theorem detectWorkers_unobserved {ds : DeviceState} {h : Health}
    (hun : ¬ (ds.lastProcs.supported = true ∧ h.computeProcs.supported = true)) (mono wall : ℤ) :
    ∃ w, ds.detectWorkers h mono wall = ds.withWorkers w ∧ ds.workers.Detects 0 mono w := by
  by_cases hcur : h.computeProcs.supported = false
  · rw [detectWorkers, if_pos hcur]
    exact ⟨ds.workers, rfl, .none rfl rfl rfl⟩
  · have hprev : ds.lastProcs.supported = false := by
      simpa [Bool.not_eq_false _ ▸ hcur] using hun
    rw [detectWorkers, if_neg hcur, if_pos hprev]
    by_cases hpos : 0 < h.computeProcs.value
    · rw [if_pos hpos]
      exact ⟨{ ds.workers with events := _, workerSeen := true }, rfl, .none rfl rfl rfl⟩
    · rw [if_neg hpos]
      exact ⟨ds.workers, rfl, .none rfl rfl rfl⟩

/-- A process count that rose. -/
theorem detectWorkers_increase {ds : DeviceState} {h : Health}
    (hprev : ds.lastProcs.supported = true) (hcur : h.computeProcs.supported = true)
    (hlt : ds.lastProcs.value < h.computeProcs.value) (mono wall : ℤ) :
    ∃ e : Event, e.kind = .workerStarted ∧ ds.detectWorkers h mono wall =
      ds.withWorkers { ds.workers with
        events := ds.hist.events.push e
        workerStarts :=
          ds.hist.rel.workerStarts + (h.computeProcs.value - ds.lastProcs.value).toNat
        workerSeen := true
        workerEvents := ds.workerEvents.recordAppearance mono } := by
  rw [detectWorkers, if_neg (by simp [hcur]), if_neg (by simp [hprev]), if_pos hlt,
    DeviceHistory.markWorkerStart_iterate]
  exact ⟨_, rfl, rfl⟩

/-- A process count that fell. -/
theorem detectWorkers_decrease {ds : DeviceState} {h : Health}
    (hprev : ds.lastProcs.supported = true) (hcur : h.computeProcs.supported = true)
    (hlt : h.computeProcs.value < ds.lastProcs.value) (mono wall : ℤ) :
    ∃ e : Event, e.kind = .workerDisappeared ∧ ds.detectWorkers h mono wall =
      ds.withWorkers { ds.workers with
        events := ds.hist.events.push e
        workerStops :=
          ds.hist.rel.workerStops + (ds.lastProcs.value - h.computeProcs.value).toNat
        workerEvents := ds.workerEvents.recordDisappearance mono } := by
  rw [detectWorkers, if_neg (by simp [hcur]), if_neg (by simp [hprev]), if_neg (by omega),
    if_pos hlt, DeviceHistory.markWorkerStop_iterate]
  exact ⟨_, rfl, rfl⟩

/-- Two successive process counts are compared, and their difference is recorded. -/
theorem detectWorkers_observed {ds : DeviceState} {h : Health}
    (hprev : ds.lastProcs.supported = true) (hcur : h.computeProcs.supported = true)
    (mono wall : ℤ) :
    ∃ w, ds.detectWorkers h mono wall = ds.withWorkers w ∧
      ds.workers.Detects (h.computeProcs.value - ds.lastProcs.value) mono w := by
  rcases lt_trichotomy ds.lastProcs.value h.computeProcs.value with hup | heq | hdown
  · obtain ⟨e, hkind, hdet⟩ := detectWorkers_increase hprev hcur hup mono wall
    refine ⟨_, hdet, rfl, ?_, ?_, ?_, ?_⟩
    · simp only [WorkerPart.net, workers]
      omega
    · rw [if_pos (by omega)]
      rfl
    · intro _
      exact ⟨e, RingBuffer.getLast?_items_push _ e, hkind⟩
    · intro hdown
      omega
  · rw [detectWorkers, if_neg (by simp [hcur]), if_neg (by simp [hprev]), if_neg (by omega),
      if_neg (by omega), show h.computeProcs.value - ds.lastProcs.value = 0 by omega]
    exact ⟨ds.workers, rfl, .none rfl rfl rfl⟩
  · obtain ⟨e, hkind, hdet⟩ := detectWorkers_decrease hprev hcur hdown mono wall
    refine ⟨_, hdet, rfl, ?_, ?_, ?_, ?_⟩
    · simp only [WorkerPart.net, workers]
      omega
    · rw [if_neg (by omega), if_pos (by omega)]
      rfl
    · intro hup
      omega
    · intro _
      exact ⟨e, RingBuffer.getLast?_items_push _ e, hkind⟩

/-- The detection changes the worker part only, by the observed change. -/
theorem detectWorkers_spec (ds : DeviceState) (h : Health) (mono wall : ℤ) :
    ∃ w, ds.detectWorkers h mono wall = ds.withWorkers w ∧
      ds.workers.Detects (procsChange ds.lastProcs h.computeProcs) mono w := by
  by_cases hobs : ds.lastProcs.supported = true ∧ h.computeProcs.supported = true
  · rw [procsChange, if_pos hobs]
    exact detectWorkers_observed hobs.1 hobs.2 mono wall
  · rw [procsChange, if_neg hobs]
    exact detectWorkers_unobserved hobs mono wall

theorem alike_detectWorkers (ds : DeviceState) (h : Health) (mono wall : ℤ) :
    ds.Alike (ds.detectWorkers h mono wall) := by
  obtain ⟨w, hw, -⟩ := detectWorkers_spec ds h mono wall
  exact ⟨w, hw⟩

/-- A stage of a poll that leaves the worker counts, the last status and the log alone. -/
structure Passes (ds ds' : DeviceState) : Prop where
  lastStatus : ds'.lastStatus = ds.lastStatus
  net : ds'.workers.net = ds.workers.net
  log : ds'.workerEvents = ds.workerEvents

theorem Passes.refl (ds : DeviceState) : ds.Passes ds := ⟨rfl, rfl, rfl⟩

theorem Passes.trans {ds ds' ds'' : DeviceState} (h : ds.Passes ds') (h' : ds'.Passes ds'') :
    ds.Passes ds'' :=
  ⟨h'.lastStatus.trans h.lastStatus, h'.net.trans h.net, h'.log.trans h.log⟩

theorem passes_detectDisconnect (ds : DeviceState) (mono wall : ℤ) :
    ds.Passes (ds.detectDisconnect mono wall) := by
  unfold detectDisconnect
  split
  · exact ⟨rfl, rfl, rfl⟩
  · exact Passes.refl ds

theorem passes_detectRejoin (ds : DeviceState) (mono wall : ℤ) :
    ds.Passes (ds.detectRejoin mono wall) := by
  unfold detectRejoin
  split
  · exact ⟨rfl, rfl, rfl⟩
  · exact Passes.refl ds

theorem passes_reportPoll (ds : DeviceState) (h : Health) (prevState : LifecycleState)
    (transitioned : Bool) (wall : ℤ) :
    ds.Passes (ds.reportPoll h prevState transitioned wall) := by
  unfold reportPoll
  cases transitioned <;> cases h.gpuVisible && h.gpuAccessible <;> exact ⟨rfl, rfl, rfl⟩

theorem passes_call (ds : DeviceState) (c : OperatorCall) : ds.Passes (ds.call c) := by
  cases c with
  | setDraining d source now =>
    simp only [call, setDraining]
    split <;> exact ⟨rfl, rfl, rfl⟩
  | setThroughputVariance cov => exact ⟨rfl, rfl, rfl⟩

theorem passes_calls (ds : DeviceState) (calls : List OperatorCall) :
    ds.Passes (calls.foldl call ds) := by
  induction calls generalizing ds with
  | nil => exact Passes.refl ds
  | cons c calls ih => exact (passes_call ds c).trans (ih (ds.call c))

theorem Passes.lastProcs {ds ds' : DeviceState} (h : ds.Passes ds') :
    ds'.lastProcs = ds.lastProcs := by
  rw [DeviceState.lastProcs, DeviceState.lastProcs, h.lastStatus]

/-- Recording a probe may prune the log and counts no worker. -/
theorem assess_workers (exp : ℚ → ℚ) (ds : DeviceState) (h : Health) (mono wall : ℤ) :
    (ds.assess exp h mono wall).1.lastStatus = ds.lastStatus ∧
      (ds.assess exp h mono wall).1.workers.net = ds.workers.net ∧
      (ds.assess exp h mono wall).1.workerEvents.Within ds.workerEvents := by
  refine ⟨rfl, ?_, ?_⟩
  · simp only [assess, DeviceHistory.observeUncorr]
    split
    · split <;> rfl
    · rfl
  · refine ⟨fun t ht => ?_, fun t ht => mem_of_mem_pruneTimes ht⟩
    exact mem_of_mem_pruneTimes (mem_of_mem_pruneTimes ht)

end DeviceState

namespace Supervisor

open DeviceState

/-- The device after the lifecycle step of a poll. -/
def stepped (s : Supervisor) (exp : ℚ → ℚ) (ds : DeviceState) (p : Probe) : DeviceState :=
  { (ds.assess exp (s.health p) p.mono p.wall).1 with
    machine := (ds.machine.step (s.observation exp ds p)).1 }

theorem examine_eq (s : Supervisor) (exp : ℚ → ℚ) (ds : DeviceState) (p : Probe) :
    s.examine exp ds p =
      ((((s.stepped exp ds p).detectDisconnect p.mono p.wall).detectRejoin p.mono p.wall).reportPoll
          (s.health p) ds.machine.state (ds.machine.step (s.observation exp ds p)).2 p.wall,
        (ds.assess exp (s.health p) p.mono p.wall).2.1) := rfl

/-- Devices that are related after the lifecycle step stay related until workers are detected. -/
theorem examine_congr {R : DeviceState → DeviceState → Prop} (hR : Congruence R)
    (s : Supervisor) (exp : ℚ → ℚ) {ds ds' : DeviceState} {p p' : Probe}
    (hmono : p'.mono = p.mono) (hwall : p'.wall = p.wall)
    (h : R (s.stepped exp ds p) (s.stepped exp ds' p')) :
    R (s.examine exp ds p).1 (s.examine exp ds' p').1 := by
  have hedges := hR.detectRejoin (hR.detectDisconnect h p.mono p.wall) p.mono p.wall
  rw [examine_eq, examine_eq, hmono, hwall]
  refine hR.reportPoll (hR.symm ?_) _ _ _ _
  exact hR.reportPoll (hR.symm hedges) _ _ _ _

/-- Up to the detection of workers, a poll may prune the log and counts no worker. -/
theorem examine_workers (s : Supervisor) (exp : ℚ → ℚ) (ds : DeviceState) (p : Probe) :
    (s.examine exp ds p).1.lastStatus = ds.lastStatus ∧
      (s.examine exp ds p).1.workers.net = ds.workers.net ∧
      (s.examine exp ds p).1.workerEvents.Within ds.workerEvents := by
  obtain ⟨hstatus, hnet, hlog⟩ := assess_workers exp ds (s.health p) p.mono p.wall
  have hpass := ((passes_detectDisconnect (s.stepped exp ds p) p.mono p.wall).trans
    (passes_detectRejoin _ p.mono p.wall)).trans
    (passes_reportPoll _ (s.health p) ds.machine.state
      (ds.machine.step (s.observation exp ds p)).2 p.wall)
  rw [examine_eq]
  exact ⟨hpass.lastStatus.trans hstatus, hpass.net.trans hnet, hpass.log ▸ hlog⟩

/-- A poll is its examination, the detection of workers and the publication. -/
theorem pollDevice_eq (s : Supervisor) (exp : ℚ → ℚ) (ds : DeviceState) (p : Probe) :
    s.pollDevice exp ds p =
      ((s.examine exp ds p).1.detectWorkers (s.health p) p.mono p.wall).publish (s.health p)
        (s.examine exp ds p).2 p.mono p.wall := rfl

/-- The change of the process count that a poll observes. -/
def observedChange (ds : DeviceState) (p : Probe) : ℤ :=
  procsChange ds.lastProcs p.sample.computeProcs

/-- From what it examined, a poll detects the observed change; the status aside, that is
all it publishes about workers. -/
theorem pollDevice_detects (s : Supervisor) (exp : ℚ → ℚ) (ds : DeviceState) (p : Probe) :
    (s.examine exp ds p).1.workers.Detects (observedChange ds p) p.mono
      { (s.pollDevice exp ds p).workers with lastStatus := ds.lastStatus } := by
  have hstatus := (s.examine_workers exp ds p).1
  obtain ⟨w, hw, hdet⟩ :=
    detectWorkers_spec (s.examine exp ds p).1 (s.health p) p.mono p.wall
  have hprocs : (s.examine exp ds p).1.lastProcs = ds.lastProcs := by
    rw [lastProcs, hstatus, lastProcs]
  have hpoll : { (s.pollDevice exp ds p).workers with lastStatus := ds.lastStatus } = w := by
    have hlast : w.lastStatus = ds.lastStatus := hdet.lastStatus.trans hstatus
    rw [pollDevice_eq, hw, ← hlast]
    rfl
  rw [hpoll, observedChange, ← hprocs]
  exact hdet

/-- A poll adds the observed change to the balance of starts and stops. -/
theorem pollDevice_net (s : Supervisor) (exp : ℚ → ℚ) (ds : DeviceState) (p : Probe) :
    (s.pollDevice exp ds p).workers.net = ds.workers.net + observedChange ds p := by
  have hnet := (s.pollDevice_detects exp ds p).net
  rw [(s.examine_workers exp ds p).2.1] at hnet
  exact hnet

/-- A poll adds to the log the observed change only. -/
theorem pollDevice_log (s : Supervisor) (exp : ℚ → ℚ) (ds : DeviceState) (p : Probe) :
    (∀ t ∈ (s.pollDevice exp ds p).workerEvents.disappearances,
        t ∈ ds.workerEvents.disappearances ∨ t = p.mono ∧ observedChange ds p < 0) ∧
      ∀ t ∈ (s.pollDevice exp ds p).workerEvents.appearances,
        t ∈ ds.workerEvents.appearances ∨ t = p.mono ∧ 0 < observedChange ds p := by
  have hlog : (s.pollDevice exp ds p).workerEvents = _ := (s.pollDevice_detects exp ds p).log
  have hin := (s.examine_workers exp ds p).2.2
  rw [hlog]
  rcases lt_trichotomy (observedChange ds p) 0 with hneg | hzero | hpos
  · rw [if_neg (by omega), if_pos hneg]
    refine ⟨fun t ht => ?_, fun t ht => Or.inl (hin.appearances t ht)⟩
    rcases List.mem_append.mp (mem_of_mem_pruneTimes ht) with hold | hnew
    · exact Or.inl (hin.disappearances t hold)
    · exact Or.inr ⟨List.mem_singleton.mp hnew, hneg⟩
  · rw [if_neg (by omega), if_neg (by omega)]
    exact ⟨fun t ht => Or.inl (hin.disappearances t ht), fun t ht => Or.inl (hin.appearances t ht)⟩
  · rw [if_pos hpos]
    refine ⟨fun t ht => Or.inl (hin.disappearances t ht), fun t ht => ?_⟩
    rcases List.mem_append.mp (mem_of_mem_pruneTimes ht) with hold | hnew
    · exact Or.inl (hin.appearances t hold)
    · exact Or.inr ⟨List.mem_singleton.mp hnew, hpos⟩

end Supervisor

/-! ### Runs of a device -/

/-- The process count of the sample at turn `n`. -/
def procsAt (turns : ℕ → Turn) (n : ℕ) : Field ℤ := (turns n).probe.sample.computeProcs

/-- The change of the process count that turn `n` observes: it compares its sample with the
one of the turn before. -/
def changeAt (turns : ℕ → Turn) : ℕ → ℤ
  | 0 => 0
  | n + 1 => procsChange (procsAt turns n) (procsAt turns (n + 1))

/-- What a run has a device compare, the operator's calls notwithstanding. -/
theorem Supervisor.observedChange_deviceAt (s : Supervisor) (exp : ℚ → ℚ) (deviceID : String)
    (turns : ℕ → Turn) (n : ℕ) :
    observedChange ((turns n).calls.foldl DeviceState.call (s.deviceAt exp deviceID turns n))
      (turns n).probe = changeAt turns n := by
  rw [observedChange, (DeviceState.passes_calls _ _).lastProcs]
  cases n with
  | zero =>
    rw [procsChange, if_neg]
    · rfl
    · rintro ⟨hprev, -⟩
      exact Bool.false_ne_true hprev
  | succ n => rfl

end GpuSidecar.Engine
