import GpuSidecar.Core.Run.Keyed
import GpuSidecar.Models.Engine.Outages

/-!
# The devices of a host

The embedding of the supervisor's methods that work on all devices of a host: `Init`,
`PollOnce`, `SetDraining`, `SetThroughputVariance`, `HostStatus` and `History` of
`internal/engine/supervisor.go`, with the device filter of `/v1/history`. The
supervisor keeps its devices in a map and the order of their discovery in a list.
Polls and operator calls of different devices interleave freely and do not disturb
each other, so every device goes through a run of its own; and the history that is
served for a device is the record of the statuses that it has published. A poll of a device
is one step here. In the source it steps the machine, appends its point and publishes the
status under one lock after the other; what is said of a host holds between its polls.
-/

namespace GpuSidecar.Engine

open Lifecycle Run

/-- A device of the host. Beside its state the supervisor reads the time at which the
adapter took the sample of the last poll. -/
structure HostDevice where
  state : DeviceState
  sampledAt : Option ℤ

/-- The devices by their id, and the ids in the order of discovery. -/
structure Host where
  devices : String → Option HostDevice
  order : List String

/-- What happens to a device: a poll, with the time of the adapter's sample, or a call of
an operator. -/
inductive DeviceAction where
  | poll (p : Probe) (timestamp : ℤ)
  | call (c : OperatorCall)
  deriving DecidableEq, Repr

/-- The devices that pass the filter of `Init`; without a filter all of them do. -/
def managed (deviceFilter discovered : List String) : List String :=
  discovered.filter fun id => deviceFilter.isEmpty || deviceFilter.contains id

namespace Supervisor

def newDevice (s : Supervisor) (deviceID : String) : HostDevice := ⟨s.init deviceID, none⟩

/-- Sets up the discovered devices; an id that is discovered twice is set up again. -/
def initHost (s : Supervisor) (deviceFilter discovered : List String) : Host :=
  (managed deviceFilter discovered).foldl
    (fun h id => ⟨Function.update h.devices id (some (s.newDevice id)), h.order ++ [id]⟩)
    ⟨fun _ => none, []⟩

/-- One action of a device: a whole poll, or an operator call between two polls. -/
def act (s : Supervisor) (exp : ℚ → ℚ) (d : HostDevice) : DeviceAction → HostDevice
  | .poll p timestamp => ⟨s.pollDevice exp d.state p, some timestamp⟩
  | .call c => ⟨d.state.call c, d.sampledAt⟩

/-- An action of the device with the given id. -/
def hostAct (s : Supervisor) (exp : ℚ → ℚ) (h : Host) (a : String × DeviceAction) : Host :=
  { h with devices := keyed (s.act exp) h.devices a }

/-- A probe cycle over all devices in order. -/
def pollOnce (s : Supervisor) (exp : ℚ → ℚ) (h : Host) (samples : List (Probe × ℤ)) : Host :=
  (h.order.zip samples).foldl (fun h e => s.hostAct exp h (e.1, .poll e.2.1 e.2.2)) h

end Supervisor

namespace Host

/-- The points of one device. -/
def points (h : Host) (id : String) : List HistoryPoint :=
  match h.devices id with
  | some d => d.state.hist.points.items
  | none => []

def history (h : Host) : List HistoryPoint := h.order.flatMap h.points

/-- The points that `/v1/history` answers for its device parameter. -/
def servedHistory (h : Host) (dev : String) : List HistoryPoint :=
  if dev = "" then h.history else h.history.filter fun p => p.deviceID = dev

end Host

/-! ### Every device runs alone -/

namespace Supervisor

variable (s : Supervisor) (exp : ℚ → ℚ)

theorem initHost_eq (deviceFilter discovered : List String) :
    (s.initHost deviceFilter discovered).order = managed deviceFilter discovered ∧
      ∀ id, (s.initHost deviceFilter discovered).devices id =
        if id ∈ managed deviceFilter discovered then some (s.newDevice id) else none := by
  rw [initHost]
  induction managed deviceFilter discovered using List.reverseRecOn with
  | nil => simp
  | append_singleton ids id ih =>
    rw [List.foldl_append, List.foldl_cons, List.foldl_nil]
    refine ⟨by rw [ih.1], fun id' => ?_⟩
    by_cases h : id' = id
    · subst h
      simp
    · simp only [Function.update_of_ne h, ih.2]
      simp [h]

theorem foldl_hostAct (h : Host) (as : List (String × DeviceAction)) :
    as.foldl (s.hostAct exp) h = { h with devices := as.foldl (keyed (s.act exp)) h.devices } := by
  induction as generalizing h with
  | nil => rfl
  | cons a as ih => rw [List.foldl_cons, ih]; rfl

/-- The host after any interleaving of polls and calls. -/
def hostAfter (deviceFilter discovered : List String) (as : List (String × DeviceAction)) : Host :=
  as.foldl (s.hostAct exp) (s.initHost deviceFilter discovered)

/-- The device after a run of its own. -/
def deviceAfter (deviceID : String) (as : List DeviceAction) : HostDevice :=
  as.foldl (s.act exp) (s.newDevice deviceID)

/-- In every interleaving each managed device is where its own actions have brought it. -/
theorem hostAfter_devices (deviceFilter discovered : List String)
    (as : List (String × DeviceAction)) (id : String) :
    (s.hostAfter exp deviceFilter discovered as).devices id =
      if id ∈ managed deviceFilter discovered then
        some (s.deviceAfter exp id (actionsOf id as))
      else none := by
  rw [hostAfter, foldl_hostAct]
  simp only [foldl_keyed, (s.initHost_eq deviceFilter discovered).2]
  split <;> rfl

theorem hostAfter_order (deviceFilter discovered : List String)
    (as : List (String × DeviceAction)) :
    (s.hostAfter exp deviceFilter discovered as).order = managed deviceFilter discovered := by
  rw [hostAfter, foldl_hostAct]
  exact (s.initHost_eq deviceFilter discovered).1

/-- A probe cycle goes on with one poll of each device, in order. -/
theorem pollOnce_hostAfter (deviceFilter discovered : List String)
    (as : List (String × DeviceAction)) (samples : List (Probe × ℤ)) :
    s.pollOnce exp (s.hostAfter exp deviceFilter discovered as) samples =
      s.hostAfter exp deviceFilter discovered (as ++
        ((managed deviceFilter discovered).zip samples).map fun e =>
          (e.1, .poll e.2.1 e.2.2)) := by
  rw [pollOnce, hostAfter_order, hostAfter, hostAfter, List.foldl_append, List.foldl_map]

end Supervisor

/-! ### The time series -/

/-- The point that records a published status. -/
def DeviceStatus.point (st : DeviceStatus) (deviceID : String) (wall : ℤ) : HistoryPoint where
  timestamp := wall
  deviceID := deviceID
  lifecycleState := st.lifecycleState
  stabilityScore := st.stability.score
  utilGPU := st.health.utilizationGPU.value
  memUsedBytes := st.health.memUsedBytes.value
  temperatureC := st.health.temperatureC.value
  probeOK := st.health.gpuVisible && st.health.gpuAccessible
  probeLatencyMs := st.health.probeLatencyMs

namespace DeviceState

/-- Two states of a device of which the second has the name and the points of the first. -/
structure SamePoints (ds ds' : DeviceState) : Prop where
  deviceID : ds'.deviceID = ds.deviceID
  points : ds'.hist.points = ds.hist.points

theorem SamePoints.refl (ds : DeviceState) : ds.SamePoints ds := ⟨rfl, rfl⟩

theorem SamePoints.trans {ds ds' ds'' : DeviceState} (h : ds.SamePoints ds')
    (h' : ds'.SamePoints ds'') : ds.SamePoints ds'' :=
  ⟨h'.deviceID.trans h.deviceID, h'.points.trans h.points⟩

theorem samePoints_assess (exp : ℚ → ℚ) (ds : DeviceState) (h : Health) (mono wall : ℤ) :
    ds.SamePoints (ds.assess exp h mono wall).1 := by
  simp only [assess, DeviceHistory.observeUncorr]
  split
  · split <;> exact ⟨rfl, rfl⟩
  · exact ⟨rfl, rfl⟩

theorem samePoints_detectDisconnect (ds : DeviceState) (mono wall : ℤ) :
    ds.SamePoints (ds.detectDisconnect mono wall) := by
  rw [detectDisconnect]
  split <;> exact ⟨rfl, rfl⟩

theorem samePoints_detectRejoin (ds : DeviceState) (mono wall : ℤ) :
    ds.SamePoints (ds.detectRejoin mono wall) := by
  rw [detectRejoin]
  split <;> exact ⟨rfl, rfl⟩

/-- What concerns events and workers only leaves the points alone. -/
theorem Alike.samePoints {ds ds' : DeviceState} (h : ds.Alike ds') : ds.SamePoints ds' := by
  obtain ⟨w, rfl⟩ := h
  exact ⟨rfl, rfl⟩

/-- The publication records the status that it publishes. -/
theorem publish_point (ds : DeviceState) (h : Health) (stab : StabilityScore) (mono wall : ℤ) :
    ∃ st, (ds.publish h stab mono wall).lastStatus = some st ∧
      (ds.publish h stab mono wall).deviceID = ds.deviceID ∧
      (ds.publish h stab mono wall).hist.points =
        ds.hist.points.push (st.point ds.deviceID wall) :=
  ⟨_, rfl, rfl, rfl⟩

theorem samePoints_call (ds : DeviceState) (c : OperatorCall) : ds.SamePoints (ds.call c) := by
  cases c with
  | setDraining d source now =>
    simp only [call, setDraining]
    split <;> exact ⟨rfl, rfl⟩
  | setThroughputVariance cov => exact ⟨rfl, rfl⟩

end DeviceState

namespace Supervisor

open DeviceState

variable (s : Supervisor) (exp : ℚ → ℚ)

/-- Up to the publication a poll adds no point. -/
theorem samePoints_examine (ds : DeviceState) (p : Probe) :
    ds.SamePoints ((s.examine exp ds p).1.detectWorkers (s.health p) p.mono p.wall) := by
  have hstepped : ds.SamePoints (s.stepped exp ds p) :=
    ⟨(samePoints_assess exp ds (s.health p) p.mono p.wall).deviceID,
      (samePoints_assess exp ds (s.health p) p.mono p.wall).points⟩
  have hedges := (hstepped.trans (samePoints_detectDisconnect _ p.mono p.wall)).trans
    (samePoints_detectRejoin _ p.mono p.wall)
  rw [examine_eq]
  refine hedges.trans (Alike.samePoints ?_)
  exact (alike_congruence.reportPoll (Alike.refl _) _ _ _ _).trans (alike_detectWorkers _ _ _ _)

/-- A poll publishes a status and records it as one point. -/
theorem pollDevice_point (ds : DeviceState) (p : Probe) :
    ∃ st, (s.pollDevice exp ds p).lastStatus = some st ∧
      (s.pollDevice exp ds p).deviceID = ds.deviceID ∧
      (s.pollDevice exp ds p).hist.points = ds.hist.points.push (st.point ds.deviceID p.wall) := by
  have hsame := s.samePoints_examine exp ds p
  rw [pollDevice_eq, ← hsame.points, ← hsame.deviceID]
  exact publish_point _ (s.health p) (s.examine exp ds p).2 p.mono p.wall

/-- The statuses that the polls of a device publish, with the times of the polls. -/
def publications : HostDevice → List DeviceAction → List (ℤ × DeviceStatus)
  | _, [] => []
  | d, .call c :: as => publications (s.act exp d (.call c)) as
  | d, .poll p timestamp :: as =>
    ((s.pollDevice exp d.state p).lastStatus.toList.map fun st => (p.wall, st)) ++
      publications (s.act exp d (.poll p timestamp)) as

/-- The points of a device are its publications, as many as the ring holds, and its status
is the last of them. -/
theorem foldl_act_points (d : HostDevice) (as : List DeviceAction) :
    (as.foldl (s.act exp) d).state.hist.points =
        ((s.publications exp d as).map fun e => e.2.point d.state.deviceID e.1).foldl .push
          d.state.hist.points ∧
      (as.foldl (s.act exp) d).state.lastStatus =
        ((s.publications exp d as).getLast?.map Prod.snd).or d.state.lastStatus := by
  induction as generalizing d with
  | nil => exact ⟨rfl, rfl⟩
  | cons a as ih =>
    obtain ⟨hpoints, hstatus⟩ := ih (s.act exp d a)
    rw [List.foldl_cons, hpoints, hstatus]
    cases a with
    | call c =>
      have hsame := samePoints_call d.state c
      have hid : (s.act exp d (.call c)).state.deviceID = d.state.deviceID := hsame.deviceID
      have hold : (s.act exp d (.call c)).state.hist.points = d.state.hist.points := hsame.points
      have hlast : (s.act exp d (.call c)).state.lastStatus = d.state.lastStatus :=
        (passes_call d.state c).lastStatus
      rw [hid, hold, hlast]
      exact ⟨rfl, rfl⟩
    | poll p timestamp =>
      obtain ⟨st, hst, hid, hpush⟩ := s.pollDevice_point exp d.state p
      have hid' : (s.act exp d (.poll p timestamp)).state.deviceID = d.state.deviceID := hid
      have hpush' : (s.act exp d (.poll p timestamp)).state.hist.points =
          d.state.hist.points.push (st.point d.state.deviceID p.wall) := hpush
      have hst' : (s.act exp d (.poll p timestamp)).state.lastStatus = some st := hst
      rw [hid', hpush', hst', publications, hst]
      refine ⟨rfl, ?_⟩
      simp only [Option.toList_some, List.map_cons, List.map_nil, List.singleton_append,
        List.getLast?_cons]
      cases (s.publications exp (s.act exp d (.poll p timestamp)) as).getLast? <;> rfl

/-- The time series that the publications of a device make up. -/
def series (deviceID : String) (as : List DeviceAction) : List HistoryPoint :=
  (s.publications exp (s.newDevice deviceID) as).map fun e => e.2.point deviceID e.1

theorem deviceAfter_points (deviceID : String) (as : List DeviceAction) :
    (s.deviceAfter exp deviceID as).state.hist.points.items =
      (s.series exp deviceID as).rtake s.pointRingCap := by
  rw [deviceAfter, (s.foldl_act_points exp (s.newDevice deviceID) as).1]
  exact RingBuffer.items_foldl_push (.new s.pointRingCap) (s.series exp deviceID as)

theorem deviceID_of_mem_series {deviceID : String} {as : List DeviceAction} {p : HistoryPoint}
    {n : ℕ} (h : p ∈ (s.series exp deviceID as).rtake n) : p.deviceID = deviceID := by
  obtain ⟨e, -, rfl⟩ := List.mem_map.mp (List.mem_of_mem_drop h)
  rfl

theorem points_hostAfter (deviceFilter discovered : List String)
    (as : List (String × DeviceAction)) {id : String} (hid : id ∈ managed deviceFilter discovered) :
    (s.hostAfter exp deviceFilter discovered as).points id =
      (s.series exp id (actionsOf id as)).rtake s.pointRingCap := by
  rw [Host.points, hostAfter_devices, if_pos hid]
  exact s.deviceAfter_points exp id (actionsOf id as)

/-- In every interleaving of polls and operator calls of a host's devices, the history that
is served for a managed device between two polls is the record of the statuses that this
device has published, the latest ones as far as its ring reaches, in the order of its polls;
the status that is served for it is the last of them; and an unmanaged device has none. -/
theorem servedHistory_eq_publications (deviceFilter discovered : List String)
    (hnodup : (managed deviceFilter discovered).Nodup) (as : List (String × DeviceAction))
    {dev : String} (hdev : dev ≠ "") :
    (s.hostAfter exp deviceFilter discovered as).servedHistory dev =
        (if dev ∈ managed deviceFilter discovered then
          (s.series exp dev (actionsOf dev as)).rtake s.pointRingCap
        else []) ∧
      ((s.hostAfter exp deviceFilter discovered as).devices dev).bind (·.state.lastStatus) =
        if dev ∈ managed deviceFilter discovered then
          (s.publications exp (s.newDevice dev) (actionsOf dev as)).getLast?.map Prod.snd
        else none := by
  constructor
  · rw [Host.servedHistory, if_neg hdev, Host.history, hostAfter_order]
    by_cases hmem : dev ∈ managed deviceFilter discovered
    · rw [filter_flatMap_of_nodup (k := dev) hnodup, if_pos hmem, if_pos hmem,
        points_hostAfter s exp _ _ _ hmem]
      · intro p hp
        rw [points_hostAfter s exp _ _ _ hmem] at hp
        exact decide_eq_true (s.deviceID_of_mem_series exp hp)
      · intro id hid hne p hp
        rw [points_hostAfter s exp _ _ _ hid] at hp
        exact decide_eq_false (s.deviceID_of_mem_series exp hp ▸ hne)
    · rw [if_neg hmem, List.filter_eq_nil_iff]
      intro p hp
      obtain ⟨id, hid, hp⟩ := List.mem_flatMap.mp hp
      rw [points_hostAfter s exp _ _ _ hid] at hp
      have hne : id ≠ dev := fun h => hmem (h ▸ hid)
      simpa [s.deviceID_of_mem_series exp hp] using hne
  · rw [hostAfter_devices]
    by_cases hmem : dev ∈ managed deviceFilter discovered
    · rw [if_pos hmem, if_pos hmem, Option.bind_some, deviceAfter,
        (s.foldl_act_points exp (s.newDevice dev) (actionsOf dev as)).2]
      exact Option.or_none
    · rw [if_neg hmem, if_neg hmem]
      rfl

end Supervisor

/-- Two devices of which the second is gone; the first one is drained between its polls. -/
def twoDevices : List (String × DeviceAction) :=
  [("0", .poll (plainTurn false .unsup 0).probe 0), ("1", .poll (plainTurn true .unsup 0).probe 0),
    ("0", .call (.setDraining true "" 1)), ("0", .poll (plainTurn false .unsup 1).probe 1)]

/-- Each device's history shows its own polls. -/
theorem twoDevices_history :
    ((smallSupervisor.hostAfter (fun _ => 1) [] ["0", "1"] twoDevices).servedHistory "0").map
        (fun p => (p.timestamp, p.lifecycleState)) =
          [(0, .unknown), (1000000000, .draining)] ∧
      ((smallSupervisor.hostAfter (fun _ => 1) [] ["0", "1"] twoDevices).servedHistory "1").map
        (fun p => (p.timestamp, p.lifecycleState)) = [(0, .offline)] := by
  have hserved := fun {dev : String} (hdev : dev ≠ "") =>
    (smallSupervisor.servedHistory_eq_publications (fun _ => 1) [] ["0", "1"] (by decide)
      twoDevices hdev).1
  rw [hserved (by decide), hserved (by decide)]
  decide +kernel

end GpuSidecar.Engine
