import GpuSidecar.Core.Json.Value
import GpuSidecar.Models.Engine.Host
import GpuSidecar.Models.Lifecycle.Drain

/-!
# The drain endpoint

The embedding of the handler of `/v1/drain` in `internal/api/server.go`, with
`SetDraining` and `Draining` of `internal/engine/supervisor.go`. It is the only endpoint
that changes a device. What it answers and what it changes, between any polls of the
devices, depends on the requests before it alone: the flag of a device is the one of the
last request for it that was accepted.
-/

namespace GpuSidecar.Lifecycle.LifecycleMachine

/-- No observation touches the operator's flag. -/
theorem step_draining (m : LifecycleMachine) (o : LifecycleObservation) :
    (m.step o).1.draining = m.draining := by
  unfold step stepHard stepSoft stepHealthy beginRecovery stepLatched stepConfirm enterOffline
  grind

theorem setDrainingChecked_eq (m : LifecycleMachine) (d : Bool) :
    (m.setDrainingChecked d).1 = { m with draining := d } ∧
      (m.setDrainingChecked d).2.2 = decide (m.draining ≠ d) := by
  rw [setDrainingChecked]
  split
  · rename_i h
    subst h
    simp
  · rename_i h
    simp [h]

end GpuSidecar.Lifecycle.LifecycleMachine

namespace GpuSidecar.Engine

open Json Lifecycle Run

/-- The spellings that `strconv.ParseBool` accepts. -/
def parseBool (s : String) : Option Bool :=
  if s ∈ ["1", "t", "T", "TRUE", "true", "True"] then some true
  else if s ∈ ["0", "f", "F", "FALSE", "false", "False"] then some false
  else none

def formatBool (b : Bool) : String := if b then "true" else "false"

theorem parseBool_formatBool (b : Bool) : parseBool (formatBool b) = some b := by
  cases b <;> rfl

/-- A request as the handler reads it. -/
structure DrainRequest where
  method : String
  contentType : String
  /-- The outcome of decoding the body into its two optional fields. -/
  decoded : Except String (Option String × Option Bool)
  /-- The value of a parameter of the form or the query, empty if there is none. -/
  formValue : String → String
  remoteAddr : String

structure DrainReply where
  code : ℕ
  allow : Option String
  body : Object

def badRequest (error : String) : DrainReply := ⟨400, none, [("error", .str error)]⟩

namespace DrainRequest

/-- The device and the spelling of the flag in the request. -/
def texts (r : DrainRequest) : Except DrainReply (String × String) :=
  if "application/json".toList.isPrefixOf r.contentType.toList then
    match r.decoded with
    | .error err => .error (badRequest ("invalid JSON body: " ++ err))
    | .ok (some device, some on) => .ok (device, formatBool on)
    | .ok _ => .error (badRequest "fields 'device' and 'on' are required")
  else .ok (r.formValue "device", r.formValue "on")

/-- The device and the flag that the request asks for, or the reply that refuses it. -/
def asks (quote : String → String) (r : DrainRequest) : Except DrainReply (String × Bool) :=
  if r.method ≠ "POST" ∧ r.method ≠ "PUT" then
    .error ⟨405, some "POST, PUT",
      [("error", .str ("drain is state-changing; use POST or PUT, not " ++ r.method))]⟩
  else
    match r.texts with
    | .error reply => .error reply
    | .ok (dev, onStr) =>
      if dev = "" then .error (badRequest "field 'device' is required")
      else
        match parseBool onStr with
        | none => .error (badRequest ("field 'on' must be a boolean (got " ++ quote onStr ++ ")"))
        | some on => .ok (dev, on)

/-- No refusal reads as an acceptance. -/
theorem code_of_asks {quote : String → String} {r : DrainRequest} {reply : DrainReply}
    (h : r.asks quote = .error reply) : reply.code ≠ 200 := by
  have hbad : ∀ error, (badRequest error).code ≠ 200 := fun _ => by simp [badRequest]
  rw [asks] at h
  split at h
  · cases h
    simp
  split at h
  · rename_i _ _ htexts
    cases h
    rw [texts] at htexts
    split at htexts
    · split at htexts <;> cases htexts <;> exact hbad _
    · cases htexts
  split at h
  · cases h
    exact hbad _
  split at h <;> cases h
  exact hbad _

end DrainRequest

namespace Host

/-- Whether an operator has drained the device. -/
def draining (h : Host) (devID : String) : Bool :=
  match h.devices devID with
  | none => false
  | some d => d.state.machine.draining

/-- Sets the flag of a device; the booleans report whether it is managed and has changed. -/
def setDraining (h : Host) (devID : String) (d : Bool) (source : String) (now : ℤ) :
    Host × Bool × Bool :=
  match h.devices devID with
  | none => (h, false, false)
  | some ds =>
    (⟨Function.update h.devices devID (some ⟨ds.state.setDraining d source now, ds.sampledAt⟩),
        h.order⟩,
      true, (ds.state.machine.setDrainingChecked d).2.2)

/-- The handler of `/v1/drain`. -/
def drain (quote : String → String) (h : Host) (r : DrainRequest) (now : ℤ) :
    DrainReply × Host :=
  match r.asks quote with
  | .error reply => (reply, h)
  | .ok (dev, on) =>
    match h.setDraining dev on r.remoteAddr now with
    | (h, false, _) => (⟨404, none, [("error", .str "unknown device"), ("device", .str dev)]⟩, h)
    | (h, true, changed) =>
      (⟨200, none, [("device", .str dev), ("draining", .bool on), ("changed", .bool changed)]⟩, h)

end Host

/-- What happens to a host: polls of its devices, and requests to drain them. -/
inductive HostEvent where
  | poll (id : String) (p : Probe) (timestamp : ℤ)
  | drain (r : DrainRequest) (now : ℤ)

def Supervisor.react (s : Supervisor) (exp : ℚ → ℚ) (quote : String → String) (h : Host) :
    HostEvent → Host
  | .poll id p timestamp => s.hostAct exp h (id, .poll p timestamp)
  | .drain r now => (h.drain quote r now).2

/-! ### The requests alone decide -/

/-- Asked for this device, the request wants this flag. -/
def HostEvent.wants (quote : String → String) (dev : String) : HostEvent → Option Bool
  | .poll .. => none
  | .drain r _ =>
    match r.asks quote with
    | .error _ => none
    | .ok (dev', on) => if dev' = dev then some on else none

/-- The flag of the last acceptable request for a device; at first it is off. -/
def drainAsked (quote : String → String) (dev : String) (es : List HostEvent) : Bool :=
  (es.filterMap (HostEvent.wants quote dev)).getLast?.getD false

theorem HostEvent.wants_of_asks {quote : String → String} {r : DrainRequest} {dev : String}
    {on : Bool} (hasks : r.asks quote = .ok (dev, on)) (now : ℤ) (dev' : String) :
    (HostEvent.drain r now).wants quote dev' = if dev = dev' then some on else none := by
  simp only [wants, hasks]

theorem drainAsked_concat (quote : String → String) (dev : String) (es : List HostEvent)
    (e : HostEvent) :
    drainAsked quote dev (es ++ [e]) = (e.wants quote dev).getD (drainAsked quote dev es) := by
  rw [drainAsked, List.filterMap_append]
  cases h : e.wants quote dev with
  | none => simp [h, drainAsked]
  | some on => simp [h]

theorem DeviceState.setDraining_draining (ds : DeviceState) (on : Bool) (source : String)
    (now : ℤ) : (ds.setDraining on source now).machine.draining = on := by
  have hmachine : (ds.setDraining on source now).machine =
      (ds.machine.setDrainingChecked on).1 := by
    simp only [setDraining]
    split <;> rfl
  rw [hmachine, (ds.machine.setDrainingChecked_eq on).1]

/-- A request for the flag that the device has already leaves it as it is. -/
theorem DeviceState.setDraining_self (ds : DeviceState) (source : String) (now : ℤ) :
    ds.setDraining ds.machine.draining source now = ds := by
  simp [setDraining, LifecycleMachine.setDrainingChecked]

theorem DeviceState.setDraining_published (ds : DeviceState) (on : Bool) (source : String)
    (now : ℤ) : (ds.setDraining on source now).published = ds.published := by
  simp only [setDraining]
  split <;> rfl

namespace Host

theorem exists_of_draining {h : Host} {dev : String} (hon : h.draining dev = true) :
    ∃ d, h.devices dev = some d := by
  cases hd : h.devices dev with
  | none =>
    rw [draining, hd] at hon
    cases hon
  | some d => exact ⟨d, rfl⟩

theorem draining_of_devices {h : Host} {dev : String} {d : HostDevice}
    (hd : h.devices dev = some d) : h.draining dev = d.state.machine.draining := by
  rw [draining, hd]

/-- What a request does to a managed device. -/
theorem setDraining_of_devices {h : Host} {dev : String} {d : HostDevice}
    (hd : h.devices dev = some d) (on : Bool) (source : String) (now : ℤ) :
    h.setDraining dev on source now =
      (⟨Function.update h.devices dev (some ⟨d.state.setDraining on source now, d.sampledAt⟩),
        h.order⟩, true, decide (h.draining dev ≠ on)) := by
  simp only [setDraining, hd, draining_of_devices hd, (d.state.machine.setDrainingChecked_eq on).2]

/-- The flags after a call. -/
theorem setDraining_draining {h : Host} {dev : String} {d : HostDevice}
    (hd : h.devices dev = some d) (on : Bool) (source : String) (now : ℤ) (dev' : String) :
    (h.setDraining dev on source now).1.draining dev' =
      if dev' = dev then on else h.draining dev' := by
  simp only [setDraining_of_devices hd, draining]
  by_cases hdev : dev' = dev
  · subst hdev
    simp only [Function.update_self, if_pos]
    exact d.state.setDraining_draining on source now
  · simp only [Function.update_of_ne hdev, if_neg hdev]

/-- A call that changes no flag changes nothing. -/
theorem setDraining_eq_self {h : Host} {dev : String} {source : String} {now : ℤ} :
    (h.setDraining dev (h.draining dev) source now).1 = h := by
  cases hd : h.devices dev with
  | none => rw [setDraining, hd]
  | some d =>
    rw [setDraining_of_devices hd, draining_of_devices hd, d.state.setDraining_self,
      Function.update_eq_self_iff.mpr hd.symm]

/-- An accepted request for a managed device. -/
theorem drain_of_devices {quote : String → String} {h : Host} {r : DrainRequest} {dev : String}
    {on : Bool} {d : HostDevice} (hasks : r.asks quote = .ok (dev, on))
    (hd : h.devices dev = some d) (now : ℤ) :
    h.drain quote r now =
      (⟨200, none, [("device", .str dev), ("draining", .bool on),
        ("changed", .bool (decide (h.draining dev ≠ on)))]⟩,
        (h.setDraining dev on r.remoteAddr now).1) := by
  simp only [drain, hasks, setDraining_of_devices hd]

/-- An accepted request for a managed device changes the host if it changes the flag. -/
theorem drain_ne_self_iff {quote : String → String} {h : Host} {r : DrainRequest} {dev : String}
    {on : Bool} {d : HostDevice} (hasks : r.asks quote = .ok (dev, on))
    (hd : h.devices dev = some d) (now : ℤ) :
    (h.drain quote r now).2 ≠ h ↔ h.draining dev ≠ on := by
  rw [drain_of_devices hasks hd, not_iff_not]
  constructor
  · intro hsame
    have hnow := setDraining_draining hd on r.remoteAddr now dev
    rwa [if_pos rfl, show (h.setDraining dev on r.remoteAddr now).1 = h from hsame] at hnow
  · rintro rfl
    exact setDraining_eq_self

/-- A request that is refused, or names a device that is not managed, has no effect. -/
theorem drain_refused (quote : String → String) {h : Host} {r : DrainRequest} (now : ℤ)
    (hrefused : ∀ dev on, r.asks quote = .ok (dev, on) → h.devices dev = none) :
    (h.drain quote r now).1.code ≠ 200 ∧ (h.drain quote r now).2 = h := by
  rw [drain]
  cases hasks : r.asks quote with
  | error reply => exact ⟨DrainRequest.code_of_asks hasks, rfl⟩
  | ok e =>
    obtain ⟨dev, on⟩ := e
    have hunknown : h.setDraining dev on r.remoteAddr now = (h, false, false) := by
      simp only [setDraining, hrefused dev on hasks]
    simp only [hunknown]
    exact ⟨by simp, trivial⟩

end Host

section

variable (s : Supervisor) (exp : ℚ → ℚ) (quote : String → String)
  (deviceFilter discovered : List String)

/-- The host after any interleaving of polls and requests. -/
def Supervisor.hostServing (es : List HostEvent) : Host :=
  es.foldl (s.react exp quote) (s.initHost deviceFilter discovered)

/-- The action of a device that an event amounts to. -/
def HostEvent.action : HostEvent → Option (String × DeviceAction)
  | .poll id p timestamp => some (id, .poll p timestamp)
  | .drain r now =>
    match r.asks quote with
    | .error _ => none
    | .ok (dev, on) => some (dev, .call (.setDraining on r.remoteAddr now))

/-- A request works like the call of an operator, or not at all. -/
theorem Supervisor.react_eq (h : Host) (e : HostEvent) :
    s.react exp quote h e = ((e.action quote).map (s.hostAct exp h)).getD h := by
  cases e with
  | poll id p timestamp => rfl
  | drain r now =>
    simp only [react, Host.drain, HostEvent.action]
    cases r.asks quote with
    | error reply => rfl
    | ok e =>
      obtain ⟨dev, on⟩ := e
      simp only [Host.setDraining, Option.map_some, Option.getD_some, hostAct, keyed]
      cases hd : h.devices dev with
      | none =>
        simp only [Option.map_none]
        rw [← hd, Function.update_eq_self]
      | some d => rfl

theorem Supervisor.hostServing_eq (es : List HostEvent) :
    s.hostServing exp quote deviceFilter discovered es =
      s.hostAfter exp deviceFilter discovered (es.filterMap (HostEvent.action quote)) := by
  induction es using List.reverseRecOn with
  | nil => rfl
  | append_singleton es e ih =>
    rw [hostServing, List.foldl_append, ← hostServing, ih, List.foldl_cons, List.foldl_nil,
      react_eq, List.filterMap_append]
    cases h : e.action quote with
    | none => simp [h]
    | some a => simp [h, hostAfter]

/-- The devices that are there are the managed ones. -/
theorem Supervisor.hostServing_devices (es : List HostEvent) (dev : String) :
    (∃ d, (s.hostServing exp quote deviceFilter discovered es).devices dev = some d) ↔
      dev ∈ managed deviceFilter discovered := by
  rw [hostServing_eq, hostAfter_devices]
  split <;> simp [*]

/-- A poll leaves the flags of all devices alone. -/
theorem Supervisor.hostAct_poll_draining (h : Host) (id : String) (p : Probe) (timestamp : ℤ)
    (dev : String) :
    (s.hostAct exp h (id, .poll p timestamp)).draining dev = h.draining dev := by
  simp only [hostAct, keyed, Host.draining]
  by_cases hdev : dev = id
  · subst hdev
    cases hd : h.devices dev with
    | none => simp
    | some d =>
      simp only [Function.update_self, Option.map_some, act]
      rw [(s.pollDevice_outages exp d.state p).1, LifecycleMachine.step_draining]
  · simp only [Function.update_of_ne hdev]

/-- The flag of a device after an event: that of an acceptable request for it, or the old
one. -/
theorem Supervisor.react_draining {h : Host} {dev : String} {d : HostDevice}
    (hd : h.devices dev = some d) (e : HostEvent) :
    (s.react exp quote h e).draining dev = (e.wants quote dev).getD (h.draining dev) := by
  cases e with
  | poll id p timestamp => exact s.hostAct_poll_draining exp h id p timestamp dev
  | drain r now =>
    simp only [react]
    cases hasks : r.asks quote with
    | error reply => simp only [Host.drain, HostEvent.wants, hasks, Option.getD_none]
    | ok a =>
      obtain ⟨dev', on⟩ := a
      rw [HostEvent.wants_of_asks hasks]
      cases hd' : h.devices dev' with
      | none =>
        have hne : dev' ≠ dev := by
          rintro rfl
          exact Option.some_ne_none d (hd.symm.trans hd')
        rw [(Host.drain_refused quote now _).2, if_neg hne, Option.getD_none]
        intro dev'' on'' hasks'
        rw [hasks] at hasks'
        cases hasks'
        exact hd'
      | some d' =>
        rw [Host.drain_of_devices hasks hd', Host.setDraining_draining hd']
        by_cases hne : dev' = dev
        · rw [if_pos hne, if_pos hne.symm, Option.getD_some]
        · rw [if_neg hne, if_neg (Ne.symm hne), Option.getD_none]

/-- Of a device that is not polled, an event leaves the published state alone. -/
theorem Supervisor.react_published (h : Host) (e : HostEvent) {dev : String}
    (he : ∀ p timestamp, e ≠ .poll dev p timestamp) :
    (((s.react exp quote h e).devices dev).bind fun d => d.state.published) =
      (h.devices dev).bind fun d => d.state.published := by
  rw [react_eq]
  cases e with
  | poll id p timestamp =>
    have hne : dev ≠ id := fun h => he p timestamp (h ▸ rfl)
    simp only [HostEvent.action, Option.map_some, Option.getD_some, hostAct, keyed,
      Function.update_of_ne hne]
  | drain r now =>
    simp only [HostEvent.action]
    cases r.asks quote with
    | error reply => rfl
    | ok a =>
      obtain ⟨dev', on⟩ := a
      simp only [Option.map_some, Option.getD_some, hostAct, keyed]
      by_cases hne : dev = dev'
      · subst hne
        rw [Function.update_self]
        cases h.devices dev with
        | none => rfl
        | some d => exact d.state.setDraining_published on r.remoteAddr now
      · rw [Function.update_of_ne hne]

/-- In every run the flag of a managed device is the one of the last acceptable request. -/
theorem Supervisor.hostServing_draining (es : List HostEvent) {dev : String}
    (hdev : dev ∈ managed deviceFilter discovered) :
    (s.hostServing exp quote deviceFilter discovered es).draining dev =
      drainAsked quote dev es := by
  induction es using List.reverseRecOn with
  | nil =>
    have hd := (s.initHost_eq deviceFilter discovered).2 dev
    rw [if_pos hdev] at hd
    exact Host.draining_of_devices hd
  | append_singleton es e ih =>
    obtain ⟨d, hd⟩ := (s.hostServing_devices exp quote deviceFilter discovered es dev).mpr hdev
    rw [drainAsked_concat, ← ih, ← s.react_draining exp quote hd, hostServing, List.foldl_append]
    rfl

/-- A poll of a drained device publishes a state that is out of service. -/
theorem Supervisor.hostAct_poll_of_draining {h : Host} {dev : String} (hon : h.draining dev = true)
    (p : Probe) (timestamp : ℤ) :
    ∃ d st, (s.hostAct exp h (dev, .poll p timestamp)).devices dev = some d ∧
      d.state.published = some st ∧
      (st = .draining ∨ st = .degraded ∨ st = .offline ∨ st = .recovering) := by
  obtain ⟨d, hd⟩ := Host.exists_of_draining hon
  refine ⟨s.act exp d (.poll p timestamp), _, ?_, s.pollDevice_published exp d.state p, ?_⟩
  · simp only [hostAct, keyed, Function.update_self, hd, Option.map_some]
  · rw [(s.pollDevice_outages exp d.state p).1]
    rw [Host.draining_of_devices hd] at hon
    exact (LifecycleMachine.step_of_draining hon _).outOfService

/-- For every interleaving of polls and requests: the flag of a managed device is the one of
the last acceptable request for it. A further request is answered with 200 exactly if it is
acceptable and names a managed device; its reply says what it asked for and whether the last
request for the device asked for the other; it changes the host in that case only. A poll that
finds the device drained, with no request before its end, publishes a state that is out of
service. -/
theorem Supervisor.drain_replies (es : List HostEvent) :
    let h := s.hostServing exp quote deviceFilter discovered es
    (∀ dev ∈ managed deviceFilter discovered, h.draining dev = drainAsked quote dev es) ∧
      (∀ r now,
        ((h.drain quote r now).1.code = 200 ↔
          ∃ dev on, r.asks quote = .ok (dev, on) ∧ dev ∈ managed deviceFilter discovered) ∧
        (∀ dev on, r.asks quote = .ok (dev, on) → dev ∈ managed deviceFilter discovered →
          (h.drain quote r now).1.body = [("device", .str dev), ("draining", .bool on),
            ("changed", .bool (decide (drainAsked quote dev es ≠ on)))]) ∧
        ((h.drain quote r now).2 ≠ h ↔
          ∃ dev on, r.asks quote = .ok (dev, on) ∧ dev ∈ managed deviceFilter discovered ∧
            drainAsked quote dev es ≠ on)) ∧
      ∀ dev ∈ managed deviceFilter discovered, drainAsked quote dev es = true →
        ∀ p timestamp, ∃ d st,
          (s.hostAct exp h (dev, .poll p timestamp)).devices dev = some d ∧
            d.state.published = some st ∧
            (st = .draining ∨ st = .degraded ∨ st = .offline ∨ st = .recovering) := by
  intro h
  have hflag : ∀ dev ∈ managed deviceFilter discovered, h.draining dev = drainAsked quote dev es :=
    fun dev hdev => s.hostServing_draining exp quote deviceFilter discovered es hdev
  have hdevices := s.hostServing_devices exp quote deviceFilter discovered es
  refine ⟨hflag, fun r now => ?_, fun dev hdev hon p timestamp => ?_⟩
  · by_cases haccept : ∃ dev on, r.asks quote = .ok (dev, on) ∧
      dev ∈ managed deviceFilter discovered
    · obtain ⟨dev, on, hasks, hdev⟩ := haccept
      obtain ⟨d, hd⟩ := (hdevices dev).mpr hdev
      rw [Host.drain_ne_self_iff hasks hd, Host.drain_of_devices hasks hd, hflag dev hdev, hasks]
      simp only [Except.ok.injEq, Prod.mk.injEq, true_iff]
      refine ⟨⟨dev, on, ⟨rfl, rfl⟩, hdev⟩, ?_, fun hne => ⟨dev, on, ⟨rfl, rfl⟩, hdev, hne⟩, ?_⟩
      · rintro _ _ ⟨rfl, rfl⟩ -
        rfl
      · rintro ⟨_, _, ⟨rfl, rfl⟩, -, hne⟩
        exact hne
    · obtain ⟨hcode, hsame⟩ := Host.drain_refused quote (h := h) (r := r) now (by
        intro dev on hasks
        by_contra hne
        exact haccept ⟨dev, on, hasks, (hdevices dev).mp (Option.ne_none_iff_exists'.mp hne)⟩)
      refine ⟨iff_of_false hcode haccept, fun dev on hasks hdev => ?_,
        iff_of_false (not_not.mpr hsame) ?_⟩
      · exact absurd ⟨dev, on, hasks, hdev⟩ haccept
      · rintro ⟨dev, on, hasks, hdev, -⟩
        exact haccept ⟨dev, on, hasks, hdev⟩
  · exact s.hostAct_poll_of_draining exp ((hflag dev hdev).trans hon) p timestamp

end

/-- A request with a form for the first device. -/
def formRequest (method on : String) : DrainRequest where
  method := method
  contentType := "application/x-www-form-urlencoded"
  decoded := .error "EOF"
  formValue := fun name => if name = "device" then "0" else if name = "on" then on else ""
  remoteAddr := "10.0.0.1:40000"

/-- A drain that is asked for twice, in two spellings, changes the device once; to read the
endpoint is no request. -/
theorem formRequest_replies :
    let h := smallSupervisor.hostServing (fun _ => 1) id [] ["0"]
      [.drain (formRequest "POST" "T") 0, .poll "0" (plainTurn false .unsup 0).probe 0]
    h.draining "0" = true ∧
      (h.drain id (formRequest "PUT" "1") 1).1.body =
        [("device", .str "0"), ("draining", .bool true), ("changed", .bool false)] ∧
      (h.drain id (formRequest "PUT" "1") 1).2 = h ∧
      (h.drain id (formRequest "GET" "0") 1).1.code ≠ 200 := by
  intro h
  obtain ⟨hflag, hreplies, -⟩ := smallSupervisor.drain_replies (fun _ => 1) id [] ["0"]
    [.drain (formRequest "POST" "T") 0, .poll "0" (plainTurn false .unsup 0).probe 0]
  obtain ⟨-, hbody, hchange⟩ := hreplies (formRequest "PUT" "1") 1
  refine ⟨(hflag "0" (by decide)).trans rfl, hbody "0" true rfl (by decide), ?_, ?_⟩
  · by_contra hne
    obtain ⟨dev, on, hasks, -, hasked⟩ := hchange.mp hne
    cases hasks
    exact hasked rfl
  · rw [Ne, (hreplies (formRequest "GET" "0") 1).1]
    rintro ⟨dev, on, hasks, -⟩
    cases hasks

end GpuSidecar.Engine
