import GpuSidecar.Models.Dataplane.Proxy
import Mathlib.Data.List.Chain

/-!
# The life of an admitted request

Whatever the wait, the upstream server and the peer do, the handler takes an admitted
ticket along one path of the request state machine to one terminal state, calls `Done`
exactly for a ticket that was dispatched, and releases the work that it reserves. The
accounted part of a handler's log has few shapes, and everything else is read off them.
-/

namespace GpuSidecar.Dataplane

open Http Hops

/-! ### The state machine of a request -/

namespace ReqState

/-- The states that an admitted request does not leave. -/
def terminal (state : ReqState) : Bool := state.served || decide (state = .timedOut)

/-- The successors of a state. -/
def Follows : ReqState → ReqState → Prop
  | .received, state => state = .queued
  | .queued, state => state = .timedOut ∨ state = .cancelled ∨ state = .dispatching
  | .dispatching, state => state = .streaming ∨ state = .waitingFull ∨ state.served = true
  | .streaming, state => state.served = true
  | .waitingFull, state => state.served = true
  | _, _ => False

/-- A served state is terminal. -/
theorem terminal_of_served {state : ReqState} (h : state.served = true) :
    state.terminal = true := by
  rw [terminal, h]
  rfl

/-- A terminal state has no successor. -/
theorem not_follows_of_terminal {state next : ReqState} (h : state.terminal = true) :
    ¬ state.Follows next := by
  cases state with
  | completed | cancelled | timedOut | upstreamFail | partialStream => exact id
  | received | queued | dispatching | streaming | waitingFull | rejected =>
    simp [terminal, served] at h

end ReqState

/-- A path of the state machine from a new ticket to a terminal state. -/
structure Life (path : List ReqState) : Prop where
  follows : (.received :: path).IsChain ReqState.Follows
  ends : ∃ state, path.getLast? = some state ∧ state.terminal = true

/-- A life has exactly one terminal state, since no state follows a terminal one. -/
theorem Life.countP_terminal {path : List ReqState} (h : Life path) :
    path.countP ReqState.terminal = 1 := by
  obtain ⟨hchain, final, hlast, hfinal⟩ := h
  obtain ⟨path, rfl⟩ : ∃ init, path = init ++ [final] := List.getLast?_eq_some_iff.mp hlast
  have hnone : path.countP ReqState.terminal = 0 := by
    refine List.countP_eq_zero.mpr fun state hmem hterminal => ?_
    obtain ⟨before, after, rfl⟩ := List.append_of_mem hmem
    obtain ⟨next, rest, hnext⟩ : ∃ next rest, after ++ [final] = next :: rest := by
      cases after with
      | nil => exact ⟨final, [], rfl⟩
      | cons next after => exact ⟨next, after ++ [final], rfl⟩
    have hsplit : ReqState.received :: ((before ++ state :: after) ++ [final]) =
        (ReqState.received :: before) ++ state :: next :: rest := by
      simp [hnext]
    rw [hsplit] at hchain
    have hstep := (List.isChain_append_cons_cons.mp hchain).2.1
    exact ReqState.not_follows_of_terminal hterminal hstep
  rw [List.countP_append, hnone, List.countP_singleton, hfinal]
  rfl

/-! ### What a log accounts for -/

/-- The transitions of the ticket in a log, with those that `Done` makes. -/
def transitions (log : List ProxyAction) : List ReqState :=
  log.filterMap fun
    | .transition state _ => some state
    | .done state _ => some state
    | _ => none

/-- The calls on the work accountant in a log. -/
def workCalls (log : List ProxyAction) : List ProxyAction :=
  log.filter fun
    | .reserveTokens .. | .activate | .release => true
    | _ => false

@[simp] theorem transitions_append (log log' : List ProxyAction) :
    transitions (log ++ log') = transitions log ++ transitions log' := List.filterMap_append

@[simp] theorem workCalls_append (log log' : List ProxyAction) :
    workCalls (log ++ log') = workCalls log ++ workCalls log' := List.filter_append _ _

/-- Unaccounted actions make no transition. -/
theorem transitions_accounted (log : List ProxyAction) :
    transitions (accounted log) = transitions log := by
  rw [transitions, transitions, accounted, List.filterMap_filter]
  congr 1
  funext a
  cases a <;> rfl

/-- Unaccounted actions do not touch the work accountant. -/
theorem workCalls_accounted (log : List ProxyAction) :
    workCalls (accounted log) = workCalls log := by
  rw [workCalls, workCalls, accounted, List.filter_filter]
  congr 1
  funext a
  cases a <;> rfl

/-! ### The relays -/

/-- What a relay accounts for: at most one transition, then one `Done` with a served state. -/
def Serves (log : List ProxyAction) : Prop :=
  ∃ opened state reason, accounted log = opened ++ [.done state reason] ∧ state.served = true ∧
    (opened = [] ∨ opened = [.transition .streaming "stream_open"] ∨
      opened = [.transition .waitingFull "await_full"])

/-- A full response is accounted for, whatever the upstream server answers. -/
theorem relayJSON_serves (d : Downstream) (w : ResponseWriter) (reqID : String)
    (upstream : Reply) : Serves (relayJSON d w reqID upstream).log := by
  cases upstream with
  | error err => exact ⟨_, _, _, rfl, rfl, Or.inr (Or.inr rfl)⟩
  | ok resp =>
    simp only [relayJSON]
    split
    · exact ⟨_, .completed, "json_ok", rfl, rfl, Or.inr (Or.inr rfl)⟩
    · exact ⟨_, .upstreamFail, "vllm_non_2xx", rfl, rfl, Or.inr (Or.inr rfl)⟩

/-- An open stream that is finished is accounted for. -/
theorem serves_of_streaming {log : List ProxyAction} (state : ReqState) (reason : String)
    (h : accounted log = [.transition .streaming "stream_open"] ++ [.done state reason])
    (hstate : state.served = true) : Serves log :=
  ⟨_, state, reason, h, hstate, Or.inr (Or.inl rfl)⟩

/-- A stream is accounted for, whatever the upstream server and the peer do. -/
theorem relayStream_serves (d : Downstream) (w : ResponseWriter) (reqID : String)
    (upstream : Reply) : Serves (relayStream d w reqID upstream).log := by
  simp only [relayStream]
  split
  · exact ⟨[], .upstreamFail, "no_flusher", rfl, rfl, Or.inl rfl⟩
  · cases upstream with
    | error err => exact ⟨[], .upstreamFail, "vllm_connect_failed", rfl, rfl, Or.inl rfl⟩
    | ok resp =>
      simp only
      split
      · exact ⟨[], .upstreamFail, "vllm_non_200_stream", rfl, rfl, Or.inl rfl⟩
      · refine Reads.loop_rule
          (I := fun _ (s : Stream) => accounted s.log = [.transition .streaming "stream_open"])
          (Q := fun (r : Handled) => Serves r.log) ?_ ?_ ?_ ?_ resp.body.reads [] ?_ rfl
        · intro _ s line r hopen hr
          rcases s.chunk_cases d line with ⟨t, ht, -⟩ | ⟨r', hr', -, hlog⟩
          · rw [ht] at hr
            cases hr
          · rw [hr'] at hr
            cases hr
            rw [hopen] at hlog
            exact serves_of_streaming _ _ hlog rfl
        · intro _ s line t hopen ht
          rcases s.chunk_cases d line with ⟨t', ht', hlog, -⟩ | ⟨r, hr, -, -⟩
          · rw [ht'] at ht
            cases ht
            exact hlog.trans hopen
          · rw [hr] at ht
            cases ht
        · intro _ s r hopen hr
          rw [Stream.check] at hr
          split at hr
          · cases hr
            refine serves_of_streaming .cancelled "client_cancelled_mid_stream" ?_ rfl
            rw [Stream.leave, accounted_append, hopen]
            rfl
          · cases hr
        · intro _ s t hopen ht
          rw [Stream.check] at ht
          split at ht
          · cases ht
          · cases ht
            exact hopen
        · intro s hopen
          obtain ⟨-, state, reason, hlog, hstate, -⟩ := s.stop_spec d resp.body.reads.ending
          rw [hopen] at hlog
          exact serves_of_streaming state reason hlog hstate

/-- Both relays account for their ticket. -/
theorem relay_serves (d : Downstream) (stream : Bool) (reqID : String) (upstream : Reply) :
    Serves (relay d stream reqID upstream).log := by
  cases stream with
  | false => exact relayJSON_serves d .new reqID upstream
  | true => exact relayStream_serves d .new reqID upstream

/-! ### The handler -/

/-- The reservation that a handler makes for a dispatched request. -/
def Proxy.reservation (p : Proxy) (req : ProxyRequest) (body : ChatBody) : ProxyAction :=
  let (keyHash, tokens) := p.extractPrefixHeaders req
  .reserveTokens (estimateInputTokens body) (if keyHash ≠ "" then tokens else 0)
    (expectedOutputTokens body) (if keyHash ≠ "" then 1 else 0)

/-- What the accounts owe to an admitted request: a life of the state machine with one
terminal state, `Done` once if it was dispatched, and work released as it was reserved. -/
structure Disciplined (p : Proxy) (req : ProxyRequest) (body : ChatBody) (service : Service)
    (log : List ProxyAction) : Prop where
  life : Life (transitions log)
  terminal : (transitions log).countP ReqState.terminal = 1
  done : (dones log).length = if service.expiry = none then 1 else 0
  work : workCalls log =
    if service.expiry = none ∧ p.work = true then [p.reservation req body, .activate, .release]
    else []

namespace Proxy

variable (p : Proxy) (d : Downstream) {req : ProxyRequest} {service : Service} {body : ChatBody}

/-- The accounted log of a request that stops waiting. -/
theorem accounted_expired (hbody : req.body = .ok body) (hadmitted : service.admission = none)
    {why : Expiry} (hexpired : service.expiry = some why) :
    ∃ state reason, accounted (p.chatCompletions d req service).log =
        [.transition .queued "enqueued", .transition state reason] ∧
      (state = .timedOut ∨ state = .cancelled) := by
  cases why with
  | timedOut =>
    refine ⟨.timedOut, "queue_timeout", ?_, Or.inl rfl⟩
    simp only [chatCompletions, hbody, hadmitted, hexpired]
    rfl
  | cancelled =>
    refine ⟨.cancelled, "client_cancelled_in_queue", ?_, Or.inr rfl⟩
    simp only [chatCompletions, hbody, hadmitted, hexpired]
    rfl

/-- A cache observation is not accounted for. -/
theorem accounted_observeAtDispatch (keyHash : String) (tokens inputLen : ℤ) :
    accounted (p.observeAtDispatch keyHash tokens inputLen) = [] := by
  simp only [observeAtDispatch]
  split_ifs <;> rfl

/-- The reservation surrounds what the relay accounts for. -/
theorem accounted_accountWork (keyHash : String) (tokens inputLen expectedOutput : ℤ)
    (log : List ProxyAction) :
    accounted (p.accountWork keyHash tokens inputLen expectedOutput log) =
      (if p.work then [.reserveTokens inputLen (if keyHash ≠ "" then tokens else 0) expectedOutput
        (if keyHash ≠ "" then 1 else 0), .activate] else []) ++ accounted log ++
        (if p.work then [.release] else []) := by
  cases hwork : p.work with
  | false => simp [accountWork, hwork]
  | true =>
    by_cases hkey : keyHash = "" <;>
      simp [accountWork, hwork, hkey, accounted, ProxyAction.unaccounted]

/-- The accounted log of a dispatched request: the relay's, within the reservation. -/
theorem accounted_dispatched (hbody : req.body = .ok body) (hadmitted : service.admission = none)
    (hdispatched : service.expiry = none) :
    accounted (p.chatCompletions d req service).log =
      [.transition .queued "enqueued", .transition .dispatching "dispatch"] ++
        ((if p.work then [p.reservation req body, .activate] else []) ++
          accounted (relay d (detectStream body) req.reqID service.upstream).log ++
          (if p.work then [.release] else [])) := by
  simp only [chatCompletions, hbody, hadmitted, hdispatched, accounted_append,
    accounted_observeAtDispatch, accounted_accountWork]
  rfl

/-- A request that stops waiting is disciplined. -/
theorem disciplined_expired (hbody : req.body = .ok body) (hadmitted : service.admission = none)
    {why : Expiry} (hexpired : service.expiry = some why) :
    Disciplined p req body service (p.chatCompletions d req service).log := by
  obtain ⟨state, reason, hlog, hstate⟩ := p.accounted_expired d hbody hadmitted hexpired
  have hpath : transitions (p.chatCompletions d req service).log = [.queued, state] := by
    rw [← transitions_accounted, hlog]
    rfl
  have hlife : Life [.queued, state] := by
    rcases hstate with rfl | rfl
    · exact ⟨by simp [ReqState.Follows], .timedOut, rfl, rfl⟩
    · exact ⟨by simp [ReqState.Follows], .cancelled, rfl, rfl⟩
  refine ⟨hpath ▸ hlife, hpath ▸ hlife.countP_terminal, ?_, ?_⟩
  · rw [← dones_accounted, hlog, hexpired]
    rfl
  · rw [← workCalls_accounted, hlog, hexpired]
    rfl

/-- A dispatched request is disciplined. -/
theorem disciplined_dispatched (hbody : req.body = .ok body) (hadmitted : service.admission = none)
    (hdispatched : service.expiry = none) :
    Disciplined p req body service (p.chatCompletions d req service).log := by
  obtain ⟨opened, state, reason, hrelay, hserved, hopened⟩ :=
    relay_serves d (detectStream body) req.reqID service.upstream
  have hlog := p.accounted_dispatched d hbody hadmitted hdispatched
  rw [hrelay] at hlog
  have hpath : transitions (p.chatCompletions d req service).log =
      [.queued, .dispatching] ++ transitions opened ++ [state] := by
    rw [← transitions_accounted, hlog]
    cases p.work <;> simp [transitions, reservation]
  have hlife : Life ([.queued, .dispatching] ++ transitions opened ++ [state]) := by
    refine ⟨?_, state, List.getLast?_concat, ReqState.terminal_of_served hserved⟩
    rcases hopened with rfl | rfl | rfl <;> simp [transitions, ReqState.Follows, hserved]
  refine ⟨hpath ▸ hlife, hpath ▸ hlife.countP_terminal, ?_, ?_⟩
  · rw [← dones_accounted, hlog, hdispatched]
    rcases hopened with rfl | rfl | rfl <;> cases p.work <;> simp [dones, reservation]
  · rw [← workCalls_accounted, hlog, hdispatched]
    rcases hopened with rfl | rfl | rfl <;> cases p.work <;> simp [workCalls, reservation]

/-- For every admitted request, and whatever the wait, the upstream server and the peer do,
the ticket takes one path of the state machine to one terminal state, `Done` is called
once exactly if the wait returned without an error, and reserved work is released once. -/
theorem chatCompletions_disciplined (hbody : req.body = .ok body)
    (hadmitted : service.admission = none) :
    Disciplined p req body service (p.chatCompletions d req service).log := by
  cases hexpiry : service.expiry with
  | none => exact p.disciplined_dispatched d hbody hadmitted hexpiry
  | some why => exact p.disciplined_expired d hbody hadmitted hexpiry

/-- A proxy with a work accountant. -/
def accounting : Proxy := ⟨defaultProxyConfig, id, false, true⟩

/-- A streaming request for at most eight tokens. -/
def streamingBody : ChatBody := ⟨64, some (some true), some (16, [8]), some 8⟩

/-- Two events of a stream, of which the peer takes only the first. -/
def peerLeaves : Service where
  admission := none
  expiry := none
  upstream := .ok ⟨200, Header.empty, ⟨utf8 "a\nb\n", .eof⟩⟩

/-- A request whose peer leaves after the first event ends as cancelled, with its slot and
its work given back. -/
theorem peerLeaves_disciplined :
    transitions (accounting.chatCompletions { Downstream.steady with writeFails := fun n => n = 1 }
        ⟨"req", "", none, .ok streamingBody⟩ peerLeaves).log =
      [.queued, .dispatching, .streaming, .cancelled] ∧
    Disciplined accounting ⟨"req", "", none, .ok streamingBody⟩ streamingBody peerLeaves
      (accounting.chatCompletions { Downstream.steady with writeFails := fun n => n = 1 }
        ⟨"req", "", none, .ok streamingBody⟩ peerLeaves).log :=
  ⟨by decide +kernel, accounting.chatCompletions_disciplined _ rfl rfl⟩

end Proxy

end GpuSidecar.Dataplane
