import GpuSidecar.Models.Dataplane.Proxy
import GpuSidecar.Models.Routing.Trace

/-!
# Retrying early failures

The gateway over sidecars that run the request handler. The router recognises a sidecar
that it cannot reach and the statuses 429 and 503. A sidecar whose upstream fails before
the first event answers otherwise: 502 if the connection failed, and an empty 200 if the
upstream died after its header. The router takes both for the response. Every early
failure is retried if and only if no attempt with an alternative left ends in one of
these two ways.
-/

namespace GpuSidecar.Hops

open Http Dataplane Routing

/-- What the selected sidecar does in one attempt. -/
inductive Sidecar where
  | unreachable (err : String)
  /-- Its handler serves the request and returns. -/
  | serves (proxy : Proxy) (service : Service)
  /-- It breaks the connection within its response. -/
  | severed (resp : Response)

/-- A request to the gateway whose client stays connected, and what it meets. -/
structure RetryRun where
  reqID : String
  body : ChatBody
  prefixKey : String
  prefixTokens : Option ℤ
  /-- The features of the request; the stream flag is that of the body. -/
  features : RequestFeatures
  maxRetries : ℤ
  policy : Policy
  /-- What the policy reads besides, in each attempt. -/
  selectEnv : ℕ → SelectEnv
  snapshot : ℕ → BackendSnapshot
  sidecar : ℕ → String → Sidecar

/-- The request as the router passes it on. -/
def RetryRun.proxyRequest (r : RetryRun) : ProxyRequest where
  reqID := r.reqID
  prefixKey := r.prefixKey
  prefixTokens := r.prefixTokens
  body := .ok r.body

/-- What the router reads; a handler that returns ends its response cleanly. -/
def RetryRun.reply (r : RetryRun) : Sidecar → Reply
  | .unreachable err => .error err
  | .serves proxy service =>
    .ok (proxy.chatCompletions .steady r.proxyRequest service).writer.finish
  | .severed resp => .ok resp

/-- The gateway's run of the request. -/
def RetryRun.gateway (r : RetryRun) : GatewayRun where
  reqID := r.reqID
  readErr := none
  features := { r.features with stream := detectStream r.body }
  maxRetries := r.maxRetries
  snapshot := r.snapshot
  selectBackend := fun n => r.policy.selectBackend (r.selectEnv n)
  reply := fun n id => r.reply (r.sidecar n id)
  client := fun _ => .steady

/-- The request reached the upstream server. -/
def Dispatched (service : Service) : Prop := service.admission = none ∧ service.expiry = none

/-- The upstream server cannot be reached, or dies after its header and before its first
event. -/
inductive UpstreamFailsEarly : Reply → Prop where
  | connect (err : String) : UpstreamFailsEarly (.error err)
  | beforeFirstEvent (header : Header) (err : ReadError) :
      UpstreamFailsEarly (.ok ⟨200, header, ⟨[], .failed err⟩⟩)

/-- The attempt ends because its upstream server fails early. -/
def Sidecar.UpstreamFails : Sidecar → Prop
  | .serves _ service => Dispatched service ∧ UpstreamFailsEarly service.upstream
  | _ => False

/-- The attempt ends because its backend fails before any upstream event exists. -/
inductive EarlyFailure : Sidecar → Prop where
  | unreachable (err : String) : EarlyFailure (.unreachable err)
  /-- The sidecar refuses admission. -/
  | refused {proxy : Proxy} {service : Service} {err : QueueError}
      (h : service.admission = some err) : EarlyFailure (.serves proxy service)
  /-- The request waits in the sidecar's queue for too long. -/
  | queueTimeout {proxy : Proxy} {service : Service} (hadmitted : service.admission = none)
      (h : service.expiry = some .timedOut) : EarlyFailure (.serves proxy service)
  /-- The sidecar relays a rejection of its upstream server. -/
  | rejectedUpstream {proxy : Proxy} {service : Service} {resp : Response}
      (hdispatched : Dispatched service) (h : service.upstream = .ok resp)
      (hrejects : rejects resp.status = true) : EarlyFailure (.serves proxy service)
  | upstreamFails {proxy : Proxy} {service : Service} (hdispatched : Dispatched service)
      (h : UpstreamFailsEarly service.upstream) : EarlyFailure (.serves proxy service)

/-- A reply that ends cleanly is sent to the connected client unless it is taken for a
rejection. -/
theorem forward_sent_iff (w : ResponseWriter) (backendID reqID : String) (stream : Bool)
    {resp : Response} (hend : resp.body.ending = .eof) :
    (forward .steady w backendID reqID stream (.ok resp)).sent = true ↔
      rejects resp.status = false := by
  cases hrej : rejects resp.status with
  | true => simp [forward, hrej]
  | false =>
    refine iff_of_true ?_ rfl
    cases stream with
    | false => simp [forward, hrej]
    | true =>
      rw [forward_stream_eq w backendID reqID hrej rfl]
      by_cases hdata : resp.body.data = []
      · simp [Body.reads, hdata, hend, Reads.ofBytes, Reads.loop, ForwardStream.stop,
          ForwardStream.leave]
      · exact (ForwardStream.loop_sent .steady _ rfl hdata).1

/-- The status of a sidecar that serves the request is what the router decides by. -/
theorem RetryRun.serves_sent_iff (r : RetryRun) (w : ResponseWriter) (backendID : String)
    (proxy : Proxy) (service : Service) :
    (forward .steady w backendID r.reqID (detectStream r.body)
      (r.reply (.serves proxy service))).sent = true ↔
      rejects (proxy.chatCompletions .steady r.proxyRequest service).writer.finish.status =
        false :=
  forward_sent_iff w backendID r.reqID _ rfl

/-- The status that an early failure of the upstream server is answered with. -/
theorem UpstreamFailsEarly.not_rejects {upstream : Reply} (h : UpstreamFailsEarly upstream) :
    rejects (relayStatus upstream) = false := by
  cases h with
  | connect err => rfl
  | beforeFirstEvent header err => rfl

/-- Of the early failures, the router takes exactly those of the upstream server for the
response. -/
theorem EarlyFailure.sent_iff {sidecar : Sidecar} (h : EarlyFailure sidecar) (r : RetryRun)
    (w : ResponseWriter) (backendID : String) :
    (forward .steady w backendID r.reqID (detectStream r.body) (r.reply sidecar)).sent = true ↔
      sidecar.UpstreamFails := by
  cases h with
  | unreachable err => simp [RetryRun.reply, forward, Sidecar.UpstreamFails]
  | @refused proxy service err hrefused =>
    rw [r.serves_sent_iff, proxy.chatCompletions_refused .steady rfl hrefused]
    refine iff_of_false ?_ ?_
    · rcases rejectionStatus_eq err with hstatus | hstatus <;> rw [hstatus] <;> simp [rejects]
    · rintro ⟨⟨hadmitted, -⟩, -⟩
      rw [hrefused] at hadmitted
      cases hadmitted
  | @queueTimeout proxy service hadmitted htimedOut =>
    rw [r.serves_sent_iff, proxy.chatCompletions_timedOut .steady rfl hadmitted htimedOut]
    refine iff_of_false (by simp [rejects]) ?_
    rintro ⟨⟨-, hdispatched⟩, -⟩
    rw [htimedOut] at hdispatched
    cases hdispatched
  | @rejectedUpstream proxy service resp hdispatched hupstream hrejects =>
    rw [r.serves_sent_iff, proxy.chatCompletions_dispatched rfl hdispatched.1 hdispatched.2,
      hupstream]
    refine iff_of_false (by simpa [relayStatus] using hrejects) ?_
    rintro ⟨-, hearly⟩
    have hother := hearly.not_rejects
    rw [hupstream] at hother
    exact absurd (hrejects.symm.trans hother) (by simp)
  | @upstreamFails proxy service hdispatched hearly =>
    rw [r.serves_sent_iff, proxy.chatCompletions_dispatched rfl hdispatched.1 hdispatched.2]
    exact iff_of_true hearly.not_rejects ⟨hdispatched, hearly⟩

/-- A failure of the upstream server is an early failure. -/
theorem Sidecar.UpstreamFails.earlyFailure {sidecar : Sidecar} (h : sidecar.UpstreamFails) :
    EarlyFailure sidecar := by
  cases sidecar with
  | unreachable err => exact .unreachable err
  | serves proxy service => exact .upstreamFails h.1 h.2
  | severed resp => cases h

/-- A backend that was not tried is eligible in the snapshot after the attempt. -/
def RetryRun.HasAlternative (r : RetryRun) (a : Attempt) : Prop :=
  ∃ b ∈ eligible (r.snapshot (a.snapshotIndex + 1)), b.id ∉ a.tried

/-- Every early failure with retries and an alternative left is followed by another
attempt. -/
def RetriesEarlyFailures (r : RetryRun) : Prop :=
  ∀ a ∈ r.gateway.chatCompletions.attempts, (a.number : ℤ) < r.maxRetries →
    EarlyFailure (r.sidecar a.number a.backendID) → r.HasAlternative a →
      ∃ b ∈ r.gateway.chatCompletions.attempts, b.number = a.number + 1

/-- Early failures are retried, for streams and full responses alike, if and only if no
attempt with retries and an alternative left ends because an upstream server cannot be
reached or dies before its first event. -/
theorem retriesEarlyFailures_iff (r : RetryRun) :
    RetriesEarlyFailures r ↔
      ∀ a ∈ r.gateway.chatCompletions.attempts, (a.number : ℤ) < r.maxRetries →
        r.HasAlternative a → ¬ (r.sidecar a.number a.backendID).UpstreamFails := by
  have hdecides : r.gateway.DecidesBy r.policy := ⟨r.selectEnv, fun _ => rfl⟩
  obtain ⟨made, htrace⟩ := GatewayRun.chatCompletions_trace hdecides
  have hsent : ∀ a ∈ r.gateway.chatCompletions.attempts,
      EarlyFailure (r.sidecar a.number a.backendID) →
      (a.result.sent = true ↔ (r.sidecar a.number a.backendID).UpstreamFails) := by
    intro a ha hearly
    rw [htrace.genuine a ha]
    exact hearly.sent_iff r a.writer a.backendID
  constructor
  · intro h a ha hbudget halternative hfails
    have hearly := hfails.earlyFailure
    have hnext := (htrace.exists_number _).mp (h a ha hbudget hearly halternative)
    have hlast := htrace.sent_last a ha ((hsent a ha hearly).mpr hfails)
    omega
  · intro h a ha hbudget hearly halternative
    have hunsent : a.result.sent = false := by
      rw [Bool.eq_false_iff]
      intro hs
      exact h a ha hbudget halternative ((hsent a ha hearly).mp hs)
    have heligible : eligible (r.gateway.snapshot (a.number + 1)) ≠ [] := by
      obtain ⟨b, hb, -⟩ := halternative
      rw [htrace.snapshots a ha] at hb
      exact List.ne_nil_of_mem hb
    have hallowed : a.number + 1 < (r.gateway.maxRetries + 1).toNat := by
      change a.number + 1 < (r.maxRetries + 1).toNat
      omega
    exact (htrace.exists_number _).mpr (htrace.retried a ha hunsent hallowed heligible)

/-- A streaming request with one retry over two idle backends whose upstream servers cannot
be reached. -/
def refusedUpstreamRun : RetryRun where
  reqID := "req"
  body := ⟨15, some (some true), some (0, []), some 0⟩
  prefixKey := ""
  prefixTokens := none
  features := ⟨true, 0, 0, "", 0, false⟩
  maxRetries := 1
  policy := .roundRobin
  selectEnv := fun _ => ⟨0, none⟩
  snapshot := fun _ => ⟨[idleBackend "a", idleBackend "b"]⟩
  sidecar := fun _ _ => .serves ⟨defaultProxyConfig, id, false, false⟩
    ⟨none, none, .error "connection refused"⟩

/-- The first attempt is the only one, although the second backend was not tried. -/
theorem refusedUpstreamRun_not_retried :
    refusedUpstreamRun.gateway.chatCompletions.attempts.map
        (fun a => (a.number, a.backendID, a.tried)) = [(0, "a", ["a"])] ∧
      ¬ RetriesEarlyFailures refusedUpstreamRun := by
  have hmade : refusedUpstreamRun.gateway.chatCompletions.attempts.map
      (fun a => (a.number, a.backendID, a.tried)) = [(0, "a", ["a"])] := by
    decide +kernel
  refine ⟨hmade, ?_⟩
  intro h
  obtain ⟨a, hattempts, ha⟩ := List.map_eq_singleton_iff.mp hmade
  obtain ⟨hnumber, -, htried⟩ : a.number = 0 ∧ a.backendID = "a" ∧ a.tried = ["a"] := by
    simpa using ha
  have halternative : refusedUpstreamRun.HasAlternative a := by
    refine ⟨idleBackend "b", ?_, ?_⟩
    · change idleBackend "b" ∈ eligible ⟨[idleBackend "a", idleBackend "b"]⟩
      decide +kernel
    · rw [htried]
      decide
  have hearly : EarlyFailure (refusedUpstreamRun.sidecar a.number a.backendID) :=
    .upstreamFails ⟨rfl, rfl⟩ (.connect _)
  have hbudget : (a.number : ℤ) < refusedUpstreamRun.maxRetries := by
    rw [hnumber]
    decide
  obtain ⟨b, hb, hnext⟩ := h a (by simp [hattempts]) hbudget hearly halternative
  rw [hattempts, List.mem_singleton] at hb
  rw [hb] at hnext
  omega

end GpuSidecar.Hops
