import GpuSidecar.Models.Routing.Gateway

/-!
# The log of a request

The router logs a request as it goes: what it received, and for every attempt the decision,
the start and the end. The log is complete, and it tells the truth about the response. An
attempt that is retried logs no byte and leaves the client's body alone; at most one attempt,
the last, logs an end; and the bytes reported there are those of the body that the client
has received over all attempts.
-/

namespace GpuSidecar.Routing

open Http Hops

namespace AttemptEvent

/-- The events that end an attempt. -/
def ends : AttemptEvent → Bool
  | firstClientByte => false
  | fullResponseCompleted _ => true
  | streamCompleted _ _ => true
  | clientCancelled _ _ => true
  | partialStreamFailed _ _ _ => true

/-- The bytes of the response, where the event reports them. -/
def bytes? : AttemptEvent → Option ℕ
  | streamCompleted _ bytes => some bytes
  | partialStreamFailed _ _ bytes => some bytes
  | _ => none

end AttemptEvent

/-- The event of a first byte, if there was one. -/
def firstByteLog (first : Bool) : List AttemptEvent := if first then [.firstClientByte] else []

/-- What an attempt logs accounts for what it adds to the client's body. -/
inductive Forwarded.Accounts (before : Bytes) (r : Forwarded) : Prop where
  | retried (hsent : r.sent = false) (hevents : r.events = []) (hbody : r.writer.body = before)
  | ended (first : Bool) (e : AttemptEvent) (hsent : r.sent = true)
      (hevents : r.events = firstByteLog first ++ [e]) (hends : e.ends = true)
      (hsilent : first = false → r.writer.body = before)
      (hbytes : ∀ n, e.bytes? = some n → r.writer.body.length = before.length + n)

/-! ### The streaming loop -/

namespace ForwardStream

/-- The log and the counters account for the bytes written so far. -/
structure Accounts (before : Bytes) (s : ForwardStream) : Prop where
  emitted : s.emitted = firstByteLog s.firstByte
  silent : s.firstByte = false → s.writer.body = before
  length : s.writer.body.length = before.length + s.bytes

/-- Notes that a byte has come. -/
def mark (s : ForwardStream) : ForwardStream :=
  if s.firstByte then s
  else { s with firstByte := true, emitted := s.emitted ++ [.firstClientByte] }

theorem chunk_of_ne_nil (d : Downstream) (s : ForwardStream) {line : Bytes} (hline : line ≠ []) :
    s.chunk d line =
      if d.writeFails s.mark.events then
        .error ({ s.mark with writer := s.mark.writer.failWrite }.leave
          (.clientCancelled "downstream_write_fail" (some s.mark.events)))
      else
        .ok { s.mark with
          writer := s.mark.writer.write line
          events := s.mark.events + 1
          bytes := s.mark.bytes + line.length } := by
  have hempty : line.isEmpty = false := by simpa using hline
  rw [chunk, hempty]
  rfl

variable {before : Bytes} {s t : ForwardStream} {r : Forwarded} {d : Downstream}

/-- Wherever the loop is left, the log ends with the event of leaving it. -/
theorem Accounts.leave (h : s.Accounts before) {e : AttemptEvent} (hends : e.ends = true)
    (hbytes : ∀ n, e.bytes? = some n → n = s.bytes) : (s.leave e).Accounts before := by
  refine .ended s.firstByte e rfl ?_ hends h.silent ?_
  · exact congrArg (· ++ [e]) h.emitted
  · intro n hn
    rw [hbytes n hn]
    exact h.length

theorem Accounts.mark (h : s.Accounts before) :
    s.mark.Accounts before ∧ s.mark.firstByte = true := by
  rw [ForwardStream.mark]
  cases hfirst : s.firstByte with
  | true =>
    rw [if_pos rfl]
    exact ⟨h, hfirst⟩
  | false =>
    rw [if_neg Bool.false_ne_true]
    refine ⟨⟨?_, ?_, h.length⟩, rfl⟩
    · rw [h.emitted, hfirst]
      rfl
    · rintro ⟨⟩

/-- A read that is written adds its bytes to the body and to the count. -/
theorem Accounts.chunk_ok (h : s.Accounts before) {line : Bytes}
    (ht : s.chunk d line = .ok t) : t.Accounts before := by
  by_cases hline : line = []
  · rw [hline, chunk_nil] at ht
    cases ht
    exact h
  · rw [chunk_of_ne_nil d s hline] at ht
    obtain ⟨hmark, hfirst⟩ := h.mark
    split at ht
    · cases ht
    · cases ht
      refine ⟨hmark.emitted, ?_, ?_⟩
      · intro hfalse
        exact absurd (hfirst.symm.trans hfalse) (by decide)
      · have hlength := hmark.length
        simp only [ResponseWriter.write, List.length_append]
        omega

/-- A write that fails ends the attempt. -/
theorem Accounts.chunk_error (h : s.Accounts before) {line : Bytes}
    (hr : s.chunk d line = .error r) : r.Accounts before := by
  by_cases hline : line = []
  · rw [hline, chunk_nil] at hr
    cases hr
  · rw [chunk_of_ne_nil d s hline] at hr
    obtain ⟨hmark, -⟩ := h.mark
    split at hr
    · cases hr
      have hfailed : { s.mark with writer := s.mark.writer.failWrite }.Accounts before :=
        ⟨hmark.emitted, hmark.silent, hmark.length⟩
      apply hfailed.leave rfl
      rintro n ⟨⟩
    · cases hr

theorem Accounts.check_ok (h : s.Accounts before) (ht : s.check d = .ok t) :
    t.Accounts before := by
  rw [check] at ht
  split at ht
  · cases ht
  · cases ht
    exact ⟨h.emitted, h.silent, h.length⟩

theorem Accounts.check_error (h : s.Accounts before) (hr : s.check d = .error r) :
    r.Accounts before := by
  rw [check] at hr
  split at hr
  · cases hr
    apply h.leave rfl
    rintro n ⟨⟩
  · cases hr

/-- The end of the stream accounts for it, whether it is retried or not. -/
theorem Accounts.stop (h : s.Accounts before) (d : Downstream) (ending : Ending) :
    (s.stop d ending).Accounts before := by
  cases ending with
  | eof =>
    apply h.leave rfl
    rintro n ⟨⟩
    rfl
  | failed err =>
    rw [ForwardStream.stop]
    cases hfirst : s.firstByte with
    | false =>
      cases d.ctxErr with
      | true =>
        apply h.leave rfl
        rintro n ⟨⟩
      | false =>
        -- the one branch that the gateway takes for a failure before the response
        refine .retried rfl ?_ (h.silent hfirst)
        exact h.emitted.trans (by rw [hfirst]; rfl)
    | true =>
      cases d.ctxErr with
      | true =>
        apply h.leave rfl
        rintro n ⟨⟩
      | false =>
        apply h.leave rfl
        rintro n ⟨⟩
        rfl

theorem Accounts.loop (h : s.Accounts before) (d : Downstream) (reads : Reads) :
    (reads.loop (ForwardStream.chunk d) (ForwardStream.check d) (ForwardStream.stop d)
      s).Accounts before := by
  apply Reads.loop_rule (I := fun _ (t : ForwardStream) => t.Accounts before) _ _ _ _ reads []
    _ h
  · exact fun _ _ _ _ ht => ht.chunk_error
  · exact fun _ _ _ _ ht => ht.chunk_ok
  · exact fun _ _ _ ht => ht.check_error
  · exact fun _ _ _ ht => ht.check_ok
  · exact fun _ ht => ht.stop d _

end ForwardStream

/-- Every attempt accounts for what it adds to the client's body. -/
theorem forward_accounts (d : Downstream) (w : ResponseWriter) (backendID reqID : String)
    (stream : Bool) (reply : Reply) :
    (forward d w backendID reqID stream reply).Accounts w.body := by
  cases reply with
  | error err => exact .retried rfl rfl rfl
  | ok resp =>
    cases hrej : rejects resp.status with
    | true =>
      rw [forward, if_pos hrej]
      exact .retried rfl rfl rfl
    | false =>
      cases stream with
      | false =>
        rw [forward, hrej]
        refine .ended true (.fullResponseCompleted resp.status) rfl rfl rfl ?_ ?_
        · rintro ⟨⟩
        · rintro n ⟨⟩
      | true =>
        cases hflush : d.flusher with
        | false =>
          rw [forward, hrej, hflush]
          exact .retried rfl rfl rfl
        | true =>
          rw [forward_stream_eq w backendID reqID hrej hflush]
          apply ForwardStream.Accounts.loop
          exact ⟨rfl, fun _ => rfl, rfl⟩

/-! ### The log of a request -/

namespace GatewayRun

/-- What the router logs before the first attempt. -/
def opening (g : GatewayRun) : List RouterEvent := if g.readErr = none then g.begin.events else []

/-- What the router logs of an attempt and the decision for it. -/
def attemptLog (g : GatewayRun) (made : RouteDecision × Attempt) : List RouterEvent :=
  let a := made.2
  let route := routeID g.reqID a.number
  [.routeDecided route made.1 a.number, .routeAttemptStarted route a.backendID] ++
    a.result.events.map (.ofAttempt route a.backendID) ++
    if a.result.sent then []
    else [.routeAttemptFailed route a.backendID a.result.retryReason a.number]

/-- The attempt of an iteration with the decision for it. -/
def decided (g : GatewayRun) (s : AttemptLoop) (dec : RouteDecision) (tried : List String) :
    RouteDecision × Attempt := (dec, g.makeAttempt s dec.backendID tried)

variable {g : GatewayRun} {s t : AttemptLoop}

/-- What one iteration logs. -/
theorem tryOnce_logs (g : GatewayRun) (s : AttemptLoop) :
    (g.tryOnce s = .error
      { s with
        writer := httpErr s.writer 503 "NO_ELIGIBLE_BACKEND" g.reqID "no healthy backend"
        events := s.events ++ [.routeAttemptFailed "" "" "no_eligible_backend" s.attempt] }) ∨
    (∃ tried, g.tryOnce s = .ok
      { s with
        attempt := s.attempt + 1, tried := tried, lastErr := "backend_not_in_snapshot" }) ∨
    (∃ dec tried, (g.decided s dec tried).2.result.sent = true ∧
      g.tryOnce s = .error (s.delivered (g.decided s dec tried).2
        (s.events ++ g.attemptLog (g.decided s dec tried)))) ∨
    (∃ dec tried, (g.decided s dec tried).2.result.sent = false ∧
      g.tryOnce s = .ok (s.retrying (g.decided s dec tried).2
        (s.events ++ g.attemptLog (g.decided s dec tried)))) := by
  cases hsel : g.selectBackend s.attempt g.features (g.snapshot s.snapshotIndex) with
  | none =>
    left
    simp only [tryOnce, hsel]
  | some dec =>
    right
    cases hb : backendByID (g.snapshot s.snapshotIndex)
        (avoidTried (g.snapshot s.snapshotIndex) s.tried dec).backendID with
    | none =>
      left
      exact ⟨_, by simp only [tryOnce, hsel, hb]; rfl⟩
    | some bs =>
      right
      let dec' := avoidTried (g.snapshot s.snapshotIndex) s.tried dec
      have hid : bs.id = dec'.backendID := by simpa using List.find?_some hb
      cases hsent : (g.decided s dec' (dec'.backendID :: s.tried)).2.result.sent with
      | true =>
        left
        refine ⟨dec', dec'.backendID :: s.tried, hsent, ?_⟩
        have hforward : (forward (g.client s.attempt) s.writer dec'.backendID g.reqID
            g.features.stream (g.reply s.attempt dec'.backendID)).sent = true := hsent
        simp only [tryOnce, hsel, hb, hid, attemptLog, hsent]
        simp only [dec'] at hforward
        simp [dec', hforward, AttemptLoop.delivered, decided, makeAttempt]
      | false =>
        right
        refine ⟨dec', dec'.backendID :: s.tried, hsent, ?_⟩
        have hforward : (forward (g.client s.attempt) s.writer dec'.backendID g.reqID
            g.features.stream (g.reply s.attempt dec'.backendID)).sent = false := hsent
        simp only [tryOnce, hsel, hb, hid, attemptLog, hsent]
        simp only [dec'] at hforward
        simp [dec', hforward, AttemptLoop.retrying, decided, makeAttempt]

/-- The log of a request is the opening, the logs of its attempts and a rest. -/
structure LoggedAs (g : GatewayRun) (made : List (RouteDecision × Attempt))
    (rest : List RouterEvent) (s : AttemptLoop) : Prop where
  attempts : s.attempts = made.map Prod.snd
  backends : ∀ m ∈ made, m.2.backendID = m.1.backendID
  events : s.events = g.opening ++ made.flatMap g.attemptLog ++ rest

/-- The attempts were retried, and logged neither a byte nor an end. -/
def Retried (made : List (RouteDecision × Attempt)) : Prop :=
  ∀ m ∈ made, m.2.result.sent = false ∧ m.2.result.events = []

/-- How a request ends: in the log, and for the client. -/
inductive Outcome (g : GatewayRun) (made : List (RouteDecision × Attempt))
    (rest : List RouterEvent) (s : AttemptLoop) : Prop where
  /-- The last attempt was sent, and accounts for the client's body. -/
  | delivered (before : List (RouteDecision × Attempt)) (last : RouteDecision × Attempt)
      (hmade : made = before ++ [last]) (hbefore : Retried before)
      (hsent : last.2.result.sent = true) (haccounts : last.2.result.Accounts [])
      (hwriter : s.writer = last.2.result.writer) (hrest : rest = [])
  /-- The request could not be read. -/
  | unread (err : String) (hread : g.readErr = some err) (hmade : made = []) (hrest : rest = [])
      (hbody : s.writer.body = utf8 (errorJson "READ_BODY" g.reqID err))
  /-- No backend was eligible for the next attempt. -/
  | refused (hmade : Retried made)
      (hrest : rest = [.routeAttemptFailed "" "" "no_eligible_backend" s.attempt])
      (hbody : s.writer.body =
        utf8 (errorJson "NO_ELIGIBLE_BACKEND" g.reqID "no healthy backend"))
  /-- No attempt was left. -/
  | exhausted (hmade : Retried made) (hrest : rest = [])
      (hbody : s.writer.body = utf8 (errorJson "ALL_ATTEMPTS_FAILED" g.reqID s.lastErr))

/-- The log is complete, and agrees with how the request ends. -/
def Accounted (g : GatewayRun) (s : AttemptLoop) : Prop :=
  ∃ made rest, g.LoggedAs made rest s ∧ g.Outcome made rest s

/-- Between two iterations every attempt was retried, and the client's body is empty. -/
def Underway (g : GatewayRun) (s : AttemptLoop) : Prop :=
  ∃ made, g.LoggedAs made [] s ∧ Retried made ∧ s.writer.body = []

/-- The log goes on with the next attempt. -/
theorem LoggedAs.attempt {made : List (RouteDecision × Attempt)} (h : g.LoggedAs made [] s)
    (dec : RouteDecision) (tried : List String) {t : AttemptLoop}
    (hattempts : t.attempts = s.attempts ++ [(g.decided s dec tried).2])
    (hevents : t.events = s.events ++ g.attemptLog (g.decided s dec tried)) :
    g.LoggedAs (made ++ [g.decided s dec tried]) [] t where
  attempts := by rw [hattempts, h.attempts, List.map_append, List.map_singleton]
  backends := List.forall_mem_append.mpr ⟨h.backends, List.forall_mem_singleton.mpr rfl⟩
  events := by
    rw [hevents, h.events, List.flatMap_append, List.flatMap_singleton]
    simp only [List.append_nil, List.append_assoc]

theorem decided_accounts (hbody : s.writer.body = []) (dec : RouteDecision)
    (tried : List String) : (g.decided s dec tried).2.result.Accounts [] := by
  have h := forward_accounts (g.client s.attempt) s.writer dec.backendID g.reqID
    g.features.stream (g.reply s.attempt dec.backendID)
  rwa [hbody] at h

/-- An iteration that goes on has retried its attempt. -/
theorem Underway.next (h : g.Underway s) (ht : g.tryOnce s = .ok t) : g.Underway t := by
  obtain ⟨made, hlog, hretried, hbody⟩ := h
  rcases g.tryOnce_logs s with hcase | ⟨tried, hcase⟩ | ⟨dec, tried, -, hcase⟩ |
    ⟨dec, tried, hsent, hcase⟩ <;> rw [hcase] at ht <;> cases ht
  · exact ⟨made, ⟨hlog.attempts, hlog.backends, hlog.events⟩, hretried, hbody⟩
  · rcases decided_accounts hbody dec tried with ⟨-, hevents, hkept⟩ | ⟨_, _, hsent', -⟩
    · refine ⟨_, hlog.attempt dec tried rfl rfl, ?_, hkept⟩
      exact List.forall_mem_append.mpr
        ⟨hretried, List.forall_mem_singleton.mpr ⟨hsent, hevents⟩⟩
    · exact absurd (hsent.symm.trans hsent') (by decide)

end GatewayRun

end GpuSidecar.Routing
