import GpuSidecar.Models.Dataplane.Relay

/-!
# The sidecar's request handler

The embedding of `Proxy.ChatCompletions` in `internal/dataplane/proxy.go`: admission,
queue, dispatch, and one of the two relays. What the JSON decoder finds in the body, what
the queue answers, and what the upstream server and the peer do are arguments. The
transitions that `Admit` and `WaitForDispatch` make on the ticket are part of the log.
-/

namespace GpuSidecar.Dataplane

open Http Hops

/-- The fields of `ProxyConfig` that the handler reads. -/
structure ProxyConfig where
  explicitHeaderEnabled : Bool
  maxPrefixTokens : ℤ
  deriving DecidableEq, Repr

def defaultProxyConfig : ProxyConfig where
  explicitHeaderEnabled := false
  maxPrefixTokens := 2 ^ 20

/-- The proxy as it is wired: its configuration, the hash of opaque keys, and whether a
cache observer and a work accountant are attached. -/
structure Proxy where
  cfg : ProxyConfig
  sha256Hex : String → String
  cacheObs : Bool
  work : Bool

/-- A request body, as far as it is decoded. Each probe is none if the decoder rejects the
body for it. -/
structure ChatBody where
  length : ℕ
  /-- The stream flag, if there is one. -/
  stream : Option (Option Bool)
  /-- The lengths of the prompt and of the messages' contents. -/
  contents : Option (ℕ × List ℕ)
  /-- The token limit, zero if there is none. -/
  maxTokens : Option ℤ
  deriving DecidableEq, Repr

def detectStream (body : ChatBody) : Bool := (body.stream.bind id).getD false

/-- Four characters a token. -/
def estimateInputTokens (body : ChatBody) : ℕ :=
  match body.contents with
  | none => 0
  | some (prompt, messages) => (prompt + messages.sum) / 4

/-- The decode-work estimate. -/
def expectedOutputTokens (body : ChatBody) : ℤ :=
  match body.maxTokens with
  | some n => if 0 < n then n else 128
  | none => 128

/-- A request to the sidecar. -/
structure ProxyRequest where
  reqID : String
  /-- The opaque prefix key, empty if absent. -/
  prefixKey : String
  /-- The prefix length, if the header holds a number. -/
  prefixTokens : Option ℤ
  /-- The body, or the error of reading it. -/
  body : Except String ChatBody

/-- The hash of an opaque key; the empty key has none. -/
def Proxy.hashOpaqueKey (p : Proxy) (raw : String) : String :=
  if raw = "" then "" else p.sha256Hex raw

/-- The hashed key and the bounded token count of the experimental headers. -/
def Proxy.extractPrefixHeaders (p : Proxy) (req : ProxyRequest) : String × ℤ :=
  if p.cfg.explicitHeaderEnabled = false ∨ req.prefixKey = "" then ("", 0)
  else
    let tokens := match req.prefixTokens with
      | some n =>
        if 0 < n then
          if 0 < p.cfg.maxPrefixTokens ∧ p.cfg.maxPrefixTokens < n then p.cfg.maxPrefixTokens
          else n
        else 0
      | none => 0
    (p.hashOpaqueKey req.prefixKey, tokens)

/-- What happens to a request inside the sidecar. -/
structure Service where
  /-- The error of `Admit`, if any. -/
  admission : Option QueueError
  /-- Why `WaitForDispatch` gives up, if it does. -/
  expiry : Option Expiry
  upstream : Reply

/-- The status of a refused admission. -/
def rejectionStatus : QueueError → ℕ
  | .queueFull => 429
  | .inflightFull => 429
  | _ => 503

/-- The observation of an explicit prefix at dispatch. -/
def Proxy.observeAtDispatch (p : Proxy) (keyHash : String) (tokens inputLen : ℤ) :
    List ProxyAction :=
  if p.cacheObs = true ∧ keyHash ≠ "" then
    let tok := if tokens ≤ 0 then inputLen else tokens
    if 0 < tok then [.observe keyHash tok] else []
  else []

/-- The reservation of work around a relay. -/
def Proxy.accountWork (p : Proxy) (keyHash : String) (tokens inputLen expectedOutput : ℤ)
    (relay : List ProxyAction) : List ProxyAction :=
  if p.work then
    let (conf, matched) := if keyHash ≠ "" then ((1 : ℚ), tokens) else (0, 0)
    [.reserveTokens inputLen matched expectedOutput conf, .activate] ++ relay ++ [.release]
  else relay

/-- Relays one dispatched request. -/
def relay (d : Downstream) (stream : Bool) (reqID : String) (upstream : Reply) : Handled :=
  if stream then relayStream d .new reqID upstream else relayJSON d .new reqID upstream

/-- The handler: admit, queue, dispatch, relay. -/
def Proxy.chatCompletions (p : Proxy) (d : Downstream) (req : ProxyRequest) (service : Service) :
    Handled :=
  let (keyHash, tokens) := p.extractPrefixHeaders req
  match req.body with
  | .error err =>
    { writer := writeErr .new 400 "READ_BODY_FAILED" req.reqID err, log := [] }
  | .ok body =>
    let stream := detectStream body
    let inputLen : ℤ := estimateInputTokens body
    let cachePrefix := if keyHash ≠ "" then some (keyHash, tokens) else none
    let received := [.emit (.localRequestReceived stream body.length inputLen cachePrefix)]
    match service.admission with
    | some err =>
      { writer := writeErr .new (rejectionStatus err) err.code req.reqID "admission refused"
        log := received ++ [.emit (.queueRejected err.code)] }
    | none =>
      let entered := received ++ [.transition .queued "enqueued", .emit .queueEntered]
      match service.expiry with
      | some .timedOut =>
        { writer := writeErr .new 503 "QUEUE_TIMEOUT" req.reqID "queued too long"
          log := entered ++ [.transition .timedOut "queue_timeout", .emit .queueTimedOut] }
      | some .cancelled =>
        { writer := .new
          log := entered ++ [.transition .cancelled "client_cancelled_in_queue",
            .emit (.upstreamCancelled "in_queue" none)] }
      | none =>
        let r := relay d stream req.reqID service.upstream
        { writer := r.writer
          log := entered ++ [.emit .queueDequeued] ++
            p.observeAtDispatch keyHash tokens inputLen ++
            [.transition .dispatching "dispatch", .emit .vllmDispatchStarted] ++
            p.accountWork keyHash tokens inputLen (expectedOutputTokens body) r.log }

/-! ### The status that the peer reads -/

/-- The status that a relay passes on. -/
def relayStatus : Reply → ℕ
  | .error _ => 502
  | .ok resp => resp.status

/-- A full response passes on the upstream status. -/
theorem relayJSON_status (d : Downstream) {w : ResponseWriter} (hw : w.committed = none)
    (reqID : String) (upstream : Reply) :
    (relayJSON d w reqID upstream).writer.finish.status = relayStatus upstream := by
  cases upstream with
  | error err => exact errorReply_status hw 502 _ _ _
  | ok resp =>
    let headed := { w with header := w.header.addAll resp.header hopByHop }
    have hnone : (headed.setHeader "X-Request-ID" reqID).committed = none := hw
    have hsent := ResponseWriter.writeHeader_committed hnone resp.status
    have hwriter : (relayJSON d w reqID (.ok resp)).writer =
        ((headed.setHeader "X-Request-ID" reqID).writeHeader resp.status).writeIgnored
          (d.writeFails 0) (resp.body.readAll (64 * 1024 * 1024)) := by
      simp only [relayJSON]
      split <;> rfl
    rw [hwriter]
    exact ResponseWriter.finish_status (ResponseWriter.writeIgnored_committed hsent _ _)

/-- So does a stream whose peer stays connected. -/
theorem relayStream_status {w : ResponseWriter} (hw : w.committed = none) (reqID : String)
    (upstream : Reply) :
    (relayStream .steady w reqID upstream).writer.finish.status = relayStatus upstream := by
  cases upstream with
  | error err => exact (relayStream_error hw reqID err).1
  | ok resp =>
    by_cases hok : resp.status = 200
    · rw [(relayStream_steady hw reqID hok).1]
      exact hok.symm
    · exact (relayStream_not_ok hw reqID hok).1

/-- With a connected peer both relays pass on the upstream status. -/
theorem relay_status (stream : Bool) (reqID : String) (upstream : Reply) :
    (relay .steady stream reqID upstream).writer.finish.status = relayStatus upstream := by
  cases stream with
  | false => exact relayJSON_status .steady rfl reqID upstream
  | true => exact relayStream_status rfl reqID upstream

/-- A refused admission is answered with 429 or 503. -/
theorem rejectionStatus_eq (err : QueueError) :
    rejectionStatus err = 429 ∨ rejectionStatus err = 503 := by
  cases err <;> simp [rejectionStatus]

namespace Proxy

variable (p : Proxy) {req : ProxyRequest} {service : Service} {body : ChatBody}

/-- The peer of a refused request reads the rejection. -/
theorem chatCompletions_refused (d : Downstream) (hbody : req.body = .ok body) {err : QueueError}
    (hrefused : service.admission = some err) :
    (p.chatCompletions d req service).writer.finish.status = rejectionStatus err := by
  simp only [chatCompletions, hbody, hrefused]
  exact errorReply_status rfl _ _ _ _

/-- The peer of a request that waited too long reads 503. -/
theorem chatCompletions_timedOut (d : Downstream) (hbody : req.body = .ok body)
    (hadmitted : service.admission = none) (htimedOut : service.expiry = some .timedOut) :
    (p.chatCompletions d req service).writer.finish.status = 503 := by
  simp only [chatCompletions, hbody, hadmitted, htimedOut]
  exact errorReply_status rfl _ _ _ _

/-- The connected peer of a dispatched request reads the upstream status. -/
theorem chatCompletions_dispatched (hbody : req.body = .ok body)
    (hadmitted : service.admission = none) (hdispatched : service.expiry = none) :
    (p.chatCompletions .steady req service).writer.finish.status =
      relayStatus service.upstream := by
  simp only [chatCompletions, hbody, hadmitted, hdispatched]
  exact relay_status _ _ _

end Proxy

end GpuSidecar.Dataplane
