import GpuSidecar.Core.Http.Reads
import GpuSidecar.Models.Dataplane.Queue
import GpuSidecar.Models.Hops.Reply

/-!
# The sidecar's relays

The embedding of `relayJSON` and `relayStream` in `internal/dataplane/proxy.go`. A relay
turns what the upstream server does, and what the peer and the request's context do
meanwhile, into the calls on its response writer and a log of everything else it
does. Clock readings in event fields are left out.
-/

namespace GpuSidecar.Dataplane

open Http Hops

/-- The sidecar's trajectory events. -/
inductive LocalEvent where
  | localRequestReceived (stream : Bool) (bodyBytes : ℕ) (inputLenEst : ℤ)
      (cachePrefix : Option (String × ℤ))
  | queueRejected (reason : String)
  | queueEntered
  | queueTimedOut
  | queueDequeued
  | vllmDispatchStarted
  | vllmRequestFailed (err phase : String)
  | vllmConnected
  | firstVllmEvent
  | firstRelayWrite
  /-- The `STREAM_COMPLETED` of a full response. -/
  | fullResponseCompleted (respBytes status : ℕ)
  /-- The `STREAM_COMPLETED` of a stream. -/
  | streamCompleted (events bytes : ℕ) (sawDone : Bool)
  | upstreamCancelled (phase : String) (progress : Option (ℕ × ℕ))
  | partialStreamFailed (err : String) (events bytes : ℕ)
  deriving DecidableEq, Repr

/-- What a handler does besides writing its response. -/
inductive ProxyAction where
  | emit (event : LocalEvent)
  | transition (state : ReqState) (reason : String)
  /-- `Queue.Done`, which also makes the last transition. -/
  | done (state : ReqState) (reason : String)
  /-- The ticket's own context is cancelled. -/
  | cancel
  /-- The explicit prefix is recorded. -/
  | observe (keyHash : String) (tokens : ℤ)
  | reserveTokens (inputLen matched expectedOutput : ℤ) (conf : ℚ)
  | activate
  | release
  deriving DecidableEq, Repr

/-- The response writer and the log of a handler. -/
structure Handled where
  writer : ResponseWriter
  log : List ProxyAction

/-- Relays a full response. The errors of reading the body and of writing it are dropped. -/
def relayJSON (d : Downstream) (w : ResponseWriter) (reqID : String) (upstream : Reply) :
    Handled :=
  let log := [.transition .waitingFull "await_full"]
  match upstream with
  | .error err =>
    { writer := writeErr w 502 "UPSTREAM_FAILED" reqID err
      log := log ++ [.emit (.vllmRequestFailed err "connect"),
        .done .upstreamFail "vllm_connect_failed"] }
  | .ok resp =>
    let out := resp.body.readAll (64 * 1024 * 1024)
    let w := { w with header := w.header.addAll resp.header hopByHop }
    let w := ((w.setHeader "X-Request-ID" reqID).writeHeader resp.status).writeIgnored
      (d.writeFails 0) out
    let log := log ++ [.emit .vllmConnected,
      .emit (.fullResponseCompleted out.length resp.status)]
    if 200 ≤ resp.status ∧ resp.status < 300 then
      { writer := w, log := log ++ [.done .completed "json_ok"] }
    else { writer := w, log := log ++ [.done .upstreamFail "vllm_non_2xx"] }

/-- Whether a line contains a pattern (`bytes.Contains`). -/
def contains (pattern : Bytes) : Bytes → Bool
  | [] => pattern.isEmpty
  | b :: bs => pattern.isPrefixOf (b :: bs) || contains pattern bs

/-- The variables of the streaming loop. -/
structure Stream where
  writer : ResponseWriter
  log : List ProxyAction
  firstUpstream : Bool
  firstDownstream : Bool
  eventCount : ℕ
  byteCount : ℕ
  sawDone : Bool
  /-- The reads completed, which number the checks of the context. -/
  reads : ℕ

namespace Stream

/-- Adds to the log. -/
def record (s : Stream) (actions : List ProxyAction) : Stream :=
  { s with log := s.log ++ actions }

/-- Leaves the loop. -/
def leave (s : Stream) (actions : List ProxyAction) : Handled :=
  { writer := s.writer, log := s.log ++ actions }

/-- Writes and flushes the bytes of one read, if there are any. -/
def chunk (d : Downstream) (s : Stream) (line : Bytes) : Except Handled Stream :=
  if line.isEmpty then .ok s
  else
    let s := if s.firstUpstream then s
      else { s.record [.emit .firstVllmEvent] with firstUpstream := true }
    if d.writeFails s.eventCount then
      .error ({ s with writer := s.writer.failWrite }.leave
        [.cancel, .emit (.upstreamCancelled "downstream_write_fail" none),
          .done .cancelled "downstream_gone"])
    else
      let s := { s with writer := s.writer.write line }
      let s := if s.firstDownstream then s
        else { s.record [.emit .firstRelayWrite] with firstDownstream := true }
      .ok { s with
        eventCount := s.eventCount + 1
        byteCount := s.byteCount + line.length
        sawDone := s.sawDone || contains (utf8 "[DONE]") line }

/-- Honours a cancellation between two reads. -/
def check (d : Downstream) (s : Stream) : Except Handled Stream :=
  if d.ctxDone s.reads then
    .error (s.leave [.cancel, .emit (.upstreamCancelled "mid_stream" none),
      .done .cancelled "client_cancelled_mid_stream"])
  else .ok { s with reads := s.reads + 1 }

/-- Ends the stream: completed, cancelled, or failed before or after the first event. -/
def stop (d : Downstream) (s : Stream) : Ending → Handled
  | .eof => s.leave [.emit (.streamCompleted s.eventCount s.byteCount s.sawDone),
      .done .completed "stream_ok"]
  | .failed err =>
    let cancelled := d.ctxErr || err.canceled
    if !s.firstDownstream then
      if cancelled then
        s.leave [.emit (.upstreamCancelled "pre_first_event" none),
          .done .cancelled "cancelled_pre_first_event"]
      else
        s.leave [.emit (.vllmRequestFailed err.text "pre_first_event"),
          .done .upstreamFail "upstream_err_pre_first_event"]
    else if cancelled then
      s.leave [.emit (.upstreamCancelled "mid_stream" (some (s.eventCount, s.byteCount))),
        .done .cancelled "client_cancelled_mid_stream"]
    else
      s.leave [.emit (.partialStreamFailed err.text s.eventCount s.byteCount),
        .done .partialStream "upstream_err_mid_stream"]

end Stream

/-- The writer with the status and headers of an open event stream. -/
def openStream (w : ResponseWriter) (reqID : String) : ResponseWriter :=
  ((((w.setHeader "Content-Type" "text/event-stream").setHeader "Cache-Control"
    "no-cache").setHeader "Connection" "keep-alive").setHeader "X-Request-ID" reqID).writeHeader 200

/-- Relays an event stream line by line. -/
def relayStream (d : Downstream) (w : ResponseWriter) (reqID : String) (upstream : Reply) :
    Handled :=
  if !d.flusher then
    { writer := writeErr w 500 "NO_FLUSH" reqID "response writer not flushable"
      log := [.done .upstreamFail "no_flusher"] }
  else match upstream with
    | .error err =>
      { writer := writeErr w 502 "UPSTREAM_FAILED" reqID err
        log := [.emit (.vllmRequestFailed err "connect"),
          .done .upstreamFail "vllm_connect_failed"] }
    | .ok resp =>
      if resp.status ≠ 200 then
        let out := resp.body.readAll (2 ^ 20)
        { writer := ((w.setHeader "Content-Type" "application/json").writeHeader
            resp.status).writeIgnored (d.writeFails 0) out
          log := [.emit .vllmConnected, .done .upstreamFail "vllm_non_200_stream"] }
      else
        resp.body.reads.loop (Stream.chunk d) (Stream.check d) (Stream.stop d)
          { writer := openStream w reqID
            log := [.emit .vllmConnected, .transition .streaming "stream_open"]
            firstUpstream := false
            firstDownstream := false
            eventCount := 0
            byteCount := 0
            sawDone := false
            reads := 0 }

/-! ### How a ticket is finished -/

/-- The calls of `Done` in a log. -/
def dones (log : List ProxyAction) : List (ReqState × String) :=
  log.filterMap fun
    | .done state reason => some (state, reason)
    | _ => none

@[simp] theorem dones_append (log log' : List ProxyAction) :
    dones (log ++ log') = dones log ++ dones log' := List.filterMap_append

/-- An action that no account records. -/
def ProxyAction.unaccounted : ProxyAction → Bool
  | .emit _ | .cancel | .observe .. => true
  | _ => false

/-- The actions that move the ticket, the queue's slot or the reserved work. -/
def accounted (log : List ProxyAction) : List ProxyAction := log.filter fun a => !a.unaccounted

@[simp] theorem accounted_append (log log' : List ProxyAction) :
    accounted (log ++ log') = accounted log ++ accounted log' := List.filter_append _ _

/-- Unaccounted actions do not call `Done`. -/
@[simp] theorem dones_accounted (log : List ProxyAction) : dones (accounted log) = dones log := by
  rw [dones, dones, accounted, List.filterMap_filter]
  congr 1
  funext a
  cases a <;> rfl

/-- The states in which a dispatched request can end. -/
def ReqState.served : ReqState → Bool
  | completed | cancelled | upstreamFail | partialStream => true
  | _ => false

namespace Stream

@[simp] theorem chunk_nil (d : Downstream) (s : Stream) : s.chunk d [] = .ok s := rfl

/-- A read whose write succeeds adds at most the two first-time events. -/
theorem chunk_written {d : Downstream} {s : Stream} {line : Bytes} (hline : line ≠ [])
    (hwrite : d.writeFails s.eventCount = false) :
    ∃ emitted, accounted emitted = [] ∧ s.chunk d line = .ok
      { s with
        writer := s.writer.write line
        log := s.log ++ emitted
        firstUpstream := true
        firstDownstream := true
        eventCount := s.eventCount + 1
        byteCount := s.byteCount + line.length
        sawDone := s.sawDone || contains (utf8 "[DONE]") line } := by
  rcases s with ⟨w, log, up, down, events, bytes, saw, reads⟩
  have hempty : line.isEmpty = false := by simpa using hline
  have hwrite' : d.writeFails events = false := hwrite
  cases up <;> cases down
  · exact ⟨[.emit .firstVllmEvent, .emit .firstRelayWrite], rfl, by
      simp [chunk, hempty, hwrite', record]⟩
  · exact ⟨[.emit .firstVllmEvent], rfl, by simp [chunk, hempty, hwrite', record]⟩
  · exact ⟨[.emit .firstRelayWrite], rfl, by simp [chunk, hempty, hwrite', record]⟩
  · exact ⟨[], rfl, by simp [chunk, hempty, hwrite']⟩

/-- A read whose write fails ends the relay as cancelled. -/
theorem chunk_failed {d : Downstream} {s : Stream} {line : Bytes} (hline : line ≠ [])
    (hwrite : d.writeFails s.eventCount = true) :
    ∃ emitted, accounted emitted = [.done .cancelled "downstream_gone"] ∧
      s.chunk d line = .error ⟨s.writer.failWrite, s.log ++ emitted⟩ := by
  rcases s with ⟨w, log, up, down, events, bytes, saw, reads⟩
  have hempty : line.isEmpty = false := by simpa using hline
  have hwrite' : d.writeFails events = true := hwrite
  cases up
  · exact ⟨[.emit .firstVllmEvent, .cancel,
      .emit (.upstreamCancelled "downstream_write_fail" none),
      .done .cancelled "downstream_gone"], rfl, by simp [chunk, hempty, hwrite', record, leave]⟩
  · exact ⟨[.cancel, .emit (.upstreamCancelled "downstream_write_fail" none),
      .done .cancelled "downstream_gone"], rfl, by simp [chunk, hempty, hwrite', leave]⟩

/-- What a read does to the accounts: nothing, unless its write fails. -/
theorem chunk_cases (d : Downstream) (s : Stream) (line : Bytes) :
    (∃ t, s.chunk d line = .ok t ∧ accounted t.log = accounted s.log ∧
        ∀ sent, s.writer.committed = some sent → t.writer.committed = some sent) ∨
      ∃ r, s.chunk d line = .error r ∧ d.writeFails s.eventCount = true ∧
        accounted r.log = accounted s.log ++ [.done .cancelled "downstream_gone"] := by
  by_cases hline : line = []
  · rw [hline]
    exact Or.inl ⟨s, chunk_nil d s, rfl, fun _ hsent => hsent⟩
  · cases hwrite : d.writeFails s.eventCount with
    | false =>
      obtain ⟨emitted, hemitted, hchunk⟩ := chunk_written hline hwrite
      refine Or.inl ⟨_, hchunk, ?_, fun sent hsent => ResponseWriter.write_committed hsent line⟩
      rw [accounted_append, hemitted, List.append_nil]
    | true =>
      obtain ⟨emitted, hemitted, hchunk⟩ := chunk_failed hline hwrite
      exact Or.inr ⟨_, hchunk, rfl, by rw [accounted_append, hemitted]⟩

/-- The end of a stream writes nothing and finishes the ticket once, as completed exactly at
EOF. -/
theorem stop_spec (d : Downstream) (s : Stream) (e : Ending) :
    (s.stop d e).writer = s.writer ∧ ∃ state reason,
      accounted (s.stop d e).log = accounted s.log ++ [.done state reason] ∧
        state.served = true ∧ (state = .completed ↔ e = .eof) := by
  cases e with
  | eof =>
    exact ⟨rfl, .completed, "stream_ok", by rw [stop, leave, accounted_append]; rfl, rfl, by simp⟩
  | failed err =>
    simp only [stop]
    split <;> split <;>
      exact ⟨rfl, _, _, by simp only [leave, accounted_append]; rfl, rfl, by simp⟩

end Stream

/-- An upstream that cannot be reached fails the ticket, and the peer reads status 502. -/
theorem relayStream_error {w : ResponseWriter} (hw : w.committed = none) (reqID err : String) :
    (relayStream .steady w reqID (.error err)).writer.finish.status = 502 ∧
      dones (relayStream .steady w reqID (.error err)).log =
        [(.upstreamFail, "vllm_connect_failed")] :=
  ⟨errorReply_status hw 502 _ _ _, rfl⟩

/-- Any upstream status but 200 fails the ticket, and the peer reads that status. -/
theorem relayStream_not_ok {w : ResponseWriter} (hw : w.committed = none) (reqID : String)
    {resp : Response} (hstatus : resp.status ≠ 200) :
    (relayStream .steady w reqID (.ok resp)).writer.finish.status = resp.status ∧
      dones (relayStream .steady w reqID (.ok resp)).log =
        [(.upstreamFail, "vllm_non_200_stream")] := by
  have hrelay : relayStream .steady w reqID (.ok resp) =
      ⟨((w.setHeader "Content-Type" "application/json").writeHeader resp.status).writeIgnored
          false (resp.body.readAll (2 ^ 20)),
        [.emit .vllmConnected, .done .upstreamFail "vllm_non_200_stream"]⟩ := by
    simp [relayStream, Downstream.steady, hstatus]
  have hnone : (w.setHeader "Content-Type" "application/json").committed = none := hw
  have hsent := ResponseWriter.writeHeader_committed hnone resp.status
  rw [hrelay]
  exact ⟨ResponseWriter.finish_status (ResponseWriter.writeIgnored_committed hsent _ _), rfl⟩

/-- On a fresh writer and with a peer that stays connected, a stream with status 200
finishes its ticket once, as completed exactly if the upstream body ends with EOF, and
the peer reads status 200. -/
theorem relayStream_steady {w : ResponseWriter} (hw : w.committed = none) (reqID : String)
    {resp : Response} (hstatus : resp.status = 200) :
    (relayStream .steady w reqID (.ok resp)).writer.finish.status = 200 ∧
      ∃ state reason, dones (relayStream .steady w reqID (.ok resp)).log = [(state, reason)] ∧
        (state = .completed ↔ resp.body.ending = .eof) := by
  have hrelay : relayStream .steady w reqID (.ok resp) =
      resp.body.reads.loop (Stream.chunk .steady) (Stream.check .steady) (Stream.stop .steady)
        ⟨openStream w reqID, [.emit .vllmConnected, .transition .streaming "stream_open"],
          false, false, 0, 0, false, 0⟩ := by
    simp [relayStream, Downstream.steady, hstatus]
  rw [hrelay]
  refine Reads.loop_rule (I := fun _ (s : Stream) => dones s.log = [] ∧
      ∃ header, s.writer.committed = some (200, header))
    (Q := fun (r : Handled) => r.writer.finish.status = 200 ∧ ∃ state reason,
      dones r.log = [(state, reason)] ∧ (state = .completed ↔ resp.body.ending = .eof))
    ?_ ?_ ?_ ?_ resp.body.reads [] ?_ ?_
  · intro _ s line r _ hr
    rcases s.chunk_cases .steady line with ⟨t, ht, -⟩ | ⟨-, -, hfails, -⟩
    · rw [ht] at hr
      cases hr
    · cases hfails
  · rintro _ s line t ⟨hdone, header, hsent⟩ ht
    rcases s.chunk_cases .steady line with ⟨t', ht', hlog, hkeep⟩ | ⟨-, -, hfails, -⟩
    · rw [ht'] at ht
      cases ht
      refine ⟨?_, header, hkeep _ hsent⟩
      rw [← dones_accounted, hlog, dones_accounted, hdone]
    · cases hfails
  · intro _ s r _ hr
    simp [Stream.check, Downstream.steady] at hr
  · rintro _ s t hs ht
    obtain rfl : { s with reads := s.reads + 1 } = t := by
      simpa [Stream.check, Downstream.steady] using ht
    exact hs
  · rintro s ⟨hdone, header, hsent⟩
    rw [Body.reads_ending]
    obtain ⟨hwriter, state, reason, hlog, -, hstate⟩ := s.stop_spec .steady resp.body.ending
    rw [hwriter]
    refine ⟨ResponseWriter.finish_status hsent, state, reason, ?_, hstate⟩
    rw [← dones_accounted, hlog, dones_append, dones_accounted, hdone]
    rfl
  · have hnone : ((((w.setHeader "Content-Type" "text/event-stream").setHeader "Cache-Control"
        "no-cache").setHeader "Connection" "keep-alive").setHeader "X-Request-ID" reqID).committed =
        none := hw
    exact ⟨rfl, _, ResponseWriter.writeHeader_committed hnone 200⟩

end GpuSidecar.Dataplane
