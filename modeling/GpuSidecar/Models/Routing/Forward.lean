import GpuSidecar.Core.Http.Reads
import GpuSidecar.Models.Hops.Reply

/-!
# Forwarding one attempt to a sidecar

The embedding of `Gateway.forward` in `internal/router/gateway.go`. An attempt turns the
sidecar's reply, and what the client does meanwhile, into calls on the client's
response writer, events, and the pair of a retry reason and whether the attempt
counts as sent. Clock readings in event fields are left out.
-/

namespace GpuSidecar.Routing

open Http Hops

/-- The router's events of one attempt. -/
inductive AttemptEvent where
  | firstClientByte
  /-- The `REQUEST_COMPLETED` of a full response. -/
  | fullResponseCompleted (status : ℕ)
  /-- The `REQUEST_COMPLETED` of a stream. -/
  | streamCompleted (events bytes : ℕ)
  | clientCancelled (phase : String) (events : Option ℕ)
  | partialStreamFailed (err : String) (events bytes : ℕ)
  deriving DecidableEq, Repr

/-- The result of an attempt. -/
structure Forwarded where
  writer : ResponseWriter
  events : List AttemptEvent
  retryReason : String
  sent : Bool

/-- The variables of the streaming loop. -/
structure ForwardStream where
  writer : ResponseWriter
  emitted : List AttemptEvent
  firstByte : Bool
  events : ℕ
  bytes : ℕ
  /-- The reads completed, which number the checks of the context. -/
  reads : ℕ

namespace ForwardStream

/-- Leaves the loop with the response delivered or given up. -/
def leave (s : ForwardStream) (event : AttemptEvent) : Forwarded :=
  { writer := s.writer, events := s.emitted ++ [event], retryReason := "", sent := true }

/-- Writes and flushes the bytes of one read, if there are any. -/
def chunk (d : Downstream) (s : ForwardStream) (line : Bytes) : Except Forwarded ForwardStream :=
  if line.isEmpty then .ok s
  else
    let s := if s.firstByte then s
      else { s with firstByte := true, emitted := s.emitted ++ [.firstClientByte] }
    if d.writeFails s.events then
      .error ({ s with writer := s.writer.failWrite }.leave
        (.clientCancelled "downstream_write_fail" (some s.events)))
    else
      .ok { s with
        writer := s.writer.write line
        events := s.events + 1
        bytes := s.bytes + line.length }

/-- Honours a cancellation between two reads. -/
def check (d : Downstream) (s : ForwardStream) : Except Forwarded ForwardStream :=
  if d.ctxDone s.reads then .error (s.leave (.clientCancelled "mid_stream" (some s.events)))
  else .ok { s with reads := s.reads + 1 }

/-- Ends the stream; only a failure before the first byte with the client connected is
not counted as sent. -/
def stop (d : Downstream) (s : ForwardStream) : Ending → Forwarded
  | .eof => s.leave (.streamCompleted s.events s.bytes)
  | .failed err =>
    if !s.firstByte then
      if d.ctxErr then s.leave (.clientCancelled "pre_first_byte" none)
      else
        { writer := s.writer, events := s.emitted,
          retryReason := "stream_err_pre_first_byte:" ++ err.text, sent := false }
    else if d.ctxErr then s.leave (.clientCancelled "mid_stream" (some s.events))
    else s.leave (.partialStreamFailed err.text s.events s.bytes)

end ForwardStream

/-- The writer with the status and headers of an open event stream. -/
def openStream (w : ResponseWriter) (reqID backendID : String) : ResponseWriter :=
  ((((w.setHeader "Content-Type" "text/event-stream").setHeader "Cache-Control"
    "no-cache").setHeader "X-Request-ID" reqID).setHeader "X-Backend-ID" backendID).writeHeader 200

/-- Whether the reply is a rejection by the sidecar. -/
def rejects (status : ℕ) : Bool := decide (status = 429 ∨ status = 503)

/-- Forwards one attempt. -/
def forward (d : Downstream) (w : ResponseWriter) (backendID reqID : String) (stream : Bool)
    (reply : Reply) : Forwarded :=
  match reply with
  | .error err =>
    { writer := w, events := [], retryReason := "sidecar_connect_failed:" ++ err, sent := false }
  | .ok resp =>
    if rejects resp.status then
      { writer := w, events := [], retryReason := "sidecar_reject_" ++ toString resp.status,
        sent := false }
    else if !stream then
      let out := resp.body.readAll (64 * 1024 * 1024)
      let w := { w with header := w.header.addAll resp.header hopByHop }
      let w := (w.setHeader "X-Request-ID" reqID).setHeader "X-Backend-ID" backendID
      { writer := (w.writeHeader resp.status).writeIgnored (d.writeFails 0) out
        events := [.firstClientByte, .fullResponseCompleted resp.status]
        retryReason := ""
        sent := true }
    else if !d.flusher then
      { writer := w, events := [], retryReason := "no_flusher", sent := false }
    else
      resp.body.reads.loop (ForwardStream.chunk d) (ForwardStream.check d) (ForwardStream.stop d)
        { writer := openStream w reqID backendID
          emitted := []
          firstByte := false
          events := 0
          bytes := 0
          reads := 0 }

/-! ### The streaming loop -/

namespace ForwardStream

@[simp] theorem chunk_nil (d : Downstream) (s : ForwardStream) : s.chunk d [] = .ok s := rfl

/-- A read whose write succeeds. -/
theorem chunk_written {d : Downstream} {s : ForwardStream} {line : Bytes} (hline : line ≠ [])
    (hwrite : d.writeFails s.events = false) :
    ∃ emitted, s.chunk d line = .ok
      { s with
        writer := s.writer.write line
        emitted := emitted
        firstByte := true
        events := s.events + 1
        bytes := s.bytes + line.length } := by
  rcases s with ⟨w, emitted, first, events, bytes, reads⟩
  have hempty : line.isEmpty = false := by simpa using hline
  have hwrite' : d.writeFails events = false := hwrite
  cases first
  · exact ⟨emitted ++ [.firstClientByte], by simp [chunk, hempty, hwrite']⟩
  · exact ⟨emitted, by simp [chunk, hempty, hwrite']⟩

/-- A read whose write fails ends the attempt as sent. -/
theorem chunk_failed {d : Downstream} {s : ForwardStream} {line : Bytes} (hline : line ≠ [])
    (hwrite : d.writeFails s.events = true) :
    ∃ r, s.chunk d line = .error r ∧ r.sent = true ∧ r.writer = s.writer.failWrite := by
  rcases s with ⟨w, emitted, first, events, bytes, reads⟩
  have hempty : line.isEmpty = false := by simpa using hline
  have hwrite' : d.writeFails events = true := hwrite
  cases first
  · exact ⟨_, by simp [chunk, hempty, hwrite']; rfl, rfl, rfl⟩
  · exact ⟨_, by simp [chunk, hempty, hwrite']; rfl, rfl, rfl⟩

/-- What a read does: it writes what there is, or ends the attempt as sent. -/
theorem chunk_cases (d : Downstream) (s : ForwardStream) (line : Bytes) :
    (∃ t, s.chunk d line = .ok t ∧ t.writer.headerCalls = s.writer.headerCalls ∧
        (∀ sent, s.writer.committed = some sent → t.writer.committed = some sent) ∧
        ∀ seen : Bytes, (s.firstByte = true ↔ seen ≠ []) →
          (t.firstByte = true ↔ seen ++ line ≠ [])) ∨
      ∃ r, s.chunk d line = .error r ∧ r.sent = true ∧ r.writer = s.writer.failWrite := by
  by_cases hline : line = []
  · rw [hline]
    refine Or.inl ⟨s, chunk_nil d s, rfl, fun _ hsent => hsent, fun seen hseen => ?_⟩
    rwa [List.append_nil]
  · cases hwrite : d.writeFails s.events with
    | false =>
      obtain ⟨emitted, hchunk⟩ := chunk_written hline hwrite
      refine Or.inl ⟨_, hchunk, rfl, fun sent hsent => ResponseWriter.write_committed hsent line,
        fun seen _ => ?_⟩
      simp [hline]
    | true => exact Or.inr (chunk_failed hline hwrite)

/-- Whatever the loop does on a body with a byte, the attempt counts as sent. -/
theorem loop_sent (d : Downstream) (s : ForwardStream) (hfirst : s.firstByte = false)
    {body : Body} (hbody : body.data ≠ []) :
    (body.reads.loop (chunk d) (check d) (stop d) s).sent = true ∧
      (body.reads.loop (chunk d) (check d) (stop d) s).writer.headerCalls =
        s.writer.headerCalls := by
  refine Reads.loop_rule (I := fun seen (t : ForwardStream) =>
      t.writer.headerCalls = s.writer.headerCalls ∧ (t.firstByte = true ↔ seen ≠ []))
    (Q := fun (r : Forwarded) => r.sent = true ∧ r.writer.headerCalls = s.writer.headerCalls)
    ?_ ?_ ?_ ?_ body.reads [] ?_ ?_
  · rintro _ t line r ⟨hcalls, -⟩ hr
    rcases t.chunk_cases d line with ⟨u, hu, -⟩ | ⟨r', hr', hsent, hwriter⟩
    · rw [hu] at hr
      cases hr
    · rw [hr'] at hr
      cases hr
      rw [hwriter]
      exact ⟨hsent, hcalls⟩
  · rintro seen t line u ⟨hcalls, hbyte⟩ hu
    rcases t.chunk_cases d line with ⟨u', hu', hheader, -, hbyte'⟩ | ⟨r, hr, -⟩
    · rw [hu'] at hu
      cases hu
      exact ⟨hheader.trans hcalls, hbyte' seen hbyte⟩
    · rw [hr] at hu
      cases hu
  · rintro _ t r ⟨hcalls, -⟩ hr
    rw [check] at hr
    split at hr
    · cases hr
      exact ⟨rfl, hcalls⟩
    · cases hr
  · rintro _ t u ht hu
    rw [check] at hu
    split at hu
    · cases hu
    · cases hu
      exact ht
  · rintro t ⟨hcalls, hbyte⟩
    have htrue : t.firstByte = true := hbyte.mpr (by simpa using hbody)
    cases body.reads.ending with
    | eof => exact ⟨rfl, hcalls⟩
    | failed err =>
      simp only [stop, htrue, Bool.not_true, Bool.false_eq_true, if_false]
      split <;> exact ⟨rfl, hcalls⟩
  · simp [hfirst]

end ForwardStream

/-- A stream that is not taken for a rejection goes through the loop. -/
theorem forward_stream_eq {d : Downstream} (w : ResponseWriter) (backendID reqID : String)
    {resp : Response} (hrej : rejects resp.status = false) (hflush : d.flusher = true) :
    forward d w backendID reqID true (.ok resp) =
      resp.body.reads.loop (ForwardStream.chunk d) (ForwardStream.check d) (ForwardStream.stop d)
        ⟨openStream w reqID backendID, [], false, 0, 0, 0⟩ := by
  simp [forward, hrej, hflush]

/-! ### What an attempt does to the client's writer -/

/-- The sidecar opens a stream and the stream fails before its first byte, while the
client is connected. -/
def FailsAfterHeader (d : Downstream) (stream : Bool) (reply : Reply) : Prop :=
  stream = true ∧ d.flusher = true ∧ d.ctxErr = false ∧
    ∃ resp err, reply = .ok resp ∧ rejects resp.status = false ∧ resp.body = ⟨[], .failed err⟩

/-- The streaming branch of the next theorem. -/
theorem forward_stream_cases (d : Downstream) (w : ResponseWriter) (backendID reqID : String)
    {resp : Response} (hrej : rejects resp.status = false) (hflush : d.flusher = true) :
    let r := resp.body.reads.loop (ForwardStream.chunk d) (ForwardStream.check d)
      (ForwardStream.stop d) ⟨openStream w reqID backendID, [], false, 0, 0, 0⟩
    (¬ FailsAfterHeader d true (.ok resp) ∧ r.sent = false ∧ r.writer = w) ∨
    (¬ FailsAfterHeader d true (.ok resp) ∧ r.sent = true ∧
      r.writer.headerCalls = w.headerCalls + 1) ∨
    (FailsAfterHeader d true (.ok resp) ∧ r.sent = false ∧
      r.writer.headerCalls = w.headerCalls + 1) := by
  intro r
  right
  by_cases hdata : resp.body.data = []
  · have hr : r = ForwardStream.stop d ⟨openStream w reqID backendID, [], false, 0, 0, 0⟩
        resp.body.ending := by
      simp [r, Body.reads, hdata, Reads.ofBytes, Reads.loop]
    cases hend : resp.body.ending with
    | eof =>
      left
      rw [hr, hend]
      refine ⟨?_, rfl, rfl⟩
      rintro ⟨-, -, -, resp', err, h, -, hbody⟩
      cases h
      rw [hbody] at hend
      cases hend
    | failed err =>
      rw [hr, hend]
      cases hctx : d.ctxErr with
      | true =>
        left
        refine ⟨by simp [FailsAfterHeader, hctx], ?_, ?_⟩ <;>
          simp [ForwardStream.stop, ForwardStream.leave, hctx, openStream]
      | false =>
        right
        refine ⟨⟨rfl, hflush, hctx, resp, err, rfl, hrej, ?_⟩, ?_, ?_⟩
        · rw [← hdata, ← hend]
        · simp [ForwardStream.stop, hctx]
        · simp [ForwardStream.stop, hctx, openStream]
  · left
    obtain ⟨hsent, hcalls⟩ := ForwardStream.loop_sent d
      ⟨openStream w reqID backendID, [], false, 0, 0, 0⟩ rfl hdata
    refine ⟨?_, hsent, hcalls⟩
    rintro ⟨-, -, -, resp', err, h, -, hbody⟩
    cases h
    rw [hbody] at hdata
    exact hdata rfl

/-- An attempt leaves the writer alone and is not sent, or calls `WriteHeader` once and is
sent, unless the stream fails after its header. -/
theorem forward_cases (d : Downstream) (w : ResponseWriter) (backendID reqID : String)
    (stream : Bool) (reply : Reply) :
    let r := forward d w backendID reqID stream reply
    (¬ FailsAfterHeader d stream reply ∧ r.sent = false ∧ r.writer = w) ∨
    (¬ FailsAfterHeader d stream reply ∧ r.sent = true ∧
      r.writer.headerCalls = w.headerCalls + 1) ∨
    (FailsAfterHeader d stream reply ∧ r.sent = false ∧
      r.writer.headerCalls = w.headerCalls + 1) := by
  intro r
  cases hreply : reply with
  | error err =>
    left
    subst hreply
    refine ⟨?_, rfl, rfl⟩
    rintro ⟨-, -, -, resp, err, h, -⟩
    cases h
  | ok resp =>
    cases hrej : rejects resp.status with
    | true =>
      left
      have hr : r = ⟨w, [], "sidecar_reject_" ++ toString resp.status, false⟩ := by
        simp [r, forward, hreply, hrej]
      rw [hr]
      refine ⟨?_, rfl, rfl⟩
      rintro ⟨-, -, -, resp', err, h, hrej', -⟩
      cases h
      rw [hrej] at hrej'
      cases hrej'
    | false =>
      cases stream with
      | false =>
        right; left
        refine ⟨by simp [FailsAfterHeader], ?_, ?_⟩ <;> simp [r, forward, hreply, hrej]
      | true =>
        cases hflush : d.flusher with
        | false =>
          left
          refine ⟨by simp [FailsAfterHeader, hflush], ?_, ?_⟩ <;>
            simp [r, forward, hreply, hrej, hflush]
        | true =>
          subst hreply
          have hr := forward_stream_eq w backendID reqID hrej hflush
          simp only [r, hr]
          exact forward_stream_cases d w backendID reqID hrej hflush

end GpuSidecar.Routing
