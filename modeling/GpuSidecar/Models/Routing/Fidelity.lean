import GpuSidecar.Models.Routing.Forward

/-!
# The status that the router commits

A full response is passed on with the sidecar's status. A stream is committed with
status 200 before the body is read, whatever the sidecar answered, so an error reply
to a streaming request reaches the client as a completed stream.
-/

namespace GpuSidecar.Routing

open Http Hops

/-- The status that an attempt commits is the sidecar's, and only a 2xx reply completes a
stream. -/
structure Faithful (resp : Response) (r : Forwarded) : Prop where
  status : ∀ sent, r.writer.committed = some sent → sent.1 = resp.status
  completed : ∀ events bytes, .streamCompleted events bytes ∈ r.events →
    200 ≤ resp.status ∧ resp.status < 300

namespace ForwardStream

/-- The loop does not change what was committed. -/
theorem loop_committed (d : Downstream) {s : ForwardStream} {sent : ℕ × Header}
    (hs : s.writer.committed = some sent) (body : Body) :
    (body.reads.loop (chunk d) (check d) (stop d) s).writer.committed = some sent := by
  refine Reads.loop_rule (I := fun _ (t : ForwardStream) => t.writer.committed = some sent)
    (Q := fun (r : Forwarded) => r.writer.committed = some sent) ?_ ?_ ?_ ?_ body.reads [] ?_ hs
  · intro _ t line r ht hr
    rcases t.chunk_cases d line with ⟨u, hu, -⟩ | ⟨r', hr', -, hwriter⟩
    · rw [hu] at hr
      cases hr
    · rw [hr'] at hr
      cases hr
      rw [hwriter]
      exact ht
  · intro _ t line u ht hu
    rcases t.chunk_cases d line with ⟨u', hu', -, hkeep, -⟩ | ⟨r, hr, -⟩
    · rw [hu'] at hu
      cases hu
      exact hkeep sent ht
    · rw [hr] at hu
      cases hu
  · intro _ t r ht hr
    rw [check] at hr
    split at hr
    · cases hr
      exact ht
    · cases hr
  · intro _ t u ht hu
    rw [check] at hu
    split at hu
    · cases hu
    · cases hu
      exact ht
  · intro t ht
    cases body.reads.ending with
    | eof => exact ht
    | failed err =>
      simp only [stop]
      split <;> split <;> exact ht

end ForwardStream

/-- An open stream is committed with status 200, whatever the sidecar answered. -/
theorem forward_stream_committed {d : Downstream} {w : ResponseWriter} (hw : w.committed = none)
    (backendID reqID : String) {resp : Response} (hrej : rejects resp.status = false)
    (hflush : d.flusher = true) :
    ∃ header, (forward d w backendID reqID true (.ok resp)).writer.committed =
      some (200, header) := by
  rw [forward_stream_eq w backendID reqID hrej hflush]
  have hnone : ((((w.setHeader "Content-Type" "text/event-stream").setHeader "Cache-Control"
      "no-cache").setHeader "X-Request-ID" reqID).setHeader "X-Backend-ID" backendID).committed =
      none := hw
  exact ⟨_, ForwardStream.loop_committed d (ResponseWriter.writeHeader_committed hnone 200) _⟩

/-- A full response is committed with the sidecar's status. -/
theorem forward_full_faithful (d : Downstream) {w : ResponseWriter} (hw : w.committed = none)
    (backendID reqID : String) {resp : Response} (hrej : rejects resp.status = false) :
    Faithful resp (forward d w backendID reqID false (.ok resp)) := by
  let headed := { w with header := w.header.addAll resp.header hopByHop }
  let named := (headed.setHeader "X-Request-ID" reqID).setHeader "X-Backend-ID" backendID
  have hforward : forward d w backendID reqID false (.ok resp) =
      ⟨(named.writeHeader resp.status).writeIgnored (d.writeFails 0)
          (resp.body.readAll (64 * 1024 * 1024)),
        [.firstClientByte, .fullResponseCompleted resp.status], "", true⟩ := by
    simp [forward, hrej, named, headed]
  have hnone : named.committed = none := hw
  have hsent := ResponseWriter.writeIgnored_committed
    (ResponseWriter.writeHeader_committed hnone resp.status) (d.writeFails 0)
    (resp.body.readAll (64 * 1024 * 1024))
  rw [hforward]
  refine ⟨fun sent h => ?_, fun events bytes h => ?_⟩
  · rw [hsent] at h
    cases h
    rfl
  · simp at h

/-- For every reply that is not a rejection, on a writer to which nothing was committed:
the committed status is the sidecar's, and streams are completed for 2xx replies only, if
and only if no stream is opened on a reply with another status than 200. -/
theorem faithful_iff_streams_ok (d : Downstream) (w : ResponseWriter) (hw : w.committed = none)
    (backendID reqID : String) (stream : Bool) (resp : Response)
    (hrej : resp.status ≠ 429 ∧ resp.status ≠ 503) :
    Faithful resp (forward d w backendID reqID stream (.ok resp)) ↔
      (stream = true ∧ d.flusher = true → resp.status = 200) := by
  have hrej' : rejects resp.status = false := by simpa [rejects] using hrej
  cases stream with
  | false => exact iff_of_true (forward_full_faithful d hw backendID reqID hrej') (by simp)
  | true =>
    cases hflush : d.flusher with
    | false =>
      refine iff_of_true ?_ (by simp)
      have hforward : forward d w backendID reqID true (.ok resp) =
          ⟨w, [], "no_flusher", false⟩ := by
        simp [forward, hrej', hflush]
      rw [hforward]
      refine ⟨fun sent h => ?_, by simp⟩
      rw [hw] at h
      cases h
    | true =>
      obtain ⟨header, hsent⟩ := forward_stream_committed hw backendID reqID hrej' hflush
      constructor
      · intro h _
        exact (h.status _ hsent).symm
      · intro h
        have hok : resp.status = 200 := h ⟨rfl, rfl⟩
        refine ⟨fun sent hsent' => ?_, fun _ _ _ => by omega⟩
        rw [hsent] at hsent'
        cases hsent'
        exact hok.symm

/-- A stream of one event. -/
def oneEvent : Response := ⟨200, Header.empty, ⟨utf8 "data: a\n", .eof⟩⟩

/-- A stream on a reply with status 200 is faithful. -/
theorem oneEvent_faithful :
    Faithful oneEvent (forward .steady .new "b0" "req" true (.ok oneEvent)) :=
  (faithful_iff_streams_ok .steady .new rfl "b0" "req" true oneEvent (by decide)).mpr fun _ => rfl

/-- The sidecar's reply to a streaming request whose upstream server cannot be reached. -/
def upstreamFailed : Response :=
  ⟨502, Header.empty, ⟨utf8 (errorJson "UPSTREAM_FAILED" "req" "connection refused"), .eof⟩⟩

/-- The client of a streaming request reads status 200 for a reply with status 502, and the
request is reported as completed. -/
theorem upstreamFailed_reported_ok :
    ((forward .steady .new "b0" "req" true (.ok upstreamFailed)).writer.committed.map Prod.fst =
        some 200 ∧
      (forward .steady .new "b0" "req" true (.ok upstreamFailed)).events.any
        (fun e => e matches .streamCompleted _ _) = true) ∧
    ¬ Faithful upstreamFailed (forward .steady .new "b0" "req" true (.ok upstreamFailed)) := by
  have hsent : (forward .steady .new "b0" "req" true
      (.ok upstreamFailed)).writer.committed.map Prod.fst = some 200 := by decide +kernel
  refine ⟨⟨hsent, by decide +kernel⟩, fun h => ?_⟩
  obtain ⟨sent, hcommitted, hstatus⟩ := Option.map_eq_some_iff.mp hsent
  have hfaithful := h.status sent hcommitted
  rw [hstatus] at hfaithful
  cases hfaithful

end GpuSidecar.Routing
