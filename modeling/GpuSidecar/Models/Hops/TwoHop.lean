import GpuSidecar.Models.Dataplane.Relay
import GpuSidecar.Models.Routing.Forward

/-!
# A stream through both hops

The router reads what the sidecar's handler leaves behind: the status it sent, the bytes
it wrote, and a clean end, since the handler returns normally whatever its upstream
did. A stream that failed upstream is therefore indistinguishable from a complete one,
and the router reports what the sidecar knows exactly for upstreams that answer 200 and
reach EOF, or whose status the router takes for a rejection.
-/

namespace GpuSidecar.Hops

open Http Dataplane Routing

/-- The sidecar finished its ticket as completed. -/
def SidecarCompleted (h : Handled) : Prop := ∃ reason, (ReqState.completed, reason) ∈ dones h.log

/-- The router emitted `REQUEST_COMPLETED` for the streaming attempt. -/
def RouterCompleted (r : Forwarded) : Prop :=
  ∃ events bytes, AttemptEvent.streamCompleted events bytes ∈ r.events

/-- The sidecar's handling of a stream whose peer stays connected. -/
def sidecarHop (reqID : String) (upstream : Reply) : Handled :=
  relayStream .steady .new reqID upstream

/-- The router's attempt on the reply that a sidecar's handler leaves, with a client that
stays connected. -/
def routerHop (reqID backendID : String) (h : Handled) : Forwarded :=
  forward .steady .new backendID reqID true (.ok h.writer.finish)

/-- A stream that is not taken for a rejection and reaches its end is reported as
completed. -/
theorem forward_steady_completed {w : ResponseWriter} {backendID reqID : String}
    {resp : Response} (hrej : rejects resp.status = false) (hend : resp.body.ending = .eof) :
    RouterCompleted (forward .steady w backendID reqID true (.ok resp)) := by
  rw [forward_stream_eq w backendID reqID hrej rfl]
  refine Reads.loop_rule (I := fun _ (_ : ForwardStream) => True) (Q := RouterCompleted)
    ?_ (fun _ _ _ _ _ _ => trivial) ?_ (fun _ _ _ _ _ => trivial) resp.body.reads []
    ?_ trivial
  · intro _ s line r _ hchunk
    by_cases hline : line = []
    · simp [hline] at hchunk
    · obtain ⟨emitted, hwritten⟩ := ForwardStream.chunk_written (d := .steady) (s := s) hline rfl
      rw [hwritten] at hchunk
      cases hchunk
  · intro _ s r _ hcheck
    simp [ForwardStream.check, Downstream.steady] at hcheck
  · intro s _
    rw [Body.reads_ending, hend]
    exact ⟨s.events, s.bytes, by simp [ForwardStream.stop, ForwardStream.leave]⟩

/-- A sidecar's reply is reported as completed unless it is taken for a rejection. -/
theorem routerCompleted_iff (reqID backendID : String) (h : Handled) :
    RouterCompleted (routerHop reqID backendID h) ↔ rejects h.writer.finish.status = false := by
  cases hrej : rejects h.writer.finish.status with
  | true =>
    refine iff_of_false ?_ nofun
    rintro ⟨events, bytes, hmem⟩
    simp [routerHop, forward, hrej] at hmem
  | false => exact iff_of_true (forward_steady_completed hrej rfl) rfl

/-- A ticket that was finished once is completed exactly if that was its state. -/
theorem sidecarCompleted_iff {h : Handled} {state : ReqState} {reason : String}
    (hdone : dones h.log = [(state, reason)]) : SidecarCompleted h ↔ state = .completed := by
  rw [SidecarCompleted, hdone]
  constructor
  · rintro ⟨r, hr⟩
    exact (congrArg Prod.fst (List.mem_singleton.mp hr)).symm
  · rintro rfl
    exact ⟨reason, List.mem_singleton_self _⟩

/-- The upstream answers 200 and its body reaches EOF, or it answers with a status that
the router takes for a rejection. -/
def ToldApart : Reply → Prop
  | .error _ => False
  | .ok resp =>
    (resp.status = 200 ∧ resp.body.ending = .eof) ∨ resp.status = 429 ∨ resp.status = 503

/-- For every upstream behaviour, the router reports a completed stream only if the
sidecar completed it, if and only if the upstream reached the end of a 200 stream or
answered 429 or 503. -/
theorem completed_truthfully_iff (reqID backendID : String) (upstream : Reply) :
    (RouterCompleted (routerHop reqID backendID (sidecarHop reqID upstream)) →
      SidecarCompleted (sidecarHop reqID upstream)) ↔ ToldApart upstream := by
  cases upstream with
  | error err =>
    obtain ⟨hstatus, hdone⟩ := relayStream_error (w := .new) rfl reqID err
    have hrouter : RouterCompleted (routerHop reqID backendID (sidecarHop reqID (.error err))) :=
      (routerCompleted_iff _ _ _).mpr (by rw [sidecarHop, hstatus]; rfl)
    have hsidecar : SidecarCompleted (sidecarHop reqID (.error err)) ↔
        ReqState.upstreamFail = .completed := sidecarCompleted_iff hdone
    simp [hsidecar, hrouter, ToldApart]
  | ok resp =>
    by_cases hok : resp.status = 200
    · obtain ⟨hstatus, state, reason, hdone, hstate⟩ :=
        relayStream_steady (w := .new) rfl reqID hok
      have hrouter :
          RouterCompleted (routerHop reqID backendID (sidecarHop reqID (.ok resp))) :=
        (routerCompleted_iff _ _ _).mpr (by rw [sidecarHop, hstatus]; rfl)
      have hsidecar : SidecarCompleted (sidecarHop reqID (.ok resp)) ↔ state = .completed :=
        sidecarCompleted_iff hdone
      simp [hsidecar, hrouter, hstate, ToldApart, hok]
    · obtain ⟨hstatus, hdone⟩ := relayStream_not_ok (w := .new) rfl reqID hok
      have hrouter : RouterCompleted (routerHop reqID backendID (sidecarHop reqID (.ok resp))) ↔
          ¬ (resp.status = 429 ∨ resp.status = 503) := by
        rw [routerCompleted_iff, sidecarHop, hstatus]
        simp [rejects]
      have hsidecar : SidecarCompleted (sidecarHop reqID (.ok resp)) ↔
          ReqState.upstreamFail = .completed := sidecarCompleted_iff hdone
      simp only [hrouter, hsidecar, ToldApart, hok, reduceCtorEq, false_and, false_or, imp_false,
        not_not]

/-- The upstream dies in the middle of its second event. -/
def diesMidStream : Reply :=
  .ok ⟨200, Header.empty, ⟨utf8 "data: a\n\ndata: b", .failed ⟨"unexpected EOF", false⟩⟩⟩

/-- The sidecar finishes the ticket as a partial stream, and the router reports the stream
as completed. -/
theorem diesMidStream_reported_completed :
    dones (sidecarHop "req" diesMidStream).log =
        [(.partialStream, "upstream_err_mid_stream")] ∧
      RouterCompleted (routerHop "req" "b0" (sidecarHop "req" diesMidStream)) ∧
      ¬ SidecarCompleted (sidecarHop "req" diesMidStream) := by
  have hdone : dones (sidecarHop "req" diesMidStream).log =
      [(.partialStream, "upstream_err_mid_stream")] := by
    decide +kernel
  refine ⟨hdone, ?_, ?_⟩
  · exact (routerCompleted_iff _ _ _).mpr (by decide +kernel)
  · rw [sidecarCompleted_iff hdone]
    exact nofun

end GpuSidecar.Hops
