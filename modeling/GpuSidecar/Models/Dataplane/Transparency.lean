import GpuSidecar.Models.Dataplane.Relay

/-!
# Transparent streams

A relayed stream hands on the chunks it reads, in order and without loss or repetition,
up to the place where it stops, and reports exactly what it handed on. Which state ends
its ticket depends only on whether the relay reaches the end of the upstream body, how
that body ends, and whether anything was handed on. A read error that is itself a
cancellation counts as one even while the context is live.
-/

namespace GpuSidecar.Dataplane

open Http Hops

/-- The events and bytes that an event reports as handed on. -/
def LocalEvent.progress : LocalEvent → Option (ℕ × ℕ)
  | streamCompleted events bytes _ => some (events, bytes)
  | upstreamCancelled _ progress => progress
  | partialStreamFailed _ events bytes => some (events, bytes)
  | _ => none

/-- The reports of progress in a log. -/
def reports (log : List ProxyAction) : List (ℕ × ℕ) :=
  log.filterMap fun
    | .emit event => event.progress
    | _ => none

@[simp] theorem reports_append (log log' : List ProxyAction) :
    reports (log ++ log') = reports log ++ reports log' := List.filterMap_append

/-- How a relay that wrote a number of chunks finishes its ticket; `live` says which read
errors count as failures of the upstream server. -/
inductive Outcome (live : ReadError → Prop) (d : Downstream) (reads : Reads) (sent : ℕ) :
    ReqState → Prop
  | completed (hthrough : reads.Through d) (hend : reads.ending = .eof) :
      Outcome live d reads sent .completed
  | upstreamFail {err : ReadError} (hthrough : reads.Through d) (hend : reads.ending = .failed err)
      (hlive : live err) (hsent : sent = 0) : Outcome live d reads sent .upstreamFail
  | partialStream {err : ReadError} (hthrough : reads.Through d)
      (hend : reads.ending = .failed err) (hlive : live err) (hsent : 0 < sent) :
      Outcome live d reads sent .partialStream
  | cancelledRead {err : ReadError} (hend : reads.ending = .failed err) (hlive : ¬ live err) :
      Outcome live d reads sent .cancelled
  | stopped (hthrough : ¬ reads.Through d) : Outcome live d reads sent .cancelled

/-- The first chunk was written and the relay went on. -/
theorem Outcome.more {live : ReadError → Prop} {d : Downstream} {line : Bytes} {rest : Reads}
    {sent : ℕ} {state : ReqState} (hline : line ≠ []) (hwrite : d.writeFails 0 = false)
    (hcheck : d.ctxDone 0 = false) (h : Outcome live (d.after 1) rest sent state) :
    Outcome live d (.more line rest) sent state := by
  have hthrough : (Reads.more line rest).Through d ↔ rest.Through (d.after 1) := by
    simp [Reads.through_more hline, hwrite, hcheck]
  cases h with
  | completed hrest hend => exact .completed (hthrough.mpr hrest) hend
  | upstreamFail hrest hend hlive hsent =>
    exact .upstreamFail (hthrough.mpr hrest) hend hlive hsent
  | partialStream hrest hend hlive hsent =>
    exact .partialStream (hthrough.mpr hrest) hend hlive hsent
  | cancelledRead hend hlive => exact .cancelledRead hend hlive
  | stopped hrest => exact .stopped (mt hthrough.mp hrest)

section

variable {live : ReadError → Prop} {d : Downstream} {reads : Reads} {sent : ℕ} {state : ReqState}

theorem Outcome.completed_iff (h : Outcome live d reads sent state) :
    state = .completed ↔ reads.Through d ∧ reads.ending = .eof := by
  cases h <;> simp_all

theorem Outcome.upstreamFail_iff (h : Outcome live d reads sent state) :
    state = .upstreamFail ↔
      reads.Through d ∧ sent = 0 ∧ ∃ err, reads.ending = .failed err ∧ live err := by
  cases h <;> simp_all [Nat.pos_iff_ne_zero]

theorem Outcome.partialStream_iff (h : Outcome live d reads sent state) :
    state = .partialStream ↔
      reads.Through d ∧ 0 < sent ∧ ∃ err, reads.ending = .failed err ∧ live err := by
  cases h <;> simp_all

theorem Outcome.cancelled_iff (h : Outcome live d reads sent state) :
    state = .cancelled ↔
      ¬ reads.Through d ∨ ∃ err, reads.ending = .failed err ∧ ¬ live err := by
  cases h <;> simp_all

end

namespace Stream

/-- What the loop leaves behind, seen from a state in which it has written some chunks. -/
structure Relayed (d : Downstream) (reads : Reads) (s : Stream) (n : ℕ) (r : Handled) : Prop where
  upTo : reads.UpTo (d.after s.eventCount) n
  written : r.writer.body = s.writer.body ++ (reads.chunks.take n).flatten
  reported : ∀ p ∈ reports r.log, p ∈ reports s.log ∨
    p = (s.eventCount + n, s.byteCount + (reads.chunks.take n).flatten.length)
  finished : ∃ state reason, dones r.log = dones s.log ++ [(state, reason)] ∧
    Outcome (fun err => d.ctxErr = false ∧ err.canceled = false) (d.after s.eventCount) reads
      (s.eventCount + n) state

/-- A read whose write succeeds reports no progress. -/
theorem chunk_written_reports {d : Downstream} {s : Stream} {line : Bytes} (hline : line ≠ [])
    (hwrite : d.writeFails s.eventCount = false) :
    ∃ t, s.chunk d line = .ok t ∧ t.writer.body = s.writer.body ++ line ∧
      reports t.log = reports s.log ∧ dones t.log = dones s.log ∧ t.firstDownstream = true ∧
      t.eventCount = s.eventCount + 1 ∧ t.byteCount = s.byteCount + line.length ∧
      t.reads = s.reads := by
  rcases s with ⟨w, log, up, down, events, bytes, saw, reads⟩
  have hempty : line.isEmpty = false := by simpa using hline
  have hwrite' : d.writeFails events = false := hwrite
  cases up <;> cases down <;>
    simp [chunk, hempty, hwrite', record, ResponseWriter.write, ResponseWriter.commit, reports,
      dones, LocalEvent.progress]

/-- A read whose write fails ends the relay without progress. -/
theorem chunk_failed_reports {d : Downstream} {s : Stream} {line : Bytes} (hline : line ≠ [])
    (hwrite : d.writeFails s.eventCount = true) :
    ∃ r, s.chunk d line = .error r ∧ r.writer.body = s.writer.body ∧
      reports r.log = reports s.log ∧
      dones r.log = dones s.log ++ [(.cancelled, "downstream_gone")] := by
  rcases s with ⟨w, log, up, down, events, bytes, saw, reads⟩
  have hempty : line.isEmpty = false := by simpa using hline
  have hwrite' : d.writeFails events = true := hwrite
  cases up <;>
    simp [chunk, hempty, hwrite', record, leave, ResponseWriter.failWrite, reports, dones,
      LocalEvent.progress]

/-- What a relay leaves behind that emits an event and finishes its ticket. -/
theorem leave_spec (s : Stream) (event : LocalEvent)
    (h : ∀ p ∈ event.progress, p = (s.eventCount, s.byteCount)) (state : ReqState)
    (reason : String) :
    let r := s.leave [.emit event, .done state reason]
    r.writer = s.writer ∧
      (∀ p ∈ reports r.log, p ∈ reports s.log ∨ p = (s.eventCount, s.byteCount)) ∧
      dones r.log = dones s.log ++ [(state, reason)] := by
  refine ⟨rfl, ?_, by rw [leave, dones_append]; rfl⟩
  intro p hp
  rw [leave, reports_append, List.mem_append] at hp
  refine hp.imp_right fun hp => h p ?_
  cases hprogress : event.progress with
  | none => simp [reports, hprogress] at hp
  | some q => simpa [reports, hprogress, eq_comm] using hp

/-- How the end of a stream finishes the ticket and what it reports. -/
theorem stop_outcome (d : Downstream) {s : Stream}
    (hfirst : s.firstDownstream = true ↔ 0 < s.eventCount) {d' : Downstream} {reads : Reads}
    (hthrough : reads.Through d') :
    let r := s.stop d reads.ending
    r.writer = s.writer ∧
      (∀ p ∈ reports r.log, p ∈ reports s.log ∨ p = (s.eventCount, s.byteCount)) ∧
      ∃ state reason, dones r.log = dones s.log ++ [(state, reason)] ∧
        Outcome (fun err => d.ctxErr = false ∧ err.canceled = false) d' reads s.eventCount
          state := by
  cases hend : reads.ending with
  | eof =>
    obtain ⟨hwriter, hreports, hdones⟩ :=
      s.leave_spec (.streamCompleted s.eventCount s.byteCount s.sawDone)
        (by simp [LocalEvent.progress]) .completed "stream_ok"
    exact ⟨hwriter, hreports, _, _, hdones, .completed hthrough hend⟩
  | failed err =>
    have hlive : (d.ctxErr || err.canceled) = false ↔
        d.ctxErr = false ∧ err.canceled = false := by simp
    cases hdown : s.firstDownstream with
    | false =>
      have hsent : s.eventCount = 0 := by
        rw [hdown] at hfirst
        simpa using hfirst
      cases hcancelled : d.ctxErr || err.canceled with
      | false =>
        obtain ⟨hwriter, hreports, hdones⟩ :=
          s.leave_spec (.vllmRequestFailed err.text "pre_first_event")
            (by simp [LocalEvent.progress]) .upstreamFail "upstream_err_pre_first_event"
        simp only [stop, hdown, hcancelled, Bool.not_false, if_true, Bool.false_eq_true, if_false]
        exact ⟨hwriter, hreports, _, _, hdones,
          .upstreamFail hthrough hend (hlive.mp hcancelled) hsent⟩
      | true =>
        obtain ⟨hwriter, hreports, hdones⟩ :=
          s.leave_spec (.upstreamCancelled "pre_first_event" none)
            (by simp [LocalEvent.progress]) .cancelled "cancelled_pre_first_event"
        simp only [stop, hdown, hcancelled, Bool.not_false, if_true]
        exact ⟨hwriter, hreports, _, _, hdones,
          .cancelledRead hend (by rw [← hlive, hcancelled]; simp)⟩
    | true =>
      have hsent : 0 < s.eventCount := hfirst.mp hdown
      cases hcancelled : d.ctxErr || err.canceled with
      | false =>
        obtain ⟨hwriter, hreports, hdones⟩ :=
          s.leave_spec (.partialStreamFailed err.text s.eventCount s.byteCount)
            (by simp [LocalEvent.progress]) .partialStream "upstream_err_mid_stream"
        simp only [stop, hdown, hcancelled, Bool.not_true, Bool.false_eq_true, if_false]
        exact ⟨hwriter, hreports, _, _, hdones,
          .partialStream hthrough hend (hlive.mp hcancelled) hsent⟩
      | true =>
        obtain ⟨hwriter, hreports, hdones⟩ :=
          s.leave_spec (.upstreamCancelled "mid_stream" (some (s.eventCount, s.byteCount)))
            (by simp [LocalEvent.progress]) .cancelled "client_cancelled_mid_stream"
        simp only [stop, hdown, hcancelled, Bool.not_true, Bool.false_eq_true, if_false, if_true]
        exact ⟨hwriter, hreports, _, _, hdones,
          .cancelledRead hend (by rw [← hlive, hcancelled]; simp)⟩

/-- The check between two reads ends the relay if the context is done. -/
theorem check_done {d : Downstream} {s : Stream} (h : d.ctxDone s.reads = true) :
    ∃ r, s.check d = .error r ∧ r.writer = s.writer ∧ reports r.log = reports s.log ∧
      dones r.log = dones s.log ++ [(.cancelled, "client_cancelled_mid_stream")] := by
  refine ⟨_, by rw [check, if_pos h], rfl, ?_, ?_⟩ <;>
    simp [leave, reports, dones, LocalEvent.progress]

/-- A failed first write leaves nothing behind. -/
theorem relayed_of_write_fails {d : Downstream} {reads : Reads} {s : Stream} {r : Handled}
    (hwrite : d.writeFails s.eventCount = true)
    (hthrough : ¬ reads.Through (d.after s.eventCount)) (hbody : r.writer.body = s.writer.body)
    (hreports : reports r.log = reports s.log)
    (hdones : dones r.log = dones s.log ++ [(.cancelled, "downstream_gone")]) :
    Relayed d reads s 0 r where
  upTo := Reads.upTo_zero fun _ => hwrite
  written := by simpa using hbody
  reported := by
    rw [hreports]
    exact fun p hp => Or.inl hp
  finished := ⟨_, _, hdones, .stopped hthrough⟩

/-- The loop on the last read. -/
theorem loop_last_relayed (d : Downstream) (line : Bytes) (e : Ending) (s : Stream)
    (hfirst : s.firstDownstream = true ↔ 0 < s.eventCount) :
    ∃ n, Relayed d (.last line e) s n
      ((Reads.last line e).loop (chunk d) (check d) (stop d) s) := by
  rw [Reads.loop]
  by_cases hline : line = []
  · subst hline
    have hthrough : (Reads.last [] e).Through (d.after s.eventCount) :=
      Reads.through_last.mpr (Or.inl rfl)
    obtain ⟨hwriter, hreports, hfinished⟩ := stop_outcome d hfirst hthrough
    rw [Reads.ending] at hwriter hreports hfinished
    rw [chunk_nil]
    refine ⟨0, Reads.upTo_zero (by simp [Reads.chunks]), ?_, by simpa using hreports, hfinished⟩
    simpa using congrArg ResponseWriter.body hwriter
  · cases hwrite : d.writeFails s.eventCount with
    | true =>
      obtain ⟨r, hr, hbody, hreports, hdones⟩ := chunk_failed_reports hline hwrite
      rw [hr]
      refine ⟨0, relayed_of_write_fails hwrite ?_ hbody hreports hdones⟩
      simp [Reads.through_last, hline, Downstream.after, hwrite]
    | false =>
      obtain ⟨t, ht, hbody, hreports, hdones, hdown, hevents, hbytes, -⟩ :=
        chunk_written_reports hline hwrite
      have hthrough : (Reads.last line e).Through (d.after s.eventCount) :=
        Reads.through_last.mpr (Or.inr hwrite)
      have hfirst' : t.firstDownstream = true ↔ 0 < t.eventCount := by simp [hdown, hevents]
      obtain ⟨hwriter, hreports', hfinished⟩ := stop_outcome d hfirst' hthrough
      rw [Reads.ending] at hwriter hreports' hfinished
      rw [hreports, hevents, hbytes] at hreports'
      rw [hdones, hevents] at hfinished
      rw [ht]
      refine ⟨1, Reads.upTo_last hline hwrite, ?_, ?_, hfinished⟩
      · simp only [Reads.chunks, if_neg hline]
        rw [hwriter, hbody]
        simp
      · simpa [Reads.chunks, hline] using hreports'

/-- What the loop leaves behind on every sequence of reads. -/
theorem loop_relayed (d : Downstream) {reads : Reads} (hreads : reads.Terminated) (s : Stream)
    (hcount : s.reads = s.eventCount) (hfirst : s.firstDownstream = true ↔ 0 < s.eventCount) :
    ∃ n, Relayed d reads s n (reads.loop (chunk d) (check d) (stop d) s) := by
  induction reads generalizing s with
  | last line e => exact loop_last_relayed d line e s hfirst
  | more line rest ih =>
    obtain ⟨hline, hrest⟩ := hreads
    rw [Reads.loop]
    cases hwrite : d.writeFails s.eventCount with
    | true =>
      obtain ⟨r, hr, hbody, hreports, hdones⟩ := chunk_failed_reports hline hwrite
      rw [hr]
      refine ⟨0, relayed_of_write_fails hwrite ?_ hbody hreports hdones⟩
      simp [Reads.through_more hline, Downstream.after, hwrite]
    | false =>
      obtain ⟨t, ht, hbody, hreports, hdones, hdown, hevents, hbytes, hreads⟩ :=
        chunk_written_reports hline hwrite
      rw [ht]
      have hnumber : t.reads = s.eventCount := hreads.trans hcount
      cases hdone : d.ctxDone s.eventCount with
      | true =>
        obtain ⟨r, hr, hwriter, hreports', hdones'⟩ :=
          check_done (d := d) (s := t) (by rwa [hnumber])
        simp only [hr]
        rw [hdones] at hdones'
        refine ⟨1, Reads.upTo_done hline hwrite hdone, ?_, ?_, _, _, hdones', ?_⟩
        · simp only [Reads.chunks, if_neg hline]
          rw [hwriter, hbody]
          simp
        · rw [hreports', hreports]
          exact fun p hp => Or.inl hp
        · exact .stopped (by simp [Reads.through_more hline, Downstream.after, hdone])
      | false =>
        have hcheck : t.check d = .ok { t with reads := t.reads + 1 } := by
          simp [check, hnumber, hdone]
        simp only [hcheck]
        obtain ⟨n, h⟩ := ih hrest { t with reads := t.reads + 1 } (by simp [hnumber, hevents])
          (by simp [hdown, hevents])
        have hafter : d.after t.eventCount = (d.after s.eventCount).after 1 := by
          rw [hevents, Downstream.after_after]
        have hupTo := h.upTo
        obtain ⟨state, reason, hstate, houtcome⟩ := h.finished
        simp only [hafter] at hupTo houtcome
        refine ⟨n + 1, hupTo.more hline hwrite hdone, ?_, ?_, state, reason, ?_, ?_⟩
        · rw [h.written]
          simp [Reads.chunks, hline, hbody]
        · intro p hp
          have hreported := h.reported p hp
          simp only [hreports, hevents, hbytes] at hreported
          refine hreported.imp_right fun hp => ?_
          rw [hp]
          simp [Reads.chunks, hline]
          omega
        · rw [hstate]
          simp [hdones]
        · have hsent : t.eventCount + n = s.eventCount + (n + 1) := by omega
          rw [← hsent]
          exact houtcome.more hline hwrite hdone

end Stream

/-- A relay that writes the first chunks of a body, in order and without loss or repetition,
stops where a write fails, a check finds the context done or the body ends, and reports and
finishes its ticket accordingly. -/
structure Transparent (live : ReadError → Prop) (d : Downstream) (w : ResponseWriter)
    (body : Body) (n : ℕ) (r : Handled) : Prop where
  upTo : body.reads.UpTo d n
  written : r.writer.body = w.body ++ (body.reads.chunks.take n).flatten
  isPrefix : (body.reads.chunks.take n).flatten <+: body.data
  whole : body.reads.Through d → (body.reads.chunks.take n).flatten = body.data
  reported : ∀ p ∈ reports r.log, p = (n, (body.reads.chunks.take n).flatten.length)
  finished : ∃ state reason, dones r.log = [(state, reason)] ∧
    (state = .completed ↔ body.reads.Through d ∧ body.ending = .eof) ∧
    (state = .upstreamFail ↔
      body.reads.Through d ∧ n = 0 ∧ ∃ err, body.ending = .failed err ∧ live err) ∧
    (state = .partialStream ↔
      body.reads.Through d ∧ 0 < n ∧ ∃ err, body.ending = .failed err ∧ live err) ∧
    (state = .cancelled ↔
      ¬ body.reads.Through d ∨ ∃ err, body.ending = .failed err ∧ ¬ live err)

/-- Whatever the body, the peer and the context do, a stream with status 200 is relayed
transparently, with the read errors as upstream failures that are no cancellation and
come while the context is live. -/
theorem relayStream_transparent {d : Downstream} (hflusher : d.flusher = true)
    (w : ResponseWriter) (reqID : String) (header : Header) (body : Body) :
    ∃ n, Transparent (fun err => d.ctxErr = false ∧ err.canceled = false) d w body n
      (relayStream d w reqID (.ok ⟨200, header, body⟩)) := by
  simp only [relayStream, hflusher, Bool.not_true, Bool.false_eq_true, if_false, ne_eq,
    not_true_eq_false]
  have hreads : body.reads.Terminated := Reads.ofBytes_terminated body.ending body.data
  obtain ⟨n, h⟩ := Stream.loop_relayed d hreads
    ⟨openStream w reqID, [.emit .vllmConnected, .transition .streaming "stream_open"],
      false, false, 0, 0, false, 0⟩ rfl (by simp)
  obtain ⟨state, reason, hdones, houtcome⟩ := h.finished
  have hupTo := h.upTo
  rw [Downstream.after_zero] at hupTo houtcome
  rw [Nat.zero_add] at houtcome
  refine ⟨n, hupTo, h.written, ?_, ?_, ?_, state, reason, hdones, ?_⟩
  · refine ⟨(body.reads.chunks.drop n).flatten, ?_⟩
    rw [← List.flatten_append, List.take_append_drop]
    exact (Reads.flatten_chunks _).trans body.reads_data
  · intro hthrough
    rw [hupTo.eq_length hthrough, List.take_length]
    exact (Reads.flatten_chunks _).trans body.reads_data
  · intro p hp
    simpa [reports, LocalEvent.progress] using h.reported p hp
  · have hend : body.reads.ending = body.ending := body.reads_ending
    rw [← hend]
    exact ⟨houtcome.completed_iff, houtcome.upstreamFail_iff, houtcome.partialStream_iff,
      houtcome.cancelled_iff⟩

/-- A peer that goes away at the second write. -/
def peerGone : Downstream := { Downstream.steady with writeFails := fun j => j = 1 }

/-- Two lines and a failing read, relayed to a peer that goes away. -/
theorem relayStream_transparent_peerGone :
    ∃ n, Transparent (fun err => peerGone.ctxErr = false ∧ err.canceled = false) peerGone .new
      ⟨utf8 "data: a\ndata: b\n", .failed ⟨"unexpected EOF", false⟩⟩ n
      (relayStream peerGone .new "r"
        (.ok ⟨200, .empty, ⟨utf8 "data: a\ndata: b\n", .failed ⟨"unexpected EOF", false⟩⟩⟩)) :=
  relayStream_transparent rfl _ _ _ _

/-- A read error that is itself a cancellation is no upstream failure, although nothing was
written and the context is live. -/
theorem relayStream_canceled_read_not_failed :
    ¬ ∃ n, Transparent (fun _ => Downstream.steady.ctxErr = false) .steady .new
      ⟨[], .failed ⟨"context canceled", true⟩⟩ n
      (relayStream .steady .new "r"
        (.ok ⟨200, .empty, ⟨[], .failed ⟨"context canceled", true⟩⟩⟩)) := by
  rintro ⟨n, h⟩
  have hn : n = 0 := Nat.le_zero.mp h.upTo.le
  obtain ⟨state, reason, hdones, -, hfail, -⟩ := h.finished
  have hstate : state = .cancelled := by
    have hcancelled : [(ReqState.cancelled, "cancelled_pre_first_event")] = [(state, reason)] :=
      hdones
    simp only [List.cons.injEq, Prod.mk.injEq, and_true] at hcancelled
    exact hcancelled.1.symm
  have hthrough : (Body.reads ⟨[], .failed ⟨"context canceled", true⟩⟩).Through .steady :=
    Reads.through_last.mpr (Or.inl rfl)
  have hfailed := hfail.mpr ⟨hthrough, hn, ⟨"context canceled", true⟩, rfl, rfl⟩
  rw [hstate] at hfailed
  cases hfailed

end GpuSidecar.Dataplane
