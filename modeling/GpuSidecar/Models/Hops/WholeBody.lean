import GpuSidecar.Models.Hops.TwoHop
import Mathlib.Data.List.TakeDrop

/-!
# Full responses at either hop

Both hops read a full response with `io.ReadAll` on a reader limited to 64 MiB, write what
they read with one `Write`, and ignore the errors of both. A body that is longer than the
limit, whose read fails before its end or whose write fails is cut short without a trace,
and the status alone decides whether the request counts as completed. It is completed only
when whole exactly for bodies that are read to their end and written.
-/

namespace GpuSidecar.Hops

open Http Dataplane Routing

/-- A body on its way to its reader. -/
structure Transfer where
  /-- The bytes that the sender puts into the body. -/
  sent : Bytes
  /-- The number of bytes after which reading fails, if it does. -/
  fails : Option (ℕ × ReadError)
  deriving DecidableEq, Repr

namespace Transfer

/-- The body as its reader finds it. -/
def body (t : Transfer) : Body :=
  match t.fails with
  | none => ⟨t.sent, .eof⟩
  | some (k, err) => ⟨t.sent.take k, .failed err⟩

/-- No byte lies beyond the limit or beyond the point where reading fails. -/
def WithinReach (t : Transfer) (limit : ℕ) : Prop :=
  t.sent.length ≤ limit ∧ ∀ k err, t.fails = some (k, err) → t.sent.length ≤ k

/-- A limited read that ignores its error returns everything that was sent exactly if all of
it is within reach. -/
theorem readAll_body_eq_iff (t : Transfer) (limit : ℕ) :
    t.body.readAll limit = t.sent ↔ t.WithinReach limit := by
  rcases t with ⟨sent, _ | ⟨k, err⟩⟩
  · simp [body, Body.readAll, WithinReach, List.take_eq_self_iff]
  · have htake : (sent.take k).take limit = sent ↔ sent.length ≤ min limit k := by
      rw [List.take_take, List.take_eq_self_iff]
    simpa [body, Body.readAll, WithinReach] using htake

end Transfer

/-- The limit of both hops. -/
def readLimit : ℕ := 64 * 1024 * 1024

/-- The router emitted `REQUEST_COMPLETED` for a full response with a status of success. -/
def RouterCompletedFull (r : Forwarded) : Prop :=
  ∃ status, AttemptEvent.fullResponseCompleted status ∈ r.events ∧ 200 ≤ status ∧ status < 300

section

variable (d : Downstream) (w : ResponseWriter) (reqID backendID : String) (resp : Response)

/-- What a hop adds to the body: what it read, if the write succeeds. -/
def delivered (d : Downstream) (body : Body) : Bytes :=
  if d.writeFails 0 then [] else body.readAll readLimit

/-- The sidecar writes what it read of the body. -/
theorem relayJSON_body :
    (relayJSON d w reqID (.ok resp)).writer.body = w.body ++ delivered d resp.body := by
  simp only [relayJSON]
  split <;> exact ResponseWriter.writeIgnored_body ..

/-- The sidecar decides by the status alone whether the ticket is completed. -/
theorem relayJSON_completed_iff :
    SidecarCompleted (relayJSON d w reqID (.ok resp)) ↔ 200 ≤ resp.status ∧ resp.status < 300 := by
  simp only [relayJSON]
  split <;> rename_i hstatus
  · exact iff_of_true ⟨"json_ok", List.mem_singleton_self _⟩ hstatus
  · refine iff_of_false ?_ hstatus
    rintro ⟨reason, hreason⟩
    simp [dones] at hreason

/-- The router writes what it read of the body, if it takes the reply at all. -/
theorem forward_full_body (hrej : rejects resp.status = false) :
    (forward d w backendID reqID false (.ok resp)).writer.body =
      w.body ++ delivered d resp.body := by
  simp only [forward, hrej]
  exact ResponseWriter.writeIgnored_body ..

/-- The router decides by the status alone whether the request is completed. -/
theorem forward_completed_iff :
    RouterCompletedFull (forward d w backendID reqID false (.ok resp)) ↔
      200 ≤ resp.status ∧ resp.status < 300 := by
  cases hrej : rejects resp.status with
  | true =>
    have hstatus : resp.status = 429 ∨ resp.status = 503 := by simpa [rejects] using hrej
    refine iff_of_false ?_ (by omega)
    rintro ⟨status, hmem, -⟩
    simp [forward, hrej] at hmem
  | false => simp [RouterCompletedFull, forward, hrej]

end

/-- A hop adds everything that was sent exactly if there is nothing to lose, or all of it is
within reach and the write succeeds. -/
theorem delivered_eq_iff (d : Downstream) (t : Transfer) :
    delivered d t.body = t.sent ↔
      t.WithinReach readLimit ∧ (t.sent ≠ [] → d.writeFails 0 = false) := by
  rw [delivered]
  cases hfails : d.writeFails 0 with
  | false => simp [t.readAll_body_eq_iff readLimit]
  | true =>
    constructor
    · intro hnil
      have hsent : t.sent = [] := hnil.symm
      exact ⟨⟨by simp [hsent], by simp [hsent]⟩, fun hne => absurd hsent hne⟩
    · rintro ⟨-, hwritten⟩
      by_contra hne
      exact absurd (hwritten fun hnil => hne hnil.symm) (by decide)

/-- A ticket at the sidecar, and a request at the router, is completed only if the whole body
was written to its peer, if and only if the status is no success, or every byte of the body is
within reach and neither peer's write of it fails. -/
theorem completed_whole_iff (d d' : Downstream) (w : ResponseWriter) (reqID backendID : String)
    (status : ℕ) (header : Header) (t : Transfer) :
    ((SidecarCompleted (relayJSON d w reqID (.ok ⟨status, header, t.body⟩)) →
        (relayJSON d w reqID (.ok ⟨status, header, t.body⟩)).writer.body = w.body ++ t.sent) ∧
      (RouterCompletedFull (forward d' w backendID reqID false (.ok ⟨status, header, t.body⟩)) →
        (forward d' w backendID reqID false (.ok ⟨status, header, t.body⟩)).writer.body =
          w.body ++ t.sent)) ↔
      (200 ≤ status ∧ status < 300 → t.WithinReach readLimit ∧
        (t.sent ≠ [] → d.writeFails 0 = false ∧ d'.writeFails 0 = false)) := by
  have hwhole : ∀ d, w.body ++ delivered d t.body = w.body ++ t.sent ↔
      t.WithinReach readLimit ∧ (t.sent ≠ [] → d.writeFails 0 = false) := fun d =>
    (List.append_right_inj _).trans (delivered_eq_iff d t)
  rw [relayJSON_completed_iff, relayJSON_body, hwhole, forward_completed_iff]
  by_cases hstatus : 200 ≤ status ∧ status < 300
  · have hrej : rejects status = false := by
      simp only [rejects, decide_eq_false_iff_not]
      omega
    rw [forward_full_body d' w reqID backendID _ hrej, hwhole]
    simp only [hstatus]
    tauto
  · simp only [hstatus, false_imp_iff, and_self]

/-- Two bytes, of which the second is lost. -/
def cutShort : Transfer := ⟨[1, 2], some (1, ⟨"unexpected EOF", false⟩)⟩

/-- The sidecar completes the ticket and the router the request, and either wrote one byte of
two. -/
theorem cutShort_completed :
    SidecarCompleted (relayJSON .steady .new "r" (.ok ⟨200, .empty, cutShort.body⟩)) ∧
      (relayJSON .steady .new "r" (.ok ⟨200, .empty, cutShort.body⟩)).writer.body ≠
        cutShort.sent ∧
      RouterCompletedFull
        (forward .steady .new "b" "r" false (.ok ⟨200, .empty, cutShort.body⟩)) ∧
      (forward .steady .new "b" "r" false (.ok ⟨200, .empty, cutShort.body⟩)).writer.body ≠
        cutShort.sent := by
  refine ⟨(relayJSON_completed_iff _ _ _ _).mpr (by decide), ?_,
    (forward_completed_iff _ _ _ _ _).mpr (by decide), ?_⟩
  · rw [relayJSON_body]
    decide
  · rw [forward_full_body _ _ _ _ _ rfl]
    decide

end GpuSidecar.Hops
