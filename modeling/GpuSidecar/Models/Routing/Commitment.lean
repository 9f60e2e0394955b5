import GpuSidecar.Models.Routing.Gateway

/-!
# Commitment to the client

The gateway retries while an attempt is not sent, and commits to the client with the
first `WriteHeader`. The two agree for every attempt except one: a stream that fails
before its first byte is not sent, although its header is. A request makes a single
commitment if and only if none of its attempts fails in this way.
-/

namespace GpuSidecar.Routing

open Http Hops

/-- The attempt opened a stream that failed before its first byte, with the client
connected. -/
def Attempt.FailsAfterHeader (g : GatewayRun) (a : Attempt) : Prop :=
  Routing.FailsAfterHeader (g.client a.number) g.features.stream (g.reply a.number a.backendID)

/-- The client's response is what one attempt, or one error reply, writes to a new
writer. -/
def OneSource (g : GatewayRun) (s : AttemptLoop) : Prop :=
  (∃ a ∈ s.attempts, a.result.sent = true ∧
    s.writer = (forward (g.client a.number) .new a.backendID g.reqID g.features.stream
      (g.reply a.number a.backendID)).writer) ∨
  ∃ status code detail, s.writer = httpErr .new status code g.reqID detail

/-- `WriteHeader` is called at most once on the client's writer, an attempt that is not sent
has called neither `WriteHeader` nor `Write`, and the response has one source. -/
structure SingleCommitment (g : GatewayRun) : Prop where
  once : g.chatCompletions.writer.headerCalls ≤ 1
  unsent : ∀ a ∈ g.chatCompletions.attempts, a.result.sent = false →
    a.result.writer.headerCalls = a.writer.headerCalls ∧
      a.result.writer.writeCalls = a.writer.writeCalls
  source : OneSource g g.chatCompletions

namespace GatewayRun

/-- Between two iterations: nothing was written so far, or an attempt has failed after its
header. -/
def Uncommitted (g : GatewayRun) (s : AttemptLoop) : Prop :=
  (∀ a ∈ s.attempts, a.Genuine g) ∧
    ((s.writer = .new ∧ ∀ a ∈ s.attempts, ¬ a.FailsAfterHeader g) ∨
      (1 ≤ s.writer.headerCalls ∧ ∃ a ∈ s.attempts, a.FailsAfterHeader g))

/-- After the loop: one commitment from one source, or a second call of `WriteHeader` after
an attempt that failed after its header. -/
def Committed (g : GatewayRun) (s : AttemptLoop) : Prop :=
  (∀ a ∈ s.attempts, a.Genuine g) ∧
    ((s.writer.headerCalls = 1 ∧ OneSource g s ∧ ∀ a ∈ s.attempts, ¬ a.FailsAfterHeader g) ∨
      (2 ≤ s.writer.headerCalls ∧ ∃ a ∈ s.attempts, a.FailsAfterHeader g))

/-- An error reply commits. -/
theorem Uncommitted.errorReply {g : GatewayRun} {s : AttemptLoop} (h : g.Uncommitted s)
    (status : ℕ) (code detail : String) (events : List RouterEvent) :
    g.Committed
      { s with writer := httpErr s.writer status code g.reqID detail, events := events } := by
  obtain ⟨hgenuine, ⟨hnew, hnone⟩ | ⟨hcalls, hsome⟩⟩ := h
  · refine ⟨hgenuine, Or.inl ⟨?_, Or.inr ⟨status, code, detail, by rw [hnew]⟩, hnone⟩⟩
    rw [errorReply_headerCalls, hnew]
    rfl
  · refine ⟨hgenuine, Or.inr ⟨?_, hsome⟩⟩
    rw [errorReply_headerCalls]
    omega

/-- A sent attempt commits. -/
theorem Uncommitted.sent {g : GatewayRun} {s : AttemptLoop} (h : g.Uncommitted s) {id : String}
    {tried : List String} (hsent : (g.makeAttempt s id tried).result.sent = true)
    (events : List RouterEvent) :
    g.Committed (s.delivered (g.makeAttempt s id tried) events) := by
  obtain ⟨hgenuine, hstate⟩ := h
  have hmade : g.makeAttempt s id tried ∈ s.attempts ++ [g.makeAttempt s id tried] := by simp
  have hforward := forward_cases (g.client s.attempt) s.writer id g.reqID g.features.stream
    (g.reply s.attempt id)
  obtain ⟨hgood, hcalls⟩ : ¬ (g.makeAttempt s id tried).FailsAfterHeader g ∧
      (g.makeAttempt s id tried).result.writer.headerCalls = s.writer.headerCalls + 1 := by
    rcases hforward with ⟨-, hunsent, -⟩ | ⟨hgood, -, hcalls⟩ | ⟨-, hunsent, -⟩
    · exact absurd (hsent.symm.trans hunsent) (by simp)
    · exact ⟨hgood, hcalls⟩
    · exact absurd (hsent.symm.trans hunsent) (by simp)
  refine ⟨List.forall_mem_append.mpr
    ⟨hgenuine, List.forall_mem_singleton.mpr (g.makeAttempt_genuine s id tried)⟩, ?_⟩
  rcases hstate with ⟨hnew, hnone⟩ | ⟨hbefore, a, ha, hfails⟩
  · have hcalls' : (g.makeAttempt s id tried).result.writer.headerCalls = 1 := by
      rw [hcalls, hnew]
      rfl
    refine Or.inl ⟨hcalls', Or.inl ⟨_, hmade, hsent, ?_⟩,
      List.forall_mem_append.mpr ⟨hnone, List.forall_mem_singleton.mpr hgood⟩⟩
    simp only [AttemptLoop.delivered, makeAttempt, hnew]
  · refine Or.inr ⟨?_, a, List.mem_append_left _ ha, hfails⟩
    change 2 ≤ (g.makeAttempt s id tried).result.writer.headerCalls
    omega

/-- An attempt that is not sent leaves the writer alone, or fails after its header. -/
theorem Uncommitted.unsent {g : GatewayRun} {s : AttemptLoop} (h : g.Uncommitted s) {id : String}
    {tried : List String} (hsent : (g.makeAttempt s id tried).result.sent = false)
    (events : List RouterEvent) :
    g.Uncommitted (s.retrying (g.makeAttempt s id tried) events) := by
  obtain ⟨hgenuine, hstate⟩ := h
  have hmade : g.makeAttempt s id tried ∈ s.attempts ++ [g.makeAttempt s id tried] := by simp
  refine ⟨List.forall_mem_append.mpr
    ⟨hgenuine, List.forall_mem_singleton.mpr (g.makeAttempt_genuine s id tried)⟩, ?_⟩
  rcases forward_cases (g.client s.attempt) s.writer id g.reqID g.features.stream
    (g.reply s.attempt id) with ⟨hgood, -, hsame⟩ | ⟨-, hsent', -⟩ | ⟨hfails, -, hcalls⟩
  · have hsame' : (s.retrying (g.makeAttempt s id tried) events).writer = s.writer := hsame
    rw [hsame']
    rcases hstate with ⟨hnew, hnone⟩ | ⟨hbefore, a, ha, hfails⟩
    · exact Or.inl ⟨hnew,
        List.forall_mem_append.mpr ⟨hnone, List.forall_mem_singleton.mpr hgood⟩⟩
    · exact Or.inr ⟨hbefore, a, List.mem_append_left _ ha, hfails⟩
  · exact absurd (hsent.symm.trans hsent') (by simp)
  · refine Or.inr ⟨?_, _, hmade, hfails⟩
    change 1 ≤ (g.makeAttempt s id tried).result.writer.headerCalls
    have hcalls' : (g.makeAttempt s id tried).result.writer.headerCalls =
        s.writer.headerCalls + 1 := hcalls
    omega

/-- The attempt loop ends committed. -/
theorem Uncommitted.tryAll {g : GatewayRun} {s : AttemptLoop} (h : g.Uncommitted s) (n : ℕ) :
    g.Committed (g.tryAll n s) := by
  refine g.tryAll_rule (I := fun _ => g.Uncommitted) (Q := g.Committed) ?_ ?_ ?_ n h
  · intro _ s t hs ht
    rcases g.tryOnce_cases s with ⟨_, -, hcase⟩ | ⟨_, _, -, -, hcase⟩ | ⟨_, _, _, hsent, hcase⟩ |
      ⟨_, _, _, -, hcase⟩ <;> rw [hcase] at ht <;> cases ht
    · exact hs.errorReply _ _ _ _
    · exact hs.sent hsent _
  · intro _ s t hs ht
    rcases g.tryOnce_cases s with ⟨_, -, hcase⟩ | ⟨_, _, -, -, hcase⟩ | ⟨_, _, _, -, hcase⟩ |
      ⟨_, _, _, hsent, hcase⟩ <;> rw [hcase] at ht <;> cases ht
    · exact hs
    · exact hs.unsent hsent _
  · intro s hs
    exact hs.errorReply _ _ _ s.events

/-- Every request ends committed. -/
theorem chatCompletions_committed (g : GatewayRun) : g.Committed g.chatCompletions := by
  rw [chatCompletions]
  cases g.readErr with
  | none =>
    have hbegin : g.Uncommitted g.begin := by simp [Uncommitted, begin]
    exact hbegin.tryAll _
  | some err =>
    refine ⟨by simp, Or.inl ⟨?_, Or.inr ⟨_, _, _, rfl⟩, by simp⟩⟩
    rw [errorReply_headerCalls]
    rfl

end GatewayRun

/-- A genuine attempt that is not sent, and does not fail after its header, leaves the
writer alone. -/
theorem Attempt.Genuine.writer_eq {g : GatewayRun} {a : Attempt} (h : a.Genuine g)
    (hsent : a.result.sent = false) (hgood : ¬ a.FailsAfterHeader g) :
    a.result.writer = a.writer := by
  rw [h] at hsent ⊢
  rcases forward_cases (g.client a.number) a.writer a.backendID g.reqID g.features.stream
    (g.reply a.number a.backendID) with ⟨-, -, hsame⟩ | ⟨-, hsent', -⟩ | ⟨hfails, -, -⟩
  · exact hsame
  · exact absurd (hsent.symm.trans hsent') (by simp)
  · exact absurd hfails hgood

/-- A request makes a single commitment to its client if and only if none of its attempts
opens a stream that fails before its first byte. -/
theorem singleCommitment_iff (g : GatewayRun) :
    SingleCommitment g ↔ ∀ a ∈ g.chatCompletions.attempts, ¬ a.FailsAfterHeader g := by
  obtain ⟨hgenuine, ⟨hcalls, hsource, hnone⟩ | ⟨hcalls, a, ha, hfails⟩⟩ :=
    g.chatCompletions_committed
  · refine ⟨fun _ => hnone, fun _ => ⟨hcalls.le, ?_, hsource⟩⟩
    intro a ha hsent
    rw [(hgenuine a ha).writer_eq hsent (hnone a ha)]
    exact ⟨rfl, rfl⟩
  · constructor
    · intro h
      have honce := h.once
      omega
    · intro h
      exact absurd hfails (h a ha)

/-- A streaming request with one retry over two idle backends. The first opens its stream and
dies before the first event, the second streams one event. -/
def emptyStreamRun : GatewayRun where
  reqID := "req"
  readErr := none
  features := ⟨true, 0, 0, "", 0, false⟩
  maxRetries := 1
  snapshot := fun _ => ⟨[idleBackend "a", idleBackend "b"]⟩
  selectBackend := fun _ => Policy.roundRobin.selectBackend ⟨0, none⟩
  reply := fun _ id =>
    if id = "a" then .ok ⟨200, Header.empty, ⟨[], .failed ⟨"unexpected EOF", false⟩⟩⟩
    else .ok ⟨200, Header.empty, ⟨utf8 "data: x\n\n", .eof⟩⟩
  client := fun _ => Downstream.steady

/-- `WriteHeader` is called twice, and the client reads the header of the first backend with
the body of the second. -/
theorem emptyStreamRun_not_singleCommitment :
    emptyStreamRun.chatCompletions.writer.headerCalls = 2 ∧
      emptyStreamRun.chatCompletions.writer.finish.header "X-Backend-ID" = ["a"] ∧
      emptyStreamRun.chatCompletions.writer.finish.body.data = utf8 "data: x\n\n" ∧
      ¬ SingleCommitment emptyStreamRun := by
  have hcalls : emptyStreamRun.chatCompletions.writer.headerCalls = 2 := by decide +kernel
  refine ⟨hcalls, by decide +kernel, by decide +kernel, ?_⟩
  intro h
  have honce := h.once
  omega

end GpuSidecar.Routing
