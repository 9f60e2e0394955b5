import GpuSidecar.Models.Routing.Gateway

/-!
# The trace of attempts

Under a routing policy the attempt loop makes its attempts one after another, each on the
snapshot of the same number. A sent attempt is the last one, and an attempt that is not
sent is followed by another while attempts are left and the next snapshot has an
eligible backend.
-/

namespace GpuSidecar.Routing

open Http Hops

namespace GatewayRun

/-- The decisions of the request are those of a policy. -/
def DecidesBy (g : GatewayRun) (p : Policy) : Prop :=
  ∃ env : ℕ → SelectEnv, ∀ n, g.selectBackend n = p.selectBackend (env n)

/-- What one iteration can do under a policy: it makes an attempt unless there is no
eligible backend. -/
theorem tryOnce_decides {g : GatewayRun} {p : Policy} (hp : g.DecidesBy p) (s : AttemptLoop) :
    (eligible (g.snapshot s.snapshotIndex) = [] ∧
      ∃ writer events, g.tryOnce s = .error { s with writer := writer, events := events }) ∨
    (∃ id tried events, (g.makeAttempt s id tried).result.sent = true ∧
      g.tryOnce s = .error (s.delivered (g.makeAttempt s id tried) events)) ∨
    (∃ id tried events, (g.makeAttempt s id tried).result.sent = false ∧
      g.tryOnce s = .ok (s.retrying (g.makeAttempt s id tried) events)) := by
  obtain ⟨env, henv⟩ := hp
  rcases g.tryOnce_cases s with ⟨events, hnone, hcase⟩ | ⟨dec, tried, hdec, hmissing, -⟩ | hmade
  · left
    refine ⟨?_, _, events, hcase⟩
    by_contra heligible
    obtain ⟨dec, hdec, -⟩ :=
      p.selectBackend_mem (env s.attempt) g.features heligible
    rw [henv, hdec] at hnone
    cases hnone
  · have heligible : eligible (g.snapshot s.snapshotIndex) ≠ [] := by
      intro hempty
      rw [henv, Policy.selectBackend, hempty] at hdec
      cases hdec
    obtain ⟨dec', hdec', hmem⟩ := p.selectBackend_mem (env s.attempt) g.features heligible
    rw [henv, hdec'] at hdec
    cases hdec
    exact absurd hmissing (backendByID_ne_none (avoidTried_mem hmem s.tried))
  · exact Or.inr hmade

/-- The attempts that a request has made, with a number of attempts allowed. -/
structure Trace (g : GatewayRun) (allowed : ℕ) (attempts : List Attempt) (made : ℕ) : Prop where
  numbers : attempts.map Attempt.number = List.range made
  genuine : ∀ a ∈ attempts, a.Genuine g
  snapshots : ∀ a ∈ attempts, a.snapshotIndex = a.number
  sent_last : ∀ a ∈ attempts, a.result.sent = true → a.number + 1 = made
  retried : ∀ a ∈ attempts, a.result.sent = false → a.number + 1 < allowed →
    eligible (g.snapshot (a.number + 1)) ≠ [] → a.number + 1 < made

/-- Between two iterations no attempt has been sent. -/
structure Retrying (g : GatewayRun) (allowed left : ℕ) (s : AttemptLoop) : Prop where
  budget : s.attempt + left = allowed
  snapshot : s.snapshotIndex = s.attempt
  numbers : s.attempts.map Attempt.number = List.range s.attempt
  genuine : ∀ a ∈ s.attempts, a.Genuine g
  snapshots : ∀ a ∈ s.attempts, a.snapshotIndex = a.number
  unsent : ∀ a ∈ s.attempts, a.result.sent = false

/-- An attempt of a number was made if and only if the trace is longer. -/
theorem Trace.exists_number {g : GatewayRun} {allowed made : ℕ} {attempts : List Attempt}
    (h : g.Trace allowed attempts made) (k : ℕ) :
    (∃ a ∈ attempts, a.number = k) ↔ k < made := by
  rw [← List.mem_range, ← h.numbers, List.mem_map]

namespace Retrying

variable {g : GatewayRun} {allowed left : ℕ} {s : AttemptLoop}

theorem number_lt (h : g.Retrying allowed left s) {a : Attempt} (ha : a ∈ s.attempts) :
    a.number < s.attempt := by
  rw [← List.mem_range, ← h.numbers]
  exact List.mem_map_of_mem ha

/-- The numbers go on with the next attempt. -/
theorem numbers_concat (h : g.Retrying allowed left s) (id : String) (tried : List String) :
    (s.attempts ++ [g.makeAttempt s id tried]).map Attempt.number = List.range (s.attempt + 1) := by
  rw [List.map_append, h.numbers, List.range_succ]
  rfl

/-- The loop returns without another attempt, since none is left or no backend is
eligible. -/
theorem trace (h : g.Retrying allowed left s)
    (hstop : s.attempt < allowed → eligible (g.snapshot s.snapshotIndex) = []) :
    g.Trace allowed s.attempts s.attempt where
  numbers := h.numbers
  genuine := h.genuine
  snapshots := h.snapshots
  sent_last := by
    intro a ha hsent
    rw [h.unsent a ha] at hsent
    cases hsent
  retried := by
    intro a ha _ hallowed heligible
    have hlt := h.number_lt ha
    by_contra hlast
    have hnumber : a.number + 1 = s.attempt := by omega
    rw [hnumber, ← h.snapshot] at heligible
    exact heligible (hstop (hnumber ▸ hallowed))

/-- The loop returns with a sent attempt. -/
theorem trace_sent (h : g.Retrying allowed left s) {id : String} {tried : List String}
    (hsent : (g.makeAttempt s id tried).result.sent = true) :
    g.Trace allowed (s.attempts ++ [g.makeAttempt s id tried]) (s.attempt + 1) where
  numbers := h.numbers_concat id tried
  genuine := List.forall_mem_append.mpr ⟨h.genuine, by simp [makeAttempt_genuine]⟩
  snapshots := List.forall_mem_append.mpr ⟨h.snapshots, by simp [makeAttempt, h.snapshot]⟩
  sent_last := by
    refine List.forall_mem_append.mpr ⟨?_, by simp [makeAttempt]⟩
    intro a ha hsent'
    rw [h.unsent a ha] at hsent'
    cases hsent'
  retried := by
    refine List.forall_mem_append.mpr ⟨?_, by simp [hsent]⟩
    intro a ha _ _ _
    have hlt := h.number_lt ha
    omega

/-- The loop goes on after an attempt that is not sent. -/
theorem next (h : g.Retrying allowed (left + 1) s) {id : String} {tried : List String}
    (hsent : (g.makeAttempt s id tried).result.sent = false) (events : List RouterEvent) :
    g.Retrying allowed left (s.retrying (g.makeAttempt s id tried) events) where
  budget := by
    have hbudget := h.budget
    change s.attempt + 1 + left = allowed
    omega
  snapshot := congrArg (· + 1) h.snapshot
  numbers := h.numbers_concat id tried
  genuine := List.forall_mem_append.mpr ⟨h.genuine, by simp [makeAttempt_genuine]⟩
  snapshots := List.forall_mem_append.mpr ⟨h.snapshots, by simp [makeAttempt, h.snapshot]⟩
  unsent := List.forall_mem_append.mpr ⟨h.unsent, by simpa using hsent⟩

end Retrying

/-- The trace of every request whose decisions are those of a policy. -/
theorem chatCompletions_trace {g : GatewayRun} {p : Policy} (hp : g.DecidesBy p) :
    ∃ made, g.Trace (g.maxRetries + 1).toNat g.chatCompletions.attempts made := by
  rw [chatCompletions]
  cases g.readErr with
  | some err => exact ⟨0, rfl, by simp, by simp, by simp, by simp⟩
  | none =>
    refine g.tryAll_rule (I := g.Retrying (g.maxRetries + 1).toNat)
      (Q := fun t => ∃ made, g.Trace (g.maxRetries + 1).toNat t.attempts made) ?_ ?_ ?_ _ ?_
    · intro _ s t hs ht
      rcases tryOnce_decides hp s with ⟨hempty, _, _, hcase⟩ | ⟨_, _, _, hsent, hcase⟩ |
        ⟨_, _, _, -, hcase⟩ <;> rw [hcase] at ht <;> cases ht
      · exact ⟨_, hs.trace fun _ => hempty⟩
      · exact ⟨_, hs.trace_sent hsent⟩
    · intro _ s t hs ht
      rcases tryOnce_decides hp s with ⟨-, _, _, hcase⟩ | ⟨_, _, _, -, hcase⟩ |
        ⟨_, _, _, hsent, hcase⟩ <;> rw [hcase] at ht <;> cases ht
      exact hs.next hsent _
    · intro s hs
      refine ⟨_, hs.trace fun hlt => ?_⟩
      have hbudget := hs.budget
      omega
    · exact ⟨Nat.zero_add _, rfl, rfl, by simp [begin], by simp [begin], by simp [begin]⟩

end GatewayRun

end GpuSidecar.Routing
