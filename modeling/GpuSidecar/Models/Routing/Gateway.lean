import GpuSidecar.Models.Routing.Forward
import GpuSidecar.Models.Routing.Policy

/-!
# The gateway's attempt loop

The embedding of `Gateway.ChatCompletions` in `internal/router/gateway.go`. One request is
routed, forwarded, and retried on another backend while nothing counts as sent. What
the policy decides, the registry shows, the sidecars reply and the client does in each
attempt is an argument; the emission of the candidates' scores, which reads the same
snapshot and influences nothing, is embedded apart from it.
-/

namespace GpuSidecar.Routing

open Http Hops

/-- The router's events of one request; those of an attempt carry its route. -/
inductive RouterEvent where
  | requestReceived (stream : Bool) (inputLenEst : ℤ)
  | backendSnapshotRead (nBackends : ℕ)
  | routeDecided (routeID : String) (decision : RouteDecision) (attempt : ℕ)
  | routeAttemptStarted (routeID backendID : String)
  | routeAttemptFailed (routeID backendID reason : String) (attempt : ℕ)
  | ofAttempt (routeID backendID : String) (event : AttemptEvent)
  deriving DecidableEq, Repr

/-- The environment of one request. -/
structure GatewayRun where
  reqID : String
  /-- The error of reading the client's body, if any. -/
  readErr : Option String
  features : RequestFeatures
  maxRetries : ℤ
  /-- The snapshot that each successive call of `Registry.Snapshot` returns. -/
  snapshot : ℕ → BackendSnapshot
  /-- The policy's decision in each attempt; none is an error. -/
  selectBackend : ℕ → RequestFeatures → BackendSnapshot → Option RouteDecision
  /-- The reply to each attempt on a backend. -/
  reply : ℕ → String → Reply
  /-- The client and its context during each attempt. -/
  client : ℕ → Downstream

/-- One call of `forward` as it was made. -/
structure Attempt where
  number : ℕ
  backendID : String
  /-- The index of the snapshot in use. -/
  snapshotIndex : ℕ
  /-- The backends tried so far, this one included. -/
  tried : List String
  /-- The client's writer before the call. -/
  writer : ResponseWriter
  result : Forwarded

/-- The variables of the attempt loop, and the attempts made. -/
structure AttemptLoop where
  writer : ResponseWriter
  attempt : ℕ
  snapshotIndex : ℕ
  tried : List String
  lastErr : String
  events : List RouterEvent
  attempts : List Attempt

/-- The first eligible backend that was not tried, or the empty id. -/
def pickAlternative (snap : BackendSnapshot) (tried : List String) : String :=
  match (eligible snap).find? fun b => !tried.contains b.id with
  | some b => b.id
  | none => ""

def backendByID (snap : BackendSnapshot) (id : String) : Option BackendState :=
  snap.backends.find? fun b => b.id == id

/-- Avoids a backend that was tried, if there is an alternative. -/
def avoidTried (snap : BackendSnapshot) (tried : List String) (dec : RouteDecision) :
    RouteDecision :=
  if tried.contains dec.backendID then
    let alt := pickAlternative snap tried
    if alt ≠ "" then { dec with backendID := alt, retryAlt := true } else dec
  else dec

def routeID (reqID : String) (attempt : ℕ) : String := reqID ++ ".a" ++ toString attempt

namespace GatewayRun

/-- One iteration of the attempt loop: it returns, or goes on with the next attempt. -/
def tryOnce (g : GatewayRun) (s : AttemptLoop) : Except AttemptLoop AttemptLoop :=
  let snap := g.snapshot s.snapshotIndex
  match g.selectBackend s.attempt g.features snap with
  | none => .error
    { s with
      writer := httpErr s.writer 503 "NO_ELIGIBLE_BACKEND" g.reqID "no healthy backend"
      events := s.events ++ [.routeAttemptFailed "" "" "no_eligible_backend" s.attempt] }
  | some dec =>
    let dec := avoidTried snap s.tried dec
    let tried := dec.backendID :: s.tried
    let route := routeID g.reqID s.attempt
    match backendByID snap dec.backendID with
    | none => .ok
      { s with attempt := s.attempt + 1, tried := tried, lastErr := "backend_not_in_snapshot" }
    | some bs =>
      let r := forward (g.client s.attempt) s.writer bs.id g.reqID g.features.stream
        (g.reply s.attempt bs.id)
      let events := s.events ++ [.routeDecided route dec s.attempt,
        .routeAttemptStarted route dec.backendID] ++ r.events.map (.ofAttempt route bs.id)
      let attempts := s.attempts ++ [⟨s.attempt, bs.id, s.snapshotIndex, tried, s.writer, r⟩]
      if r.sent then .error { s with writer := r.writer, events := events, attempts := attempts }
      else .ok
        { writer := r.writer
          attempt := s.attempt + 1
          snapshotIndex := s.snapshotIndex + 1
          tried := tried
          lastErr := r.retryReason
          events := events ++
            [.routeAttemptFailed route dec.backendID r.retryReason s.attempt]
          attempts := attempts }

/-- The attempt loop with a number of attempts left. -/
def tryAll (g : GatewayRun) : ℕ → AttemptLoop → AttemptLoop
  | 0, s => { s with writer := httpErr s.writer 502 "ALL_ATTEMPTS_FAILED" g.reqID s.lastErr }
  | n + 1, s =>
    match g.tryOnce s with
    | .error t => t
    | .ok t => g.tryAll n t

/-- The state before the first attempt. -/
def begin (g : GatewayRun) : AttemptLoop where
  writer := .new
  attempt := 0
  snapshotIndex := 0
  tried := []
  lastErr := ""
  events := [.requestReceived g.features.stream g.features.inputLenEst,
    .backendSnapshotRead (g.snapshot 0).backends.length]
  attempts := []

/-- The client-facing handler. -/
def chatCompletions (g : GatewayRun) : AttemptLoop :=
  match g.readErr with
  | some err =>
    { writer := httpErr .new 400 "READ_BODY" g.reqID err
      attempt := 0
      snapshotIndex := 0
      tried := []
      lastErr := ""
      events := []
      attempts := [] }
  | none => g.tryAll (g.maxRetries + 1).toNat g.begin

/-- The attempt on a backend that an iteration makes. -/
def makeAttempt (g : GatewayRun) (s : AttemptLoop) (id : String) (tried : List String) :
    Attempt where
  number := s.attempt
  backendID := id
  snapshotIndex := s.snapshotIndex
  tried := tried
  writer := s.writer
  result := forward (g.client s.attempt) s.writer id g.reqID g.features.stream
    (g.reply s.attempt id)

end GatewayRun

/-- The result of the attempt is that of `forward` on its writer. -/
def Attempt.Genuine (g : GatewayRun) (a : Attempt) : Prop :=
  a.result = forward (g.client a.number) a.writer a.backendID g.reqID g.features.stream
    (g.reply a.number a.backendID)

namespace GatewayRun

theorem makeAttempt_genuine (g : GatewayRun) (s : AttemptLoop) (id : String)
    (tried : List String) : (g.makeAttempt s id tried).Genuine g := rfl

end GatewayRun

/-- The loop variables after an attempt that was sent. -/
def AttemptLoop.delivered (s : AttemptLoop) (a : Attempt) (events : List RouterEvent) :
    AttemptLoop :=
  { s with writer := a.result.writer, events := events, attempts := s.attempts ++ [a] }

/-- The loop variables after an attempt that was not sent. -/
def AttemptLoop.retrying (s : AttemptLoop) (a : Attempt) (events : List RouterEvent) :
    AttemptLoop where
  writer := a.result.writer
  attempt := s.attempt + 1
  snapshotIndex := s.snapshotIndex + 1
  tried := a.tried
  lastErr := a.result.retryReason
  events := events
  attempts := s.attempts ++ [a]

namespace GatewayRun

/-- What one iteration can do. -/
theorem tryOnce_cases (g : GatewayRun) (s : AttemptLoop) :
    (∃ events, g.selectBackend s.attempt g.features (g.snapshot s.snapshotIndex) = none ∧
      g.tryOnce s = .error
        { s with
          writer := httpErr s.writer 503 "NO_ELIGIBLE_BACKEND" g.reqID "no healthy backend"
          events := events }) ∨
    (∃ dec tried, g.selectBackend s.attempt g.features (g.snapshot s.snapshotIndex) = some dec ∧
      backendByID (g.snapshot s.snapshotIndex)
        (avoidTried (g.snapshot s.snapshotIndex) s.tried dec).backendID = none ∧
      g.tryOnce s = .ok
        { s with
          attempt := s.attempt + 1, tried := tried, lastErr := "backend_not_in_snapshot" }) ∨
    (∃ id tried events, (g.makeAttempt s id tried).result.sent = true ∧
      g.tryOnce s = .error (s.delivered (g.makeAttempt s id tried) events)) ∨
    (∃ id tried events, (g.makeAttempt s id tried).result.sent = false ∧
      g.tryOnce s = .ok (s.retrying (g.makeAttempt s id tried) events)) := by
  cases hsel : g.selectBackend s.attempt g.features (g.snapshot s.snapshotIndex) with
  | none =>
    left
    exact ⟨_, rfl, by simp only [tryOnce, hsel]; rfl⟩
  | some dec =>
    right
    cases hb : backendByID (g.snapshot s.snapshotIndex)
        (avoidTried (g.snapshot s.snapshotIndex) s.tried dec).backendID with
    | none =>
      left
      exact ⟨dec, _, rfl, hb, by simp only [tryOnce, hsel, hb]; rfl⟩
    | some bs =>
      right
      cases hsent : (forward (g.client s.attempt) s.writer bs.id g.reqID g.features.stream
          (g.reply s.attempt bs.id)).sent with
      | true =>
        left
        exact ⟨bs.id, _, _, hsent, by simp only [tryOnce, hsel, hb, hsent]; rfl⟩
      | false =>
        right
        exact ⟨bs.id, _, _, hsent, by simp only [tryOnce, hsel, hb, hsent]; rfl⟩

/-- The rule of the attempt loop: an invariant of the iterations that are left and the
state, and a postcondition that holds wherever the loop returns. -/
theorem tryAll_rule (g : GatewayRun) {I : ℕ → AttemptLoop → Prop} {Q : AttemptLoop → Prop}
    (hreturn : ∀ n s t, I (n + 1) s → g.tryOnce s = .error t → Q t)
    (hnext : ∀ n s t, I (n + 1) s → g.tryOnce s = .ok t → I n t)
    (hend : ∀ s, I 0 s →
      Q { s with writer := httpErr s.writer 502 "ALL_ATTEMPTS_FAILED" g.reqID s.lastErr })
    (n : ℕ) {s : AttemptLoop} (h : I n s) : Q (g.tryAll n s) := by
  induction n generalizing s with
  | zero => exact hend s h
  | succ n ih =>
    rw [tryAll]
    cases ht : g.tryOnce s with
    | error t => exact hreturn n s t h ht
    | ok t => exact ih (hnext n s t h ht)

end GatewayRun

/-! ### Decisions for eligible backends -/

theorem pickAlternative_mem {snap : BackendSnapshot} {tried : List String}
    (h : pickAlternative snap tried ≠ "") :
    ∃ b ∈ eligible snap, b.id = pickAlternative snap tried := by
  rw [pickAlternative] at h ⊢
  cases hfind : (eligible snap).find? fun b => !tried.contains b.id with
  | none =>
    rw [hfind] at h
    exact absurd rfl h
  | some b => exact ⟨b, List.mem_of_find?_eq_some hfind, rfl⟩

/-- Avoiding the tried backends keeps a decision among the eligible ones. -/
theorem avoidTried_mem {snap : BackendSnapshot} {dec : RouteDecision}
    (h : ∃ b ∈ eligible snap, b.id = dec.backendID) (tried : List String) :
    ∃ b ∈ eligible snap, b.id = (avoidTried snap tried dec).backendID := by
  by_cases htried : tried.contains dec.backendID = true
  · by_cases halt : pickAlternative snap tried = ""
    · have hkept : avoidTried snap tried dec = dec := by
        simp only [avoidTried, if_pos htried, halt, ne_eq, not_true_eq_false, if_false]
      rwa [hkept]
    · have hmoved : (avoidTried snap tried dec).backendID = pickAlternative snap tried := by
        simp only [avoidTried, if_pos htried, ne_eq, halt, not_false_eq_true, if_true]
      rw [hmoved]
      exact pickAlternative_mem halt
  · have hkept : avoidTried snap tried dec = dec := by
      simp only [avoidTried, if_neg htried]
    rwa [hkept]

/-- An eligible backend is found by its id. -/
theorem backendByID_ne_none {snap : BackendSnapshot} {id : String}
    (h : ∃ b ∈ eligible snap, b.id = id) : backendByID snap id ≠ none := by
  obtain ⟨b, hb, rfl⟩ := h
  intro hnone
  have hmem : b ∈ snap.backends := (List.mem_filter.mp hb).1
  have hother := List.find?_eq_none.mp hnone b hmem
  simp at hother

end GpuSidecar.Routing
