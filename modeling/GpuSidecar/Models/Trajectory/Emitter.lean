import GpuSidecar.Core.Pool.Ledger
import GpuSidecar.Core.Run.Guarded

/-!
# The trajectory emitter

The embedding of `internal/trajectory/emitter.go`. Calls of `Emit` send to a bounded
channel and never wait for long, and one loop receives events, collects them in a batch
and ships it. The step function performs one atomic step of one call or of the loop.
Events are named by the call of `Emit` that brings them. The HTTP request of an attempt
is its outcome, and the local fallback file is left out.
-/

namespace GpuSidecar.Trajectory

/-- The fields of `Config` that decide what happens to an event. -/
structure EmitterConfig where
  enabled : Bool
  batchSize : ℤ
  queueCapacity : ℤ
  source : String
  deriving DecidableEq, Repr

def defaultConfig : EmitterConfig where
  enabled := true
  batchSize := 128
  queueCapacity := 10000
  source := ""

/-- The fields of an event that the emitter reads; the zero time is zero. -/
structure Event where
  kind : String
  source : String
  wall : ℤ
  deriving DecidableEq, Repr

/-- The kinds of events that get a second chance. -/
def terminalKinds : List String :=
  ["REQUEST_COMPLETED", "PARTIAL_STREAM_FAILED", "ROUTE_ATTEMPT_FAILED", "CLIENT_CANCELLED",
    "STREAM_COMPLETED", "QUEUE_REJECTED", "QUEUE_TIMED_OUT", "VLLM_REQUEST_FAILED",
    "UPSTREAM_CANCELLED"]

/-- The position of a call of `Emit`. -/
inductive EmitPhase where
  /-- At the send that does not block. -/
  | sending
  /-- The channel was full, and a terminal event waits for room or for its timer. -/
  | waiting
  /-- The event is given up and not yet counted. -/
  | dropping
  /-- Returned, with the event in the channel. -/
  | accepted
  /-- Returned, with the event counted as dropped. -/
  | dropped
  /-- Returned at once from an emitter that is not enabled. -/
  | ignored
  deriving DecidableEq, Repr

/-- A call of `Emit` with its completed event. -/
structure EmitCall where
  event : Event
  phase : EmitPhase
  deriving DecidableEq, Repr

/-- The call has returned. -/
def EmitCall.returned (c : EmitCall) : Bool :=
  decide (c.phase = .accepted ∨ c.phase = .dropped ∨ c.phase = .ignored)

/-- Where the loop waits for its next event. -/
inductive Stage where
  /-- The select over stop, channel and ticker. -/
  | selecting
  /-- The drain after stop. -/
  | draining
  /-- The loop has returned. -/
  | exited
  deriving DecidableEq, Repr

/-- The position of the loop: waiting, or in `ship` with the attempts that are left and the
place to go on afterwards. -/
inductive LoopState where
  | idle (stage : Stage)
  | shipping (retried : Bool) (after : Stage)
  deriving DecidableEq, Repr

/-- The emitter with its calls and its loop. -/
structure Emitter where
  cfg : EmitterConfig
  /-- Every call of `Emit`, in the order in which they began. -/
  calls : List EmitCall
  /-- The events in the channel, oldest first. -/
  channel : List ℕ
  stopped : Bool
  loop : LoopState
  batch : List ℕ
  dropped : ℕ
  sent : ℕ
  failed : ℕ
  deriving DecidableEq, Repr

/-- A new emitter after `Start`. -/
def newEmitter (cfg : EmitterConfig) : Emitter where
  cfg :=
    { cfg with
      batchSize := if cfg.batchSize ≤ 0 then 128 else cfg.batchSize
      queueCapacity := if cfg.queueCapacity ≤ 0 then 10000 else cfg.queueCapacity }
  calls := []
  channel := []
  stopped := false
  loop := .idle (if cfg.enabled then .selecting else .exited)
  batch := []
  dropped := 0
  sent := 0
  failed := 0

/-- The steps of a call of `Emit`. -/
inductive CallStep where
  /-- The first select. -/
  | send
  /-- The second select finds room. -/
  | resend
  /-- The timer of the second select fires. -/
  | expire
  | drop
  deriving DecidableEq, Repr

/-- The steps of the loop. -/
inductive LoopStep where
  | receive
  | tick
  | noticeStop
  /-- The drain finds the channel empty. -/
  | drained
  /-- One attempt of `ship`, and whether the collector accepted the batch. -/
  | attempt (accepted : Bool)
  deriving DecidableEq, Repr

/-- One atomic step. -/
inductive EmitterAction where
  | emit (ev : Event) (now : ℤ)
  | call (i : ℕ) (step : CallStep)
  | stop
  | loop (step : LoopStep)
  deriving DecidableEq, Repr

namespace Emitter

/-- The event with its defaults filled in. -/
def complete (e : Emitter) (ev : Event) (now : ℤ) : Event :=
  { ev with
    source := if ev.source = "" then e.cfg.source else ev.source
    wall := if ev.wall = 0 then now else ev.wall }

/-- The channel can take one more event. -/
def HasRoom (e : Emitter) : Prop := (e.channel.length : ℤ) < e.cfg.queueCapacity

instance (e : Emitter) : Decidable e.HasRoom := inferInstanceAs (Decidable (_ < _))

/-- The call `i` moves to another phase. -/
def move (e : Emitter) (i : ℕ) (c : EmitCall) (phase : EmitPhase) : Emitter :=
  { e with calls := e.calls.set i { c with phase := phase } }

/-- The channel takes the event of the call `i`. -/
def accept (e : Emitter) (i : ℕ) (c : EmitCall) : Emitter :=
  { e.move i c .accepted with channel := e.channel ++ [i] }

/-- One step of the call `i`. -/
def callStep (e : Emitter) (i : ℕ) (c : EmitCall) : CallStep → Option Emitter
  | .send =>
    if c.phase = .sending then
      if e.HasRoom then some (e.accept i c)
      else if c.event.kind ∈ terminalKinds then some (e.move i c .waiting)
      else some (e.move i c .dropping)
    else none
  | .resend => if c.phase = .waiting ∧ e.HasRoom then some (e.accept i c) else none
  | .expire => if c.phase = .waiting then some (e.move i c .dropping) else none
  | .drop =>
    if c.phase = .dropping then
      some { e.move i c .dropped with dropped := e.dropped + 1 }
    else none

/-- Ships the batch unless it is empty, and goes on at a stage. -/
def flush (e : Emitter) (after : Stage) : Emitter :=
  { e with loop := if e.batch = [] then .idle after else .shipping false after }

/-- Takes an event into the batch, and flushes a full one. -/
def collect (e : Emitter) (i : ℕ) (channel : List ℕ) (after : Stage) : Emitter :=
  let e := { e with channel := channel, batch := e.batch ++ [i] }
  if e.cfg.batchSize ≤ e.batch.length then e.flush after else { e with loop := .idle after }

/-- One step of the loop. -/
def loopStep (e : Emitter) : LoopStep → Option Emitter
  | .receive =>
    match e.loop, e.channel with
    | .idle .selecting, i :: channel => some (e.collect i channel .selecting)
    | .idle .draining, i :: channel => some (e.collect i channel .draining)
    | _, _ => none
  | .tick => if e.loop = .idle .selecting then some (e.flush .selecting) else none
  | .noticeStop =>
    if e.loop = .idle .selecting ∧ e.stopped = true then some { e with loop := .idle .draining }
    else none
  | .drained =>
    if e.loop = .idle .draining ∧ e.channel = [] then some (e.flush .exited) else none
  | .attempt accepted =>
    match e.loop with
    | .idle _ => none
    | .shipping retried after =>
      if accepted then
        some { e with sent := e.sent + e.batch.length, batch := [], loop := .idle after }
      else if !retried then some { e with loop := .shipping true after }
      else some { e with failed := e.failed + e.batch.length, batch := [], loop := .idle after }

def step (e : Emitter) : EmitterAction → Option Emitter
  | .emit ev now =>
    some { e with
      calls := e.calls ++
        [if e.cfg.enabled then ⟨e.complete ev now, .sending⟩ else ⟨ev, .ignored⟩] }
  | .call i a =>
    match e.calls[i]? with
    | none => none
    | some c => e.callStep i c a
  | .stop => if e.cfg.enabled ∧ e.stopped = false then some { e with stopped := true } else none
  | .loop a => e.loopStep a

/-- The call whose event an action puts into the channel. -/
def accepts (e : Emitter) : EmitterAction → List ℕ
  | .call i .send => if e.HasRoom then [i] else []
  | .call i .resend => [i]
  | _ => []

/-- The batch that an action hands to `ship`. -/
def ships (e : Emitter) : EmitterAction → List (List ℕ)
  | .loop .receive =>
    match e.channel with
    | [] => []
    | i :: _ =>
      if e.cfg.batchSize ≤ ((e.batch ++ [i]).length : ℤ) then [e.batch ++ [i]] else []
  | .loop .tick | .loop .drained => if e.batch = [] then [] else [e.batch]
  | _ => []

/-! ### What one step can do -/

/-- What a step of a call can do: the channel takes its event, it is counted as dropped, or
it moves on. -/
theorem callStep_cases {e t : Emitter} {i : ℕ} {c : EmitCall} {a : CallStep}
    (h : e.callStep i c a = some t) :
    c.returned = false ∧
      ((e.accepts (.call i a) = [i] ∧ t = e.accept i c) ∨
        (e.accepts (.call i a) = [] ∧
          (t = { e.move i c .dropped with dropped := e.dropped + 1 } ∨
            t = e.move i c .waiting ∨ t = e.move i c .dropping))) := by
  cases a with
  | send =>
    simp only [callStep, Option.ite_none_right_eq_some] at h
    obtain ⟨hphase, h⟩ := h
    refine ⟨by simp [EmitCall.returned, hphase], ?_⟩
    split_ifs at h with hroom hterminal
    · exact Or.inl ⟨by simp [accepts, hroom], (Option.some.inj h).symm⟩
    · exact Or.inr ⟨by simp [accepts, hroom], Or.inr (Or.inl (Option.some.inj h).symm)⟩
    · exact Or.inr ⟨by simp [accepts, hroom], Or.inr (Or.inr (Option.some.inj h).symm)⟩
  | resend =>
    simp only [callStep, Option.ite_none_right_eq_some, Option.some.injEq] at h
    obtain ⟨⟨hphase, -⟩, rfl⟩ := h
    exact ⟨by simp [EmitCall.returned, hphase], Or.inl ⟨rfl, rfl⟩⟩
  | expire =>
    simp only [callStep, Option.ite_none_right_eq_some, Option.some.injEq] at h
    obtain ⟨hphase, rfl⟩ := h
    exact ⟨by simp [EmitCall.returned, hphase], Or.inr ⟨rfl, Or.inr (Or.inr rfl)⟩⟩
  | drop =>
    simp only [callStep, Option.ite_none_right_eq_some, Option.some.injEq] at h
    obtain ⟨hphase, rfl⟩ := h
    exact ⟨by simp [EmitCall.returned, hphase], Or.inr ⟨rfl, Or.inl rfl⟩⟩

/-- What a step of the loop can do: take an event into the batch, flush, notice the stop, or
make an attempt, of which the last one empties the batch and counts it. -/
theorem loopStep_cases {e t : Emitter} {a : LoopStep} (h : e.loopStep a = some t) :
    (∃ stage i channel, a = .receive ∧ e.loop = .idle stage ∧ e.channel = i :: channel ∧
      t = e.collect i channel stage) ∨
    (∃ stage after, (a = .tick ∨ a = .drained) ∧ e.loop = .idle stage ∧ t = e.flush after) ∨
    (∃ stage, a = .noticeStop ∧ e.loop = .idle stage ∧ t = { e with loop := .idle .draining }) ∨
    (∃ ok retried after, a = .attempt ok ∧ e.loop = .shipping retried after ∧
      (t = { e with loop := .shipping true after } ∨
        t = { e with sent := e.sent + e.batch.length, batch := [], loop := .idle after } ∨
        t = { e with failed := e.failed + e.batch.length, batch := [], loop := .idle after })) := by
  cases a with
  | receive =>
    left
    simp only [loopStep] at h
    split at h
    · rename_i i channel hloop hchannel
      exact ⟨.selecting, i, channel, rfl, hloop, hchannel, (Option.some.inj h).symm⟩
    · rename_i i channel hloop hchannel
      exact ⟨.draining, i, channel, rfl, hloop, hchannel, (Option.some.inj h).symm⟩
    · cases h
  | tick =>
    right; left
    simp only [loopStep, Option.ite_none_right_eq_some, Option.some.injEq] at h
    exact ⟨.selecting, .selecting, Or.inl rfl, h.1, h.2.symm⟩
  | noticeStop =>
    right; right; left
    simp only [loopStep, Option.ite_none_right_eq_some, Option.some.injEq] at h
    exact ⟨.selecting, rfl, h.1.1, h.2.symm⟩
  | drained =>
    right; left
    simp only [loopStep, Option.ite_none_right_eq_some, Option.some.injEq] at h
    exact ⟨.draining, .exited, Or.inr rfl, h.1.1, h.2.symm⟩
  | attempt ok =>
    right; right; right
    cases hloop : e.loop with
    | idle stage => simp [loopStep, hloop] at h
    | shipping retried after =>
      refine ⟨ok, retried, after, rfl, rfl, ?_⟩
      simp only [loopStep, hloop] at h
      split_ifs at h
      · exact Or.inr (Or.inl (Option.some.inj h).symm)
      · exact Or.inl (Option.some.inj h).symm
      · exact Or.inr (Or.inr (Option.some.inj h).symm)

/-- The loop touches neither the calls nor the configuration. -/
theorem loopStep_frame {e t : Emitter} {a : LoopStep} (h : e.loopStep a = some t) :
    t.calls = e.calls ∧ t.cfg = e.cfg := by
  rcases loopStep_cases h with ⟨stage, i, channel, -, -, -, rfl⟩ | ⟨stage, after, -, -, rfl⟩ |
    ⟨stage, -, -, rfl⟩ | ⟨ok, retried, after, -, -, hend⟩
  · simp only [collect]
    split <;> exact ⟨rfl, rfl⟩
  · exact ⟨rfl, rfl⟩
  · exact ⟨rfl, rfl⟩
  · rcases hend with rfl | rfl | rfl <;> exact ⟨rfl, rfl⟩

end Emitter

end GpuSidecar.Trajectory
