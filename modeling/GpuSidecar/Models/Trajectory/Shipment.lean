import GpuSidecar.Models.Trajectory.Emitter
import Mathlib.Data.List.Nodup

/-!
# Conservation of trajectory events

Every event that a call of `Emit` brings is dropped, or it passes through the channel, the
batch and one call of `ship`, in the order in which the channel accepted it. A run
shows the calls whose events the channel accepts and the batches that it hands to
`ship`; what was shipped, then what the loop is collecting, then what is still in the
channel, is the list of the accepted events.
-/

namespace GpuSidecar.Trajectory

open Run Pool

/-- What becomes of the event of a call. -/
inductive Fate where
  | accepted
  | dropped
  deriving DecidableEq, Repr

/-- What a call contributes to the counts of the two fates. -/
def EmitCall.share : Fate → EmitCall → ℕ
  | .accepted, c => if c.phase = .accepted then 1 else 0
  | .dropped, c => if c.phase = .dropped then 1 else 0

namespace Emitter

/-- The events that the loop has received and not yet handed to `ship`. -/
def collecting (e : Emitter) : List ℕ :=
  match e.loop with
  | .idle _ => e.batch
  | .shipping _ _ => []

/-- How many events have met each fate: those accepted are sent, failed, in the batch or in
the channel. -/
def count (e : Emitter) : Fate → ℤ
  | .accepted => e.sent + e.failed + e.batch.length + e.channel.length
  | .dropped => e.dropped

/-- The counts are the sums over the calls. -/
def Counted (e : Emitter) : Prop := Balanced e.count EmitCall.share e.calls

/-- A call that has not returned is in neither count. -/
theorem share_of_not_returned {c : EmitCall} (h : c.returned = false) (fate : Fate) :
    c.share fate = 0 := by
  cases hphase : c.phase <;> cases fate <;> simp [EmitCall.returned, EmitCall.share, hphase] at h ⊢

/-- A call that had not returned moves on, and the counts follow its share. -/
theorem Counted.move {e t : Emitter} {i : ℕ} {c : EmitCall} (he : e.Counted)
    (phase : EmitPhase) (hc : e.calls[i]? = some c) (hreturned : c.returned = false)
    (hcalls : t.calls = (e.move i c phase).calls)
    (hcount : ∀ fate, t.count fate = e.count fate + EmitCall.share fate { c with phase := phase }) :
    t.Counted := by
  rw [Counted, hcalls]
  refine Balanced.set he hc fun fate => ?_
  rw [share_of_not_returned hreturned, Nat.cast_zero, add_zero, hcount]

/-- Every step keeps the counts. -/
theorem Counted.step {e t : Emitter} {a : EmitterAction} (he : e.Counted)
    (h : e.step a = some t) : t.Counted := by
  cases a with
  | emit ev now =>
    simp only [Emitter.step, Option.some.injEq] at h
    subst h
    refine Balanced.concat he fun fate => ?_
    cases fate <;> cases e.cfg.enabled <;> simp [count, EmitCall.share]
  | call i b =>
    cases hc : e.calls[i]? with
    | none => simp [Emitter.step, hc] at h
    | some c =>
      simp only [Emitter.step, hc] at h
      obtain ⟨hreturned, hcases⟩ := callStep_cases h
      rcases hcases with ⟨-, rfl⟩ | ⟨-, rfl | rfl | rfl⟩
      · refine he.move .accepted hc hreturned rfl fun fate => ?_
        cases fate with
        | accepted =>
          simp only [count, accept, Emitter.move, EmitCall.share, List.length_append,
            List.length_singleton, if_true]
          omega
        | dropped => simp [count, accept, Emitter.move, EmitCall.share]
      · refine he.move .dropped hc hreturned rfl fun fate => ?_
        cases fate <;> simp [count, Emitter.move, EmitCall.share]
      · refine he.move .waiting hc hreturned rfl fun fate => ?_
        cases fate <;> simp [count, Emitter.move, EmitCall.share]
      · refine he.move .dropping hc hreturned rfl fun fate => ?_
        cases fate <;> simp [count, Emitter.move, EmitCall.share]
  | stop =>
    simp only [Emitter.step, Option.ite_none_right_eq_some, Option.some.injEq] at h
    obtain ⟨-, rfl⟩ := h
    exact he
  | loop b =>
    have hsame : ∀ fate, t.count fate = e.count fate := by
      rcases loopStep_cases h with ⟨stage, i, channel, -, -, hchannel, rfl⟩ |
        ⟨stage, after, -, -, rfl⟩ | ⟨stage, -, -, rfl⟩ | ⟨ok, retried, after, -, -, hend⟩
      · intro fate
        cases fate with
        | accepted =>
          simp only [collect]
          split <;> simp [count, flush, hchannel] <;> omega
        | dropped =>
          simp only [collect]
          split <;> rfl
      · intro fate
        cases fate <;> rfl
      · intro fate
        cases fate <;> rfl
      · intro fate
        cases fate with
        | accepted => rcases hend with rfl | rfl | rfl <;> simp [count] <;> omega
        | dropped => rcases hend with rfl | rfl | rfl <;> rfl
    intro fate
    rw [(loopStep_frame h).1, hsame]
    exact he fate

/-! ### Order -/

/-- What a step does to the order of the events and to the size of the batch. -/
structure Moves (e : Emitter) (a : EmitterAction) (t : Emitter) : Prop where
  config : t.cfg = e.cfg
  flow : (e.ships a).flatten ++ (t.collecting ++ t.channel) =
    e.collecting ++ e.channel ++ e.accepts a
  sizes : ∀ b ∈ e.ships a, 1 ≤ b.length ∧ (b.length : ℤ) ≤ e.cfg.batchSize
  room : (t.collecting.length : ℤ) < t.cfg.batchSize

/-- A step that neither ships nor accepts and keeps what is underway. -/
theorem Moves.of_same {e t : Emitter} {a : EmitterAction}
    (hroom : (e.collecting.length : ℤ) < e.cfg.batchSize) (hships : e.ships a = [])
    (haccepts : e.accepts a = []) (hcfg : t.cfg = e.cfg) (hcollecting : t.collecting = e.collecting)
    (hchannel : t.channel = e.channel) : e.Moves a t where
  config := hcfg
  flow := by rw [hships, haccepts, hcollecting, hchannel]; simp
  sizes := by simp [hships]
  room := by rwa [hcfg, hcollecting]

/-- A flush ships what the loop has collected, if anything. -/
theorem flush_moves {e : Emitter} {a : EmitterAction} {stage : Stage}
    (hroom : (e.collecting.length : ℤ) < e.cfg.batchSize) (hloop : e.loop = .idle stage)
    (hships : e.ships a = if e.batch = [] then [] else [e.batch]) (haccepts : e.accepts a = [])
    (after : Stage) : e.Moves a (e.flush after) := by
  have hcollecting : e.collecting = e.batch := by simp [collecting, hloop]
  rw [hcollecting] at hroom
  by_cases hbatch : e.batch = []
  · refine Moves.of_same (by rwa [hcollecting]) (by simp [hships, hbatch]) haccepts rfl ?_ rfl
    rw [hcollecting]
    simp [collecting, flush, hbatch]
  · have hpos : 0 < e.batch.length := List.length_pos_iff.mpr hbatch
    refine ⟨rfl, ?_, ?_, ?_⟩
    · rw [hships, haccepts, hcollecting, if_neg hbatch]
      simp [collecting, flush, hbatch]
    · rw [hships, if_neg hbatch]
      intro b hb
      rw [List.mem_singleton.mp hb]
      omega
    · simp only [collecting, flush, hbatch, if_false, List.length_nil]
      omega

/-- An event that is received goes from the front of the channel to the end of the batch. -/
theorem collect_moves {e : Emitter} {i : ℕ} {channel : List ℕ} {stage : Stage}
    (hroom : (e.collecting.length : ℤ) < e.cfg.batchSize) (hloop : e.loop = .idle stage)
    (hchannel : e.channel = i :: channel) :
    e.Moves (.loop .receive) (e.collect i channel stage) := by
  have hcollecting : e.collecting = e.batch := by simp [collecting, hloop]
  have hlength : (e.batch ++ [i]).length = e.batch.length + 1 := by simp
  rw [hcollecting] at hroom
  by_cases hfull : e.cfg.batchSize ≤ ((e.batch ++ [i]).length : ℤ)
  · have hships : e.ships (.loop .receive) = [e.batch ++ [i]] := by
      simp only [ships, hchannel, if_pos hfull]
    have hcollect : e.collect i channel stage =
        { e with
          channel := channel
          batch := e.batch ++ [i]
          loop := .shipping false stage } := by
      simp only [collect, flush, if_pos hfull]
      simp
    rw [hcollect]
    refine ⟨rfl, ?_, ?_, ?_⟩
    · rw [hships, hcollecting, hchannel]
      simp [collecting, accepts]
    · rw [hships]
      intro b hb
      rw [List.mem_singleton.mp hb]
      omega
    · simp only [collecting, List.length_nil]
      omega
  · have hships : e.ships (.loop .receive) = [] := by
      simp only [ships, hchannel, if_neg hfull]
    have hcollect : e.collect i channel stage =
        { e with
          channel := channel
          batch := e.batch ++ [i]
          loop := .idle stage } := by
      simp only [collect, if_neg hfull]
    rw [hcollect]
    refine ⟨rfl, ?_, by simp [hships], ?_⟩
    · rw [hships, hcollecting, hchannel]
      simp [collecting, accepts]
    · simp only [collecting]
      omega

/-- Every step moves events in order. -/
theorem moves {e t : Emitter} {a : EmitterAction}
    (hroom : (e.collecting.length : ℤ) < e.cfg.batchSize) (h : e.step a = some t) :
    e.Moves a t := by
  cases a with
  | emit ev now =>
    simp only [step, Option.some.injEq] at h
    subst h
    exact .of_same hroom rfl rfl rfl rfl rfl
  | call i b =>
    cases hc : e.calls[i]? with
    | none => simp [step, hc] at h
    | some c =>
      simp only [step, hc] at h
      obtain ⟨-, ⟨haccepts, rfl⟩ | ⟨haccepts, ht⟩⟩ := callStep_cases h
      · refine ⟨rfl, ?_, by simp [ships], hroom⟩
        rw [haccepts]
        simp [ships, accept, move, collecting]
      · rcases ht with rfl | rfl | rfl
        · exact .of_same hroom rfl haccepts rfl rfl rfl
        · exact .of_same hroom rfl haccepts rfl rfl rfl
        · exact .of_same hroom rfl haccepts rfl rfl rfl
  | stop =>
    simp only [step, Option.ite_none_right_eq_some, Option.some.injEq] at h
    obtain ⟨-, rfl⟩ := h
    exact .of_same hroom rfl rfl rfl rfl rfl
  | loop b =>
    rcases loopStep_cases h with ⟨stage, i, channel, rfl, hloop, hchannel, rfl⟩ |
      ⟨stage, after, hb, hloop, rfl⟩ | ⟨stage, rfl, hloop, rfl⟩ |
      ⟨ok, retried, after, rfl, hloop, hend⟩
    · exact collect_moves hroom hloop hchannel
    · rcases hb with rfl | rfl
      · exact flush_moves hroom hloop rfl rfl after
      · exact flush_moves hroom hloop rfl rfl after
    · exact .of_same hroom rfl rfl rfl (by simp [collecting, hloop]) rfl
    · rcases hend with rfl | rfl | rfl
      · exact .of_same hroom rfl rfl rfl (by simp [collecting, hloop]) rfl
      · exact .of_same hroom rfl rfl rfl (by simp [collecting, hloop]) rfl
      · exact .of_same hroom rfl rfl rfl (by simp [collecting, hloop]) rfl

/-! ### Calls whose events were accepted -/

/-- The call `i` has returned with its event in the channel. -/
def Accepted (e : Emitter) (i : ℕ) : Prop := ∃ c, e.calls[i]? = some c ∧ c.phase = .accepted

/-- What a step does to the calls: it marks those whose events the channel takes, which
were not marked before, and leaves the marked ones marked. -/
theorem accepted_step {e t : Emitter} {a : EmitterAction} (h : e.step a = some t) :
    (e.accepts a).Nodup ∧ (∀ i ∈ e.accepts a, ¬ e.Accepted i ∧ t.Accepted i) ∧
      ∀ i, e.Accepted i → t.Accepted i := by
  cases a with
  | emit ev now =>
    simp only [step, Option.some.injEq] at h
    subst h
    refine ⟨List.nodup_nil, by simp [accepts], ?_⟩
    rintro i ⟨c, hc, hphase⟩
    refine ⟨c, ?_, hphase⟩
    rw [List.getElem?_append_left (List.getElem?_eq_some_iff.mp hc).1, hc]
  | call i b =>
    cases hc : e.calls[i]? with
    | none => simp [step, hc] at h
    | some c =>
      simp only [step, hc] at h
      obtain ⟨hreturned, hcases⟩ := callStep_cases h
      have hunmarked : ¬ e.Accepted i := by
        rintro ⟨c', hc', hphase⟩
        rw [hc, Option.some.injEq] at hc'
        subst hc'
        simp [EmitCall.returned, hphase] at hreturned
      have hkeep (phase : EmitPhase) (j : ℕ) (hj : e.Accepted j) :
          (e.move i c phase).Accepted j := by
        obtain ⟨c', hc', hphase⟩ := hj
        have hne : i ≠ j := by
          rintro rfl
          exact hunmarked ⟨c', hc', hphase⟩
        exact ⟨c', by simpa [move, List.getElem?_set_ne hne] using hc', hphase⟩
      have hmark : (e.move i c .accepted).Accepted i :=
        ⟨{ c with phase := .accepted }, getElem?_set_self hc _, rfl⟩
      rcases hcases with ⟨haccepts, rfl⟩ | ⟨haccepts, ht⟩
      · rw [haccepts]
        refine ⟨List.nodup_singleton i, ?_, hkeep .accepted⟩
        intro j hj
        rw [List.mem_singleton.mp hj]
        exact ⟨hunmarked, hmark⟩
      · rw [haccepts]
        refine ⟨List.nodup_nil, by simp, ?_⟩
        rcases ht with rfl | rfl | rfl
        · exact hkeep .dropped
        · exact hkeep .waiting
        · exact hkeep .dropping
  | stop =>
    simp only [step, Option.ite_none_right_eq_some, Option.some.injEq] at h
    obtain ⟨-, rfl⟩ := h
    exact ⟨List.nodup_nil, by simp [accepts], fun _ hi => hi⟩
  | loop b =>
    have hcalls : t.calls = e.calls := (loopStep_frame h).1
    refine ⟨by simp [accepts], by simp [accepts], ?_⟩
    rintro i ⟨c, hc, hphase⟩
    exact ⟨c, by rwa [hcalls], hphase⟩

/-! ### Runs -/

/-- The calls whose events the channel accepts in a run, in order. -/
def acceptances (cfg : EmitterConfig) (as : List EmitterAction) : List ℕ :=
  observed step accepts (newEmitter cfg) as

/-- The batches that a run hands to `ship`, in order. -/
def shipments (cfg : EmitterConfig) (as : List EmitterAction) : List (List ℕ) :=
  observed step ships (newEmitter cfg) as

/-- What holds of a run and the state that it reaches. -/
structure InFlow (cfg : EmitterConfig) (as : List EmitterAction) (e : Emitter) : Prop where
  config : e.cfg = (newEmitter cfg).cfg
  counted : e.Counted
  room : (e.collecting.length : ℤ) < e.cfg.batchSize
  order : (shipments cfg as).flatten ++ (e.collecting ++ e.channel) = acceptances cfg as
  sizes : ∀ b ∈ shipments cfg as, 1 ≤ b.length ∧ (b.length : ℤ) ≤ e.cfg.batchSize
  nodup : (acceptances cfg as).Nodup
  marked : ∀ i ∈ acceptances cfg as, e.Accepted i

/-- Every run is in flow. -/
theorem inFlow {cfg : EmitterConfig} {as : List EmitterAction} {e : Emitter}
    (h : exec step (newEmitter cfg) as = some e) : InFlow cfg as e := by
  refine exec_induction (P := InFlow cfg) ?_ ?_ h
  · refine ⟨rfl, fun fate => by cases fate <;> rfl, ?_, rfl, ?_, List.nodup_nil, ?_⟩
    · simp only [newEmitter, collecting, List.length_nil]
      split <;> omega
    · simp [shipments, observed]
    · simp [acceptances, observed]
  · intro as e a t he ih ha
    have hm := moves ih.room ha
    obtain ⟨hnodup, hnew, hkeep⟩ := accepted_step ha
    have hacc : acceptances cfg (as ++ [a]) = acceptances cfg as ++ e.accepts a :=
      observed_concat accepts he ha
    have hship : shipments cfg (as ++ [a]) = shipments cfg as ++ e.ships a :=
      observed_concat ships he ha
    refine ⟨hm.config.trans ih.config, ih.counted.step ha, hm.room, ?_, ?_, ?_, ?_⟩
    · rw [hship, hacc, List.flatten_append, List.append_assoc, hm.flow, ← ih.order]
      simp only [List.append_assoc]
    · rw [hship, hm.config]
      exact List.forall_mem_append.mpr ⟨ih.sizes, hm.sizes⟩
    · rw [hacc]
      refine List.nodup_append.mpr ⟨ih.nodup, hnodup, ?_⟩
      rintro i hi j hj rfl
      exact (hnew i hj).1 (ih.marked i hi)
    · rw [hacc]
      exact List.forall_mem_append.mpr
        ⟨fun i hi => hkeep i (ih.marked i hi), fun i hi => (hnew i hi).2⟩

/-- An enabled emitter, none of whose calls was ignored. -/
def Attentive (e : Emitter) : Prop := e.cfg.enabled = true ∧ ∀ c ∈ e.calls, c.phase ≠ .ignored

/-- An enabled emitter ignores no call. -/
theorem Attentive.step {e t : Emitter} {a : EmitterAction} (he : e.Attentive)
    (h : e.step a = some t) : t.Attentive := by
  obtain ⟨henabled, hcalls⟩ := he
  cases a with
  | emit ev now =>
    simp only [Emitter.step, Option.some.injEq] at h
    subst h
    refine ⟨henabled, List.forall_mem_append.mpr ⟨hcalls, List.forall_mem_singleton.mpr ?_⟩⟩
    simp [henabled]
  | call i b =>
    cases hc : e.calls[i]? with
    | none => simp [Emitter.step, hc] at h
    | some c =>
      simp only [Emitter.step, hc] at h
      have hmove (phase : EmitPhase) (hphase : phase ≠ .ignored) :
          ∀ c' ∈ (e.move i c phase).calls, c'.phase ≠ .ignored :=
        (forall_mem_set_iff hc hcalls).mpr hphase
      obtain ⟨-, ⟨-, rfl⟩ | ⟨-, rfl | rfl | rfl⟩⟩ := callStep_cases h
      · exact ⟨henabled, hmove .accepted (by decide)⟩
      · exact ⟨henabled, hmove .dropped (by decide)⟩
      · exact ⟨henabled, hmove .waiting (by decide)⟩
      · exact ⟨henabled, hmove .dropping (by decide)⟩
  | stop =>
    simp only [Emitter.step, Option.ite_none_right_eq_some, Option.some.injEq] at h
    obtain ⟨-, rfl⟩ := h
    exact ⟨henabled, hcalls⟩
  | loop b =>
    obtain ⟨hsame, hcfg⟩ := loopStep_frame h
    exact ⟨by rw [hcfg, henabled], by rwa [hsame]⟩

/-- When all calls have returned, every event is dropped or accepted. -/
theorem Counted.length_calls {e : Emitter} (he : e.Counted) (hcalls : e.Attentive)
    (hreturned : ∀ c ∈ e.calls, c.returned = true) :
    e.calls.length = e.dropped + e.sent + e.failed + e.channel.length + e.batch.length := by
  have hsplit : total (fun _ => 1) e.calls =
      total (EmitCall.share .accepted) e.calls + total (EmitCall.share .dropped) e.calls := by
    refine total_add fun c hc => ?_
    have hphase := hreturned c hc
    have hlive := hcalls.2 c hc
    cases hp : c.phase <;> simp [EmitCall.returned, EmitCall.share, hp] at hphase hlive ⊢
  have hlength : total (fun _ => 1) e.calls = e.calls.length := by simp [total]
  have haccepted : (e.sent + e.failed + e.batch.length + e.channel.length : ℤ) =
      total (EmitCall.share .accepted) e.calls := he .accepted
  have hdropped : (e.dropped : ℤ) = total (EmitCall.share .dropped) e.calls := he .dropped
  omega

/-- What the emitter owes to the events brought by a run of calls: when all calls have
returned every event is dropped, sent, failed, in the channel or in the batch; batches
are neither empty nor too large; and the shipped batches, followed by the events still
underway, are the accepted events in the order of their acceptance, none twice. -/
structure Conserves (cfg : EmitterConfig) (as : List EmitterAction) (e : Emitter) : Prop where
  counted : (∀ c ∈ e.calls, c.returned = true) →
    e.calls.length = e.dropped + e.sent + e.failed + e.channel.length + e.batch.length
  sizes : ∀ b ∈ shipments cfg as, 1 ≤ b.length ∧ (b.length : ℤ) ≤ e.cfg.batchSize
  order : (shipments cfg as).flatten ++ (e.collecting ++ e.channel) = acceptances cfg as
  nodup : (acceptances cfg as).Nodup

/-- In every interleaving of any number of calls of `Emit` with the steps of the loop, and
for all outcomes of the attempts to ship, an enabled emitter conserves events. -/
theorem events_conserved (cfg : EmitterConfig) (henabled : cfg.enabled = true)
    (as : List EmitterAction) (e : Emitter) (h : exec step (newEmitter cfg) as = some e) :
    Conserves cfg as e := by
  have hflow := inFlow h
  have hattentive : e.Attentive :=
    exec_invariant (P := Attentive) ⟨henabled, by simp [newEmitter]⟩
      (fun _ _ _ he ha => he.step ha) h
  exact ⟨hflow.counted.length_calls hattentive, hflow.sizes, hflow.order, hflow.nodup⟩

/-- A small emitter. -/
def smallConfig : EmitterConfig := { defaultConfig with batchSize := 2, queueCapacity := 1 }

/-- Three calls meet a channel of one: the second is dropped, and the loop ships the first
and the third after the stop, at the second attempt. -/
def stoppedRun : List EmitterAction :=
  [.emit ⟨"QUEUE_ENTERED", "", 0⟩ 1, .emit ⟨"QUEUE_ENTERED", "", 0⟩ 2,
    .emit ⟨"STREAM_COMPLETED", "", 0⟩ 3, .call 0 .send, .call 1 .send, .call 2 .send,
    .call 1 .drop, .stop, .loop .receive, .call 2 .resend, .loop .noticeStop, .loop .receive,
    .loop (.attempt false), .loop (.attempt true), .loop .drained]

/-- The terminal event got its second chance and follows the first one. -/
theorem stoppedRun_conserves :
    ∃ e, exec step (newEmitter smallConfig) stoppedRun = some e ∧
      Conserves smallConfig stoppedRun e ∧ shipments smallConfig stoppedRun = [[0, 2]] ∧
        e.dropped = 1 ∧ e.sent = 2 := by
  have hend : ((exec step (newEmitter smallConfig) stoppedRun).map fun e => (e.dropped, e.sent)) =
      some (1, 2) := by decide +kernel
  obtain ⟨e, he, hcounts⟩ := Option.map_eq_some_iff.mp hend
  simp only [Prod.mk.injEq] at hcounts
  exact ⟨e, he, events_conserved smallConfig rfl stoppedRun e he, by decide +kernel, hcounts⟩

end Emitter

end GpuSidecar.Trajectory
