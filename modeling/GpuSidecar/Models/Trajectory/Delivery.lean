import GpuSidecar.Core.List.Count
import GpuSidecar.Core.List.Reorder
import GpuSidecar.Models.Trajectory.Shipment
import Mathlib.Algebra.GroupWithZero.Nat
import Mathlib.Logic.Function.Basic

/-!
# Delivery of trajectory events

Router and sidecars each have an emitter, and one collector (`cmd/trajcollector/main.go`)
appends what they post to a file. An attempt of `ship` posts a request and waits for its
reply. Requests can be lost, and they can be served late: an attempt that has timed out
leaves its request on the way. So a batch that was counted as sent is in the file, but one
that was counted as failed may be there too, and a batch may be there twice. The fallback
file of an emitter takes the batches that failed until what was appended has grown past a
limit. Both files are written without a look at the errors, so a line can be lost in the
write. Events are taken to be such that they can be encoded.
-/

namespace GpuSidecar.Trajectory

open Run Counting

/-- The events of `ship` that the loop has in hand, as a list of at most one batch. -/
def Emitter.current (e : Emitter) : List (List ℕ) :=
  match e.loop with
  | .idle _ => []
  | .shipping _ _ => [e.batch]

/-- Whether the attempt that the loop is in is the retry. -/
def Emitter.attempting (e : Emitter) : Option Bool :=
  match e.loop with
  | .idle _ => none
  | .shipping retried _ => some retried

/-- A request on its way to the collector: the batch of a call of `ship` of an emitter, which
counts these calls, at the first attempt or at the retry. -/
structure Request (κ : Type*) where
  source : κ
  index : ℕ
  retried : Bool
  batch : List ℕ

/-- What tells a request from all others. -/
def Request.tag {κ : Type*} (r : Request κ) : κ × ℕ × Bool := (r.source, r.index, r.retried)

/-- What was appended to the local file for the batches that failed: the number of bytes, the
events, and those whose write failed. -/
structure Fallback where
  fbBytes : ℕ
  written : List ℕ
  unwritten : List ℕ

def maxFallback : ℕ := 64 * 1024 * 1024

/-- The bytes that the write of a line takes; one that fails does so after a number of bytes. -/
def writtenBytes (lineBytes : ℕ → ℕ) (cut : ℕ → Option ℕ) (i : ℕ) : ℕ :=
  match cut i with
  | none => lineBytes i
  | some n => min n (lineBytes i)

/-- Appends a batch line by line, unless what was appended has grown past the limit. The errors
of the writes are dropped. -/
def Fallback.writeFallback (lineBytes : ℕ → ℕ) (cut : ℕ → Option ℕ) (fb : Fallback)
    (batch : List ℕ) : Fallback :=
  if maxFallback < fb.fbBytes then fb
  else
    { fbBytes := fb.fbBytes + (batch.map (writtenBytes lineBytes cut)).sum
      written := fb.written ++ batch.filter fun i => !(cut i).isSome
      unwritten := fb.unwritten ++ batch.filter fun i => (cut i).isSome }

/-- The largest body that the collector reads. -/
def maxBody : ℕ := 16 * 1024 * 1024

/-- The sizes of the encodings. -/
structure Sizes (κ : Type*) where
  /-- The body of a request with a batch. -/
  body : κ → List ℕ → ℕ
  /-- The line of an event. -/
  line : κ → ℕ → ℕ

/-- The emitters, the requests underway, and the collector. -/
structure DeliverySystem (κ : Type*) where
  emitters : κ → Emitter
  /-- The attempt that the emitter is in has posted its request. -/
  posted : κ → Bool
  /-- The calls of `ship` that have returned: their batches, and whether they were counted as
  sent. -/
  ended : κ → List (List ℕ × Bool)
  /-- The fallback file of an emitter that has one. -/
  fallback : κ → Option Fallback
  wire : List (Request κ)
  /-- The requests that the collector has served, in order. -/
  served : List (Request κ)
  /-- The lines of the collector's file. -/
  file : List (κ × ℕ)
  /-- The lines whose write to it failed. -/
  unwritten : List (κ × ℕ)
  received : ℕ

inductive DeliveryAction (κ : Type*) where
  /-- A step of an emitter other than the end of an attempt. -/
  | emitter (k : κ) (a : EmitterAction)
  /-- The request of an attempt goes out. -/
  | post (k : κ)
  /-- The collector takes a request; the writes of some of its lines may fail. -/
  | serve (i : ℕ) (fails : ℕ → Bool)
  | lose (i : ℕ)
  /-- An attempt ends, with a reply that accepts the batch or without one. Writes to the fallback
  file may be cut off. -/
  | answer (k : κ) (accepted : Bool) (cut : ℕ → Option ℕ)

def EmitterAction.isAttempt : EmitterAction → Bool
  | .loop (.attempt _) => true
  | _ => false

namespace DeliverySystem

variable {κ : Type*} [DecidableEq κ]

/-- The collector's handler on a posted batch. A body over the limit is cut off and cannot be
decoded. Lines are counted and the batch is acknowledged whether or not they could be
written. -/
def handle (z : Sizes κ) (s : DeliverySystem κ) (r : Request κ) (fails : ℕ → Bool) :
    DeliverySystem κ :=
  if maxBody < z.body r.source r.batch then s
  else
    { s with
      served := s.served ++ [r]
      file := s.file ++ (r.batch.filter fun i => !fails i).map fun i => (r.source, i)
      unwritten := s.unwritten ++ (r.batch.filter fails).map fun i => (r.source, i)
      received := s.received + r.batch.length }

/-- The end of an attempt, after which the emitter is `e`. A success or a failed retry ends the
call of `ship`, and the latter hands the batch to the fallback file. -/
def answered (z : Sizes κ) (s : DeliverySystem κ) (k : κ) (accepted retried : Bool)
    (cut : ℕ → Option ℕ) (e : Emitter) : DeliverySystem κ :=
  { s with
    emitters := Function.update s.emitters k e
    posted := Function.update s.posted k false
    ended := if accepted || retried then
        Function.update s.ended k (s.ended k ++ [((s.emitters k).batch, accepted)])
      else s.ended
    fallback := if !accepted && retried then
        Function.update s.fallback k ((s.fallback k).map fun fb =>
          fb.writeFallback (z.line k) cut (s.emitters k).batch)
      else s.fallback }

def step (z : Sizes κ) (s : DeliverySystem κ) : DeliveryAction κ → Option (DeliverySystem κ)
  | .emitter k a =>
    if a.isAttempt then none
    else ((s.emitters k).step a).map fun e =>
      { s with emitters := Function.update s.emitters k e }
  | .post k =>
    match (s.emitters k).loop, s.posted k with
    | .shipping retried _, false => some
      { s with
        posted := Function.update s.posted k true
        wire := s.wire ++ [⟨k, (s.ended k).length, retried, (s.emitters k).batch⟩] }
    | _, _ => none
  | .serve i fails =>
    match s.wire[i]? with
    | none => none
    | some r => some (({ s with wire := s.wire.eraseIdx i } : DeliverySystem κ).handle z r fails)
  | .lose i => some { s with wire := s.wire.eraseIdx i }
  | .answer k accepted cut =>
    match (s.emitters k).loop, s.posted k with
    | .shipping retried _, true =>
      -- only a request that was served is answered with success
      if accepted ∧ (k, (s.ended k).length, retried) ∉ s.served.map Request.tag then none
      else ((s.emitters k).step (.loop (.attempt accepted))).map
        (s.answered z k accepted retried cut)
    | _, _ => none

/-- New emitters, of which some have a fallback file, and an empty file of the collector. -/
def init (cfg : κ → EmitterConfig) (hasFallback : κ → Bool) : DeliverySystem κ where
  emitters := fun k => newEmitter (cfg k)
  posted := fun _ => false
  ended := fun _ => []
  fallback := fun k => if hasFallback k then some ⟨0, [], []⟩ else none
  wire := []
  served := []
  file := []
  unwritten := []
  received := 0

end DeliverySystem

/-! ### The emitter's steps around an attempt -/

namespace Emitter

theorem current_of_attempting {e : Emitter} {retried : Bool} (h : e.attempting = some retried) :
    e.current = [e.batch] := by
  cases hloop : e.loop <;> simp [attempting, current, hloop] at h ⊢

/-- Between the ends of attempts, a batch that is handed to `ship` becomes the current one, and
an attempt goes on. -/
theorem current_step {e t : Emitter} {a : EmitterAction} (ha : a.isAttempt = false)
    (h : e.step a = some t) :
    t.current = e.current ++ e.ships a ∧
      (∀ retried, e.attempting = some retried → t.attempting = some retried) := by
  cases a with
  | emit ev now =>
    simp only [step, Option.some.injEq] at h
    subst h
    exact ⟨(List.append_nil _).symm, fun _ hr => hr⟩
  | call i b =>
    cases hc : e.calls[i]? with
    | none => simp [step, hc] at h
    | some c =>
      simp only [step, hc] at h
      obtain ⟨-, ⟨-, rfl⟩ | ⟨-, rfl | rfl | rfl⟩⟩ := callStep_cases h
      · exact ⟨(List.append_nil _).symm, fun _ hr => hr⟩
      · exact ⟨(List.append_nil _).symm, fun _ hr => hr⟩
      · exact ⟨(List.append_nil _).symm, fun _ hr => hr⟩
      · exact ⟨(List.append_nil _).symm, fun _ hr => hr⟩
  | stop =>
    simp only [step, Option.ite_none_right_eq_some, Option.some.injEq] at h
    obtain ⟨-, rfl⟩ := h
    exact ⟨(List.append_nil _).symm, fun _ hr => hr⟩
  | loop b =>
    rcases loopStep_cases h with ⟨stage, i, channel, rfl, hloop, hchannel, rfl⟩ |
      ⟨stage, after, hb, hloop, rfl⟩ | ⟨stage, rfl, hloop, rfl⟩ | ⟨_, _, _, rfl, -, -⟩
    · refine ⟨?_, fun retried hr => by simp [attempting, hloop] at hr⟩
      by_cases hfull : e.cfg.batchSize ≤ ((e.batch ++ [i]).length : ℤ)
      · simp only [collect, ships, hchannel, if_pos hfull]
        simp [flush, current, hloop]
      · simp only [collect, ships, hchannel, if_neg hfull]
        simp [current, hloop]
    · refine ⟨?_, fun retried hr => by simp [attempting, hloop] at hr⟩
      have hships : e.ships (.loop b) = if e.batch = [] then [] else [e.batch] := by
        rcases hb with rfl | rfl <;> rfl
      rw [hships]
      by_cases hempty : e.batch = []
      · simp [flush, current, hloop, hempty]
      · simp [flush, current, hloop, hempty]
    · exact ⟨by simp [current, ships, hloop], fun retried hr => by simp [attempting, hloop] at hr⟩
    · cases ha

/-- Only the ends of attempts are counted. -/
theorem step_counters {e t : Emitter} {a : EmitterAction} (ha : a.isAttempt = false)
    (h : e.step a = some t) : t.sent = e.sent ∧ t.failed = e.failed := by
  cases a with
  | emit ev now =>
    cases h
    exact ⟨rfl, rfl⟩
  | call i b =>
    cases hc : e.calls[i]? with
    | none => simp [step, hc] at h
    | some c =>
      simp only [step, hc] at h
      obtain ⟨-, ⟨-, rfl⟩ | ⟨-, rfl | rfl | rfl⟩⟩ := callStep_cases h
      · exact ⟨rfl, rfl⟩
      · exact ⟨rfl, rfl⟩
      · exact ⟨rfl, rfl⟩
      · exact ⟨rfl, rfl⟩
  | stop =>
    simp only [step, Option.ite_none_right_eq_some, Option.some.injEq] at h
    obtain ⟨-, rfl⟩ := h
    exact ⟨rfl, rfl⟩
  | loop b =>
    rcases loopStep_cases h with ⟨stage, i, channel, -, -, -, rfl⟩ | ⟨stage, after, -, -, rfl⟩ |
      ⟨stage, -, -, rfl⟩ | ⟨_, _, _, rfl, -, -⟩
    · simp only [collect]
      split <;> exact ⟨rfl, rfl⟩
    · exact ⟨rfl, rfl⟩
    · exact ⟨rfl, rfl⟩
    · cases ha

/-- What the end of an attempt does: after a success or a retry the call of `ship` returns,
and otherwise the retry begins. -/
theorem attempt_step {e t : Emitter} {ok retried : Bool} (hr : e.attempting = some retried)
    (h : e.step (.loop (.attempt ok)) = some t) :
    t.sent = e.sent + (if ok then e.batch.length else 0) ∧
      t.failed = e.failed + (if !ok && retried then e.batch.length else 0) ∧
      (if ok || retried then t.attempting = none ∧ t.current = []
      else t.attempting = some true ∧ t.current = e.current) := by
  cases hloop : e.loop with
  | idle stage => simp [attempting, hloop] at hr
  | shipping retried' after =>
    simp only [attempting, hloop, Option.some.injEq] at hr
    subst hr
    simp only [step, loopStep, hloop] at h
    cases ok <;> cases retried' <;>
      simp only [Bool.false_eq_true, Bool.not_false, Bool.not_true, if_true, if_false,
        Option.some.injEq] at h <;> subst h <;> simp [attempting, current, hloop]

end Emitter

/-! ### Requests -/

namespace DeliverySystem

variable {κ : Type*}

/-- The batches that an emitter has handed to `ship`. -/
def handed (s : DeliverySystem κ) (k : κ) : List (List ℕ) :=
  (s.ended k).map Prod.fst ++ (s.emitters k).current

/-- The batches of an emitter that were counted as failed. -/
def failedBatches (s : DeliverySystem κ) (k : κ) : List (List ℕ) :=
  ((s.ended k).filter fun b => !b.2).map Prod.fst

/-- The requests that were made, and what they say about the emitters. -/
structure Traced (s : DeliverySystem κ) : Prop where
  tags : ((s.served ++ s.wire).map Request.tag).Nodup
  batches : ∀ r ∈ s.served ++ s.wire, (s.handed r.source)[r.index]? = some r.batch
  /-- A request for the current batch is one of this attempt, or of the one before. -/
  tries : ∀ r ∈ s.served ++ s.wire, r.index = (s.ended r.source).length →
    ∃ retried, (s.emitters r.source).attempting = some retried ∧
      (r.retried = retried → s.posted r.source = true) ∧ (r.retried = true → retried = true)
  acknowledged : ∀ k n b, (s.ended k)[n]? = some (b, true) →
    ∃ r ∈ s.served, r.source = k ∧ r.index = n

/-- Fewer requests are fewer obligations. -/
theorem Traced.of_subset {s t : DeliverySystem κ} (h : s.Traced)
    (htags : ((t.served ++ t.wire).map Request.tag).Nodup)
    (hsub : ∀ r ∈ t.served ++ t.wire, r ∈ s.served ++ s.wire)
    (hserved : ∀ r ∈ s.served, r ∈ t.served) (hemitters : t.emitters = s.emitters)
    (hposted : t.posted = s.posted) (hended : t.ended = s.ended) : t.Traced := by
  refine ⟨htags, fun r hr => ?_, fun r hr hindex => ?_, fun k n b hb => ?_⟩
  · rw [handed, hended, hemitters]
    exact h.batches r (hsub r hr)
  · rw [hended] at hindex
    rw [hemitters, hposted]
    exact h.tries r (hsub r hr) hindex
  · rw [hended] at hb
    obtain ⟨r, hr, hk, hn⟩ := h.acknowledged k n b hb
    exact ⟨r, hserved r hr, hk, hn⟩

variable [DecidableEq κ] {z : Sizes κ} {s t : DeliverySystem κ} {a : DeliveryAction κ}

/-- What one step of the system can do. -/
theorem step_cases (h : s.step z a = some t) :
    (∃ k b e, a = .emitter k b ∧ b.isAttempt = false ∧ (s.emitters k).step b = some e ∧
      t = { s with emitters := Function.update s.emitters k e }) ∨
    (∃ k retried, a = .post k ∧ (s.emitters k).attempting = some retried ∧ s.posted k = false ∧
      t = { s with
        posted := Function.update s.posted k true
        wire := s.wire ++ [⟨k, (s.ended k).length, retried, (s.emitters k).batch⟩] }) ∨
    (∃ i r fails, a = .serve i fails ∧ s.wire[i]? = some r ∧
      t = ({ s with wire := s.wire.eraseIdx i } : DeliverySystem κ).handle z r fails) ∨
    (∃ i, a = .lose i ∧ t = { s with wire := s.wire.eraseIdx i }) ∨
    (∃ k ok retried cut e, a = .answer k ok cut ∧ (s.emitters k).attempting = some retried ∧
      (ok = true → (k, (s.ended k).length, retried) ∈ s.served.map Request.tag) ∧
      (s.emitters k).step (.loop (.attempt ok)) = some e ∧
      t = s.answered z k ok retried cut e) := by
  cases a with
  | emitter k b =>
    simp only [step, Option.ite_none_left_eq_some, Option.map_eq_some_iff] at h
    obtain ⟨hb, e, he, rfl⟩ := h
    exact .inl ⟨k, b, e, rfl, Bool.eq_false_of_not_eq_true hb, he, rfl⟩
  | post k =>
    simp only [step] at h
    split at h
    · rename_i retried after hloop hposted
      cases h
      exact .inr (.inl ⟨k, retried, rfl, by simp [Emitter.attempting, hloop], hposted, rfl⟩)
    · cases h
  | serve i fails =>
    simp only [step] at h
    split at h
    · cases h
    · rename_i r hr
      cases h
      exact .inr (.inr (.inl ⟨i, r, fails, rfl, hr, rfl⟩))
  | lose i =>
    cases h
    exact .inr (.inr (.inr (.inl ⟨i, rfl, rfl⟩)))
  | answer k ok cut =>
    simp only [step] at h
    split at h
    · rename_i retried after hloop hposted
      simp only [Option.ite_none_left_eq_some, Option.map_eq_some_iff, not_and, not_not] at h
      obtain ⟨hserved, e, he, rfl⟩ := h
      exact .inr (.inr (.inr (.inr
        ⟨k, ok, retried, cut, e, rfl, by simp [Emitter.attempting, hloop], hserved, he, rfl⟩)))
    · cases h

/-- A step of an emitter between the ends of attempts. -/
theorem Traced.emitter (hs : s.Traced) {k : κ} {b : EmitterAction} {e : Emitter}
    (hb : b.isAttempt = false) (he : (s.emitters k).step b = some e) :
    ({ s with emitters := Function.update s.emitters k e } : DeliverySystem κ).Traced := by
  obtain ⟨hcurrent, hattempt⟩ := Emitter.current_step hb he
  refine ⟨hs.tags, fun r hr => ?_, fun r hr hindex => ?_, hs.acknowledged⟩
  · have hbatch := hs.batches r hr
    simp only [handed] at hbatch ⊢
    by_cases hk : r.source = k
    · subst hk
      rw [Function.update_self, hcurrent, ← List.append_assoc,
        List.getElem?_append_left (List.getElem?_eq_some_iff.mp hbatch).1]
      exact hbatch
    · rwa [Function.update_of_ne hk]
  · obtain ⟨retried, hr', hposted, hretry⟩ := hs.tries r hr hindex
    refine ⟨retried, ?_, hposted, hretry⟩
    by_cases hk : r.source = k
    · subst hk
      simp only [Function.update_self]
      exact hattempt retried hr'
    · simpa only [Function.update_of_ne hk] using hr'

/-- The request of an attempt is a new one. -/
theorem Traced.post (hs : s.Traced) {k : κ} {retried : Bool}
    (hattempt : (s.emitters k).attempting = some retried) (hposted : s.posted k = false) :
    ({ s with
      posted := Function.update s.posted k true
      wire := s.wire ++ [⟨k, (s.ended k).length, retried, (s.emitters k).batch⟩] } :
        DeliverySystem κ).Traced := by
  have hcurrent := Emitter.current_of_attempting hattempt
  refine ⟨?_, fun r hr => ?_, fun r hr hindex => ?_, hs.acknowledged⟩
  · simp only
    rw [← List.append_assoc, List.map_append, List.map_singleton]
    refine List.nodup_append.mpr ⟨hs.tags, List.nodup_singleton _, ?_⟩
    rintro tag htag tag' htag' rfl
    obtain ⟨r, hr, hrtag⟩ := List.mem_map.mp htag
    rw [List.mem_singleton] at htag'
    subst htag'
    simp only [Request.tag, Prod.mk.injEq] at hrtag
    obtain ⟨rfl, hindex, hretried⟩ := hrtag
    -- a request with this tag would be one of the attempt that has not posted yet
    obtain ⟨retried', hr', hposted', -⟩ := hs.tries r hr hindex
    rw [hattempt, Option.some.injEq] at hr'
    rw [hposted' (hretried.trans hr')] at hposted
    cases hposted
  · simp only [← List.append_assoc] at hr
    rcases List.mem_append.mp hr with hr | hr
    · exact hs.batches r hr
    · rw [List.mem_singleton] at hr
      subst hr
      simp [handed, hcurrent]
  · simp only [← List.append_assoc] at hr
    rcases List.mem_append.mp hr with hr | hr
    · obtain ⟨retried', hr', hposted', hretry⟩ := hs.tries r hr hindex
      refine ⟨retried', hr', fun hsame => ?_, hretry⟩
      simp only
      by_cases hk : r.source = k
      · rw [hk, Function.update_self]
      · rw [Function.update_of_ne hk]
        exact hposted' hsame
    · rw [List.mem_singleton] at hr
      subst hr
      exact ⟨retried, hattempt, fun _ => Function.update_self .., id⟩

omit [DecidableEq κ] in
theorem Traced.lose (hs : s.Traced) (i : ℕ) :
    ({ s with wire := s.wire.eraseIdx i } : DeliverySystem κ).Traced := by
  have hsub := List.Sublist.append_left (List.eraseIdx_sublist s.wire i) s.served
  exact hs.of_subset (hs.tags.sublist (hsub.map _)) (fun r hr => hsub.subset hr) (fun r hr => hr)
    rfl rfl rfl

omit [DecidableEq κ] in
/-- A request that is served stays known. -/
theorem Traced.serve (hs : s.Traced) {i : ℕ} {r : Request κ} (hr : s.wire[i]? = some r)
    (fails : ℕ → Bool) :
    (({ s with wire := s.wire.eraseIdx i } : DeliverySystem κ).handle z r fails).Traced := by
  obtain ⟨hi, hget⟩ := List.getElem?_eq_some_iff.mp hr
  have hperm : (s.served ++ [r] ++ s.wire.eraseIdx i).Perm (s.served ++ s.wire) := by
    rw [List.append_assoc]
    refine List.Perm.append_left _ ?_
    rw [← hget]
    exact List.getElem_cons_eraseIdx_perm hi
  rw [handle]
  split
  · exact hs.lose i
  · refine hs.of_subset ?_ (fun r hr => hperm.subset hr) (fun r hr => List.mem_append_left _ hr)
      rfl rfl rfl
    exact (hperm.map _).nodup_iff.mpr hs.tags

/-- The end of an attempt hands over nothing new. -/
theorem handed_answered {k : κ} {ok retried : Bool} {e : Emitter}
    (hattempt : (s.emitters k).attempting = some retried) (cut : ℕ → Option ℕ)
    (he : (s.emitters k).step (.loop (.attempt ok)) = some e) (k' : κ) :
    (s.answered z k ok retried cut e).handed k' = s.handed k' := by
  obtain ⟨-, -, hend⟩ := Emitter.attempt_step hattempt he
  simp only [handed, answered]
  by_cases hk : k' = k
  · subst hk
    split at hend
    · rename_i hreturns
      simp [hreturns, hend.2, Emitter.current_of_attempting hattempt]
    · rename_i hretries
      rw [if_neg hretries, Function.update_self, hend.2]
  · split
    · rw [Function.update_of_ne hk, Function.update_of_ne hk]
    · rw [Function.update_of_ne hk]

/-- The end of an attempt. -/
theorem Traced.answered (hs : s.Traced) {k : κ} {ok retried : Bool} {e : Emitter}
    (hattempt : (s.emitters k).attempting = some retried) (cut : ℕ → Option ℕ)
    (hserved : ok = true → (k, (s.ended k).length, retried) ∈ s.served.map Request.tag)
    (he : (s.emitters k).step (.loop (.attempt ok)) = some e) :
    (s.answered z k ok retried cut e).Traced := by
  have hhanded := handed_answered (z := z) hattempt cut he
  obtain ⟨-, -, hend⟩ := Emitter.attempt_step hattempt he
  refine ⟨hs.tags, fun r hr => ?_, fun r hr hindex => ?_, fun k' n b hb => ?_⟩
  · rw [hhanded]
    exact hs.batches r hr
  · by_cases hk : r.source = k
    · subst hk
      have hbatch := (List.getElem?_eq_some_iff.mp (hs.batches r hr)).1
      simp only [DeliverySystem.answered, Function.update_self] at hindex ⊢
      split at hend
      · -- the call of `ship` has returned, and no request is for the next one
        rename_i hreturns
        simp only [handed, Emitter.current_of_attempting hattempt, List.length_append,
          List.length_map, List.length_singleton] at hbatch
        simp only [hreturns, if_true, Function.update_self, List.length_append,
          List.length_singleton] at hindex
        omega
      · -- the retry begins, and every request is one of the first attempt
        rename_i hretries
        rw [if_neg hretries] at hindex
        obtain ⟨retried', hr', -, hretry⟩ := hs.tries r hr hindex
        rw [hattempt, Option.some.injEq] at hr'
        subst hr'
        refine ⟨true, hend.1, fun hsame => ?_, fun _ => rfl⟩
        exact absurd (hretry hsame) fun hretried => hretries (by rw [hretried, Bool.or_true])
    · have hended : (s.answered z k ok retried cut e).ended r.source = s.ended r.source := by
        simp only [DeliverySystem.answered]
        split
        · rw [Function.update_of_ne hk]
        · rfl
      rw [hended] at hindex
      simp only [DeliverySystem.answered, Function.update_of_ne hk]
      exact hs.tries r hr hindex
  · simp only [DeliverySystem.answered] at hb
    split at hb
    · by_cases hk : k' = k
      · subst hk
        rw [Function.update_self] at hb
        by_cases hn : n < (s.ended k').length
        · rw [List.getElem?_append_left hn] at hb
          exact hs.acknowledged k' n b hb
        · rw [List.getElem?_append_right (not_lt.mp hn), List.getElem?_singleton] at hb
          split at hb
          · simp only [Option.some.injEq, Prod.mk.injEq] at hb
            obtain ⟨r, hr, htag⟩ := List.mem_map.mp (hserved hb.2)
            simp only [Request.tag, Prod.mk.injEq] at htag
            exact ⟨r, hr, htag.1, by omega⟩
          · cases hb
      · rw [Function.update_of_ne hk] at hb
        exact hs.acknowledged k' n b hb
    · exact hs.acknowledged k' n b hb

/-- Requests are told apart by their tags, belong to batches that were handed to `ship`, and
account for every success. -/
theorem Traced.step (hs : s.Traced) (h : s.step z a = some t) : t.Traced := by
  rcases step_cases h with ⟨k, b, e, -, hb, he, rfl⟩ | ⟨k, retried, -, hattempt, hposted, rfl⟩ |
    ⟨i, r, fails, -, hr, rfl⟩ | ⟨i, -, rfl⟩ |
    ⟨k, ok, retried, cut, e, -, hattempt, hserved, he, rfl⟩
  · exact hs.emitter hb he
  · exact hs.post hattempt hposted
  · exact hs.serve hr fails
  · exact hs.lose i
  · exact hs.answered hattempt cut hserved he

end DeliverySystem

/-! ### Accounts -/

/-- The lines that are written whole are counted, and no line is counted beyond its size. -/
theorem sum_writtenBytes (lineBytes : ℕ → ℕ) (cut : ℕ → Option ℕ) (batch : List ℕ) :
    ((batch.filter fun i => !(cut i).isSome).map lineBytes).sum ≤
        (batch.map (writtenBytes lineBytes cut)).sum ∧
      (batch.map (writtenBytes lineBytes cut)).sum ≤ (batch.map lineBytes).sum := by
  induction batch with
  | nil => exact ⟨le_rfl, le_rfl⟩
  | cons i batch ih =>
    obtain ⟨hwhole, hsize⟩ := ih
    cases hcut : cut i with
    | none =>
      simp only [List.filter_cons, hcut, Option.isSome_none, Bool.not_false, if_true,
        List.map_cons, List.sum_cons, writtenBytes]
      exact ⟨by omega, by omega⟩
    | some n =>
      have hmin : min n (lineBytes i) ≤ lineBytes i := Nat.min_le_right _ _
      simp only [List.filter_cons, hcut, Option.isSome_some, Bool.not_true, Bool.false_eq_true,
        if_false, List.map_cons, List.sum_cons, writtenBytes]
      exact ⟨by omega, by omega⟩

/-- What a fallback file holds of the batches that failed: all of them but for failed writes,
until what was appended has grown past the limit; and it exceeds the limit by one batch at
most. -/
structure Fallback.Holds (fb : Fallback) (lineBytes : ℕ → ℕ) (failed : List (List ℕ)) : Prop where
  bytes : (fb.written.map lineBytes).sum ≤ fb.fbBytes
  complete : fb.fbBytes ≤ maxFallback → (fb.written ++ fb.unwritten).Perm failed.flatten
  bounded : ∃ last, (last = [] ∨ last ∈ failed) ∧
    fb.fbBytes ≤ maxFallback + (last.map lineBytes).sum

theorem Fallback.Holds.writeFallback {fb : Fallback} {lineBytes : ℕ → ℕ} {failed : List (List ℕ)}
    (h : fb.Holds lineBytes failed) (cut : ℕ → Option ℕ) (batch : List ℕ) :
    (fb.writeFallback lineBytes cut batch).Holds lineBytes (failed ++ [batch]) := by
  rw [Fallback.writeFallback]
  split
  · rename_i hfull
    obtain ⟨last, hlast, hbytes⟩ := h.bounded
    refine ⟨h.bytes, fun hroom => absurd hroom (not_le.mpr hfull), last, ?_, hbytes⟩
    exact hlast.imp_right (List.mem_append_left _)
  · rename_i hroom
    obtain ⟨hwhole, hsize⟩ := sum_writtenBytes lineBytes cut batch
    refine ⟨?_, fun _ => ?_, batch, .inr (by simp), ?_⟩
    · simp only [List.map_append, List.sum_append]
      exact Nat.add_le_add h.bytes hwhole
    · have hbatch := (List.perm_append_comm.trans
        (List.filter_append_perm (fun i => (cut i).isSome) batch))
      have hflat : (failed ++ [batch]).flatten = failed.flatten ++ batch := by simp
      rw [hflat]
      exact (Reorder.append_append_perm _ _ _ _).trans
        ((h.complete (not_lt.mp hroom)).append hbatch)
    · exact Nat.add_le_add (not_lt.mp hroom) hsize

namespace DeliverySystem

variable {κ : Type*}

/-- The emitters run as they do alone, and files and counters tell what has happened. -/
structure Accounted (cfg : κ → EmitterConfig) (z : Sizes κ) (s : DeliverySystem κ) : Prop where
  runs : ∀ k, ∃ as, exec Emitter.step (newEmitter (cfg k)) as = some (s.emitters k) ∧
    Emitter.shipments (cfg k) as = s.handed k
  file : (s.file ++ s.unwritten).Perm
    (s.served.flatMap fun r => r.batch.map fun i => (r.source, i))
  received : s.received = s.file.length + s.unwritten.length
  sent : ∀ k, (s.emitters k).sent = (((s.ended k).filter fun b => b.2).map fun b => b.1.length).sum
  failed : ∀ k, (s.emitters k).failed = ((s.failedBatches k).map List.length).sum
  fallback : ∀ k fb, s.fallback k = some fb → fb.Holds (z.line k) (s.failedBatches k)

variable [DecidableEq κ] {cfg : κ → EmitterConfig} {z : Sizes κ} {s t : DeliverySystem κ}
  {a : DeliveryAction κ}

/-- What the end of an attempt adds to the batches that failed. -/
theorem failedBatches_answered (k : κ) (ok retried : Bool) (cut : ℕ → Option ℕ) (e : Emitter)
    (k' : κ) :
    (s.answered z k ok retried cut e).failedBatches k' = s.failedBatches k' ++
      if k' = k ∧ (!ok && retried) = true then [(s.emitters k).batch] else [] := by
  simp only [failedBatches, answered]
  by_cases hk : k' = k
  · subst hk
    cases ok <;> cases retried <;> simp
  · cases ok <;> cases retried <;> simp [hk]

theorem Accounted.answered (hs : Accounted cfg z s) {k : κ} {ok retried : Bool} {e : Emitter}
    (hattempt : (s.emitters k).attempting = some retried) (cut : ℕ → Option ℕ)
    (he : (s.emitters k).step (.loop (.attempt ok)) = some e) :
    Accounted cfg z (s.answered z k ok retried cut e) := by
  obtain ⟨hsent, hfailed, -⟩ := Emitter.attempt_step hattempt he
  refine ⟨fun k' => ?_, hs.file, hs.received, fun k' => ?_, fun k' => ?_, fun k' fb hfb => ?_⟩
  · rw [handed_answered hattempt cut he]
    obtain ⟨as, has, hships⟩ := hs.runs k'
    by_cases hk : k' = k
    · subst hk
      refine ⟨as ++ [.loop (.attempt ok)], ?_, ?_⟩
      · simp only [DeliverySystem.answered, Function.update_self]
        exact exec_concat_eq_some.mpr ⟨_, has, he⟩
      · rw [Emitter.shipments, observed_concat Emitter.ships has he]
        exact (List.append_nil _).trans hships
    · refine ⟨as, ?_, hships⟩
      simpa only [DeliverySystem.answered, Function.update_of_ne hk] using has
  · by_cases hk : k' = k
    · subst hk
      simp only [DeliverySystem.answered, Function.update_self, hsent, hs.sent]
      cases ok <;> cases retried <;> simp
    · have hsame := hs.sent k'
      simp only [DeliverySystem.answered, Function.update_of_ne hk]
      cases ok <;> cases retried <;> simpa [hk] using hsame
  · rw [failedBatches_answered]
    by_cases hk : k' = k
    · subst hk
      simp only [DeliverySystem.answered, Function.update_self, hfailed, hs.failed]
      cases ok <;> cases retried <;> simp
    · simp only [DeliverySystem.answered, Function.update_of_ne hk, hs.failed, hk, false_and,
        if_false, List.append_nil]
  · rw [failedBatches_answered]
    simp only [DeliverySystem.answered] at hfb
    by_cases hk : k' = k ∧ (!ok && retried) = true
    · obtain ⟨rfl, hwrites⟩ := hk
      rw [if_pos hwrites, Function.update_self] at hfb
      obtain ⟨fb', hfb', rfl⟩ := Option.map_eq_some_iff.mp hfb
      rw [if_pos ⟨rfl, hwrites⟩]
      exact (hs.fallback k' fb' hfb').writeFallback cut _
    · rw [if_neg hk, List.append_nil]
      refine hs.fallback k' fb ?_
      split at hfb
      · rename_i hwrites
        rwa [Function.update_of_ne fun h => hk ⟨h, hwrites⟩] at hfb
      · exact hfb

theorem Accounted.emitter (hs : Accounted cfg z s) {k : κ} {b : EmitterAction} {e : Emitter}
    (hb : b.isAttempt = false) (he : (s.emitters k).step b = some e) :
    Accounted cfg z { s with emitters := Function.update s.emitters k e } := by
  obtain ⟨hsent, hfailed⟩ := Emitter.step_counters hb he
  refine ⟨fun k' => ?_, hs.file, hs.received, fun k' => ?_, fun k' => ?_, hs.fallback⟩
  · obtain ⟨as, has, hships⟩ := hs.runs k'
    by_cases hk : k' = k
    · subst hk
      refine ⟨as ++ [b], ?_, ?_⟩
      · simp only [Function.update_self]
        exact exec_concat_eq_some.mpr ⟨_, has, he⟩
      · rw [Emitter.shipments, observed_concat Emitter.ships has he]
        simp only [handed, Function.update_self, (Emitter.current_step hb he).1]
        rw [← List.append_assoc]
        exact congrArg (· ++ _) hships
    · refine ⟨as, ?_, ?_⟩
      · simpa only [Function.update_of_ne hk] using has
      · simpa only [handed, Function.update_of_ne hk] using hships
  · by_cases hk : k' = k
    · subst hk
      simp only [Function.update_self, hsent]
      exact hs.sent k'
    · simpa only [Function.update_of_ne hk] using hs.sent k'
  · by_cases hk : k' = k
    · subst hk
      simp only [Function.update_self, hfailed]
      exact hs.failed k'
    · simp only [Function.update_of_ne hk]
      exact hs.failed k'

/-- Every step keeps the accounts. -/
theorem Accounted.step (hs : Accounted cfg z s) (h : s.step z a = some t) : Accounted cfg z t := by
  rcases step_cases h with ⟨k, b, e, -, hb, he, rfl⟩ | ⟨k, retried, -, -, -, rfl⟩ |
    ⟨i, r, fails, -, -, rfl⟩ | ⟨i, -, rfl⟩ | ⟨k, ok, retried, cut, e, -, hattempt, -, he, rfl⟩
  · exact hs.emitter hb he
  · exact ⟨hs.runs, hs.file, hs.received, hs.sent, hs.failed, hs.fallback⟩
  · rw [handle]
    split
    · exact ⟨hs.runs, hs.file, hs.received, hs.sent, hs.failed, hs.fallback⟩
    · have hbatch : ((r.batch.filter fun i => !fails i) ++ r.batch.filter fails).Perm r.batch :=
        List.perm_append_comm.trans (List.filter_append_perm fails r.batch)
      refine ⟨hs.runs, ?_, ?_, hs.sent, hs.failed, hs.fallback⟩
      · have hlines := hbatch.map fun i => (r.source, i)
        rw [List.map_append] at hlines
        simp only [List.flatMap_append, List.flatMap_singleton]
        exact (Reorder.append_append_perm _ _ _ _).trans (hs.file.append hlines)
      · have hlength := hbatch.length_eq
        simp only [List.length_append, List.length_map, hs.received] at hlength ⊢
        omega
  · exact ⟨hs.runs, hs.file, hs.received, hs.sent, hs.failed, hs.fallback⟩
  · exact hs.answered hattempt cut he

/-! ### What arrives -/

end DeliverySystem

end GpuSidecar.Trajectory
