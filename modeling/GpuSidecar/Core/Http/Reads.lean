import GpuSidecar.Core.Http.Message

/-!
# Reading a body line by line

A buffered reader returns one newline-terminated line after another and then the rest
together with the way the body ends. A relay loop handles every line, checks between
lines whether to go on, and ends with the body; its partial correctness is one rule
over what has been read so far.
-/

namespace GpuSidecar.Http

/-- What successive calls of `ReadBytes('\n')` return. -/
inductive Reads where
  /-- The last call: the rest of the body, possibly empty, and the end. -/
  | last (line : Bytes) (ending : Ending)
  /-- A line without an error. -/
  | more (line : Bytes) (rest : Reads)
  deriving DecidableEq, Repr

namespace Reads

/-- All bytes returned. -/
def data : Reads → Bytes
  | last line _ => line
  | more line rest => line ++ rest.data

/-- The end returned with the last call. -/
def ending : Reads → Ending
  | last _ e => e
  | more _ rest => rest.ending

/-- Puts one more byte in front of the first line. -/
def push (b : UInt8) : Reads → Reads
  | last line e => last (b :: line) e
  | more line rest => more (b :: line) rest

@[simp] theorem push_data (b : UInt8) (r : Reads) : (r.push b).data = b :: r.data := by
  cases r <;> rfl

@[simp] theorem push_ending (b : UInt8) (r : Reads) : (r.push b).ending = r.ending := by
  cases r <;> rfl

/-- Splits a body after every newline. -/
def ofBytes (e : Ending) : Bytes → Reads
  | [] => last [] e
  | b :: bs => if b = 10 then more [b] (ofBytes e bs) else (ofBytes e bs).push b

/-- The reads of a body return all of its bytes. -/
theorem ofBytes_data (e : Ending) (bs : Bytes) : (ofBytes e bs).data = bs := by
  induction bs with
  | nil => rfl
  | cons b bs ih =>
    rw [ofBytes]
    split
    · exact congrArg (b :: ·) ih
    · rw [push_data, ih]

/-- The reads of a body end as the body does. -/
theorem ofBytes_ending (e : Ending) (bs : Bytes) : (ofBytes e bs).ending = e := by
  induction bs with
  | nil => rfl
  | cons b bs ih =>
    rw [ofBytes]
    split
    · exact ih
    · rw [push_ending, ih]

variable {σ ρ : Type*}

/-- A relay loop: `chunk` handles the bytes of a read, `check` decides between reads
whether to go on, and `stop` handles the end. Either of the first two may return. -/
def loop (chunk : σ → Bytes → Except ρ σ) (check : σ → Except ρ σ) (stop : σ → Ending → ρ) :
    Reads → σ → ρ
  | last line e, s =>
    match chunk s line with
    | .error r => r
    | .ok t => stop t e
  | more line rest, s =>
    match chunk s line with
    | .error r => r
    | .ok t =>
      match check t with
      | .error r => r
      | .ok u => loop chunk check stop rest u

/-- The rule of the relay loop: an invariant of the bytes read and the state that every
step keeps, and that gives the postcondition wherever the loop returns. -/
theorem loop_rule {chunk : σ → Bytes → Except ρ σ} {check : σ → Except ρ σ}
    {stop : σ → Ending → ρ} {I : Bytes → σ → Prop} {Q : ρ → Prop}
    (hreturn : ∀ seen s line r, I seen s → chunk s line = .error r → Q r)
    (hchunk : ∀ seen s line t, I seen s → chunk s line = .ok t → I (seen ++ line) t)
    (hleave : ∀ seen s r, I seen s → check s = .error r → Q r)
    (hcheck : ∀ seen s t, I seen s → check s = .ok t → I seen t)
    (reads : Reads) (seen : Bytes) {s : σ}
    (hstop : ∀ t, I (seen ++ reads.data) t → Q (stop t reads.ending)) (h : I seen s) :
    Q (reads.loop chunk check stop s) := by
  induction reads generalizing seen s with
  | last line e =>
    rw [loop]
    cases hc : chunk s line with
    | error r => exact hreturn seen s line r h hc
    | ok t => exact hstop t (hchunk seen s line t h hc)
  | more line rest ih =>
    rw [loop]
    cases hc : chunk s line with
    | error r => exact hreturn seen s line r h hc
    | ok t =>
      have ht := hchunk seen s line t h hc
      cases hk : check t with
      | error r =>
        simp only [hk]
        exact hleave _ t r ht hk
      | ok u =>
        simp only [hk]
        refine ih _ (fun v hv => hstop v ?_) (hcheck _ t u ht hk)
        rwa [List.append_assoc] at hv

/-! ### How far a relay gets -/

/-- The reads that return bytes. -/
def chunks : Reads → List Bytes
  | last line _ => if line = [] then [] else [line]
  | more line rest => if line = [] then rest.chunks else line :: rest.chunks

/-- The checks between two reads. -/
def checks : Reads → ℕ
  | last _ _ => 0
  | more _ rest => rest.checks + 1

/-- Every read but the last returns bytes. -/
def Terminated : Reads → Prop
  | last _ _ => True
  | more line rest => line ≠ [] ∧ rest.Terminated

theorem flatten_chunks (reads : Reads) : reads.chunks.flatten = reads.data := by
  induction reads with
  | last line e => by_cases hline : line = [] <;> simp [chunks, data, hline]
  | more line rest ih => by_cases hline : line = [] <;> simp [chunks, data, hline, ih]

theorem Terminated.push {reads : Reads} (h : reads.Terminated) (b : UInt8) :
    (reads.push b).Terminated := by
  cases reads with
  | last line e => trivial
  | more line rest => exact ⟨List.cons_ne_nil b line, h.2⟩

/-- The lines of a body end with a newline. -/
theorem ofBytes_terminated (e : Ending) (bs : Bytes) : (ofBytes e bs).Terminated := by
  induction bs with
  | nil => trivial
  | cons b bs ih =>
    rw [ofBytes]
    split
    · exact ⟨List.cons_ne_nil b [], ih⟩
    · exact ih.push b

/-- A relay that numbers its writes and checks reaches the end of the reads. -/
def Through (d : Downstream) (reads : Reads) : Prop :=
  (∀ j < reads.chunks.length, d.writeFails j = false) ∧ ∀ k < reads.checks, d.ctxDone k = false

/-- A relay that numbers its writes and checks writes a number of chunks and stops: at the
end, at a write that fails, or at a check that finds the context done. -/
structure UpTo (d : Downstream) (reads : Reads) (n : ℕ) : Prop where
  le : n ≤ reads.chunks.length
  written : ∀ j < n, d.writeFails j = false
  unseen : ∀ k, k + 1 < n → d.ctxDone k = false
  stopped : n < reads.chunks.length →
    d.writeFails n = true ∨ ∃ k, n = k + 1 ∧ d.ctxDone k = true

variable {d : Downstream} {line : Bytes} {rest : Reads} {e : Ending}

theorem through_last : (last line e).Through d ↔ line = [] ∨ d.writeFails 0 = false := by
  by_cases hline : line = [] <;> simp [Through, chunks, checks, hline]

/-- The first read passes, and the others pass with the numbers that follow. -/
theorem through_more (hline : line ≠ []) :
    (more line rest).Through d ↔
      d.writeFails 0 = false ∧ d.ctxDone 0 = false ∧ rest.Through (d.after 1) := by
  simp only [Through, chunks, checks, if_neg hline, List.length_cons, Downstream.after]
  constructor
  · rintro ⟨hwrites, hchecks⟩
    refine ⟨hwrites 0 (by omega), hchecks 0 (by omega), ?_, ?_⟩
    · intro j hj
      exact hwrites (1 + j) (by omega)
    · intro k hk
      exact hchecks (1 + k) (by omega)
  · rintro ⟨hwrite, hcheck, hwrites, hchecks⟩
    constructor
    · intro j hj
      cases j with
      | zero => exact hwrite
      | succ j =>
        rw [Nat.add_comm]
        exact hwrites j (by omega)
    · intro k hk
      cases k with
      | zero => exact hcheck
      | succ k =>
        rw [Nat.add_comm]
        exact hchecks k (by omega)

/-- Nothing is written if the first write fails or there is nothing to write. -/
theorem upTo_zero {reads : Reads} (h : 0 < reads.chunks.length → d.writeFails 0 = true) :
    reads.UpTo d 0 :=
  ⟨Nat.zero_le _, by simp, by simp, fun hlt => Or.inl (h hlt)⟩

/-- The last chunk is written. -/
theorem upTo_last (hline : line ≠ []) (hwrite : d.writeFails 0 = false) :
    (last line e).UpTo d 1 := by
  refine ⟨by simp [chunks, hline], ?_, by simp, by simp [chunks, hline]⟩
  intro j hj
  rwa [Nat.lt_one_iff.mp hj]

/-- The first chunk is written, and the check after it finds the context done. -/
theorem upTo_done (hline : line ≠ []) (hwrite : d.writeFails 0 = false)
    (hcheck : d.ctxDone 0 = true) : (more line rest).UpTo d 1 := by
  refine ⟨by simp [chunks, hline], ?_, by simp, fun _ => Or.inr ⟨0, rfl, hcheck⟩⟩
  intro j hj
  rwa [Nat.lt_one_iff.mp hj]

/-- The first chunk is written, and the relay goes on. -/
theorem UpTo.more (hline : line ≠ []) (hwrite : d.writeFails 0 = false)
    (hcheck : d.ctxDone 0 = false) {n : ℕ} (h : rest.UpTo (d.after 1) n) :
    (more line rest).UpTo d (n + 1) := by
  simp only [Downstream.after] at h
  refine ⟨?_, ?_, ?_, ?_⟩
  · simpa [chunks, hline] using h.le
  · intro j hj
    cases j with
    | zero => exact hwrite
    | succ j =>
      rw [Nat.add_comm]
      exact h.written j (by omega)
  · intro k hk
    cases k with
    | zero => exact hcheck
    | succ k =>
      rw [Nat.add_comm]
      exact h.unseen k (by omega)
  · intro hlt
    have hlt' : n < rest.chunks.length := by simpa [chunks, hline] using hlt
    rcases h.stopped hlt' with hfails | ⟨k, rfl, hdone⟩
    · exact Or.inl (by rwa [Nat.add_comm])
    · exact Or.inr ⟨1 + k, by omega, hdone⟩

/-- A check follows every chunk but the last. -/
theorem length_chunks_le (reads : Reads) : reads.chunks.length ≤ reads.checks + 1 := by
  induction reads with
  | last line e => by_cases hline : line = [] <;> simp [chunks, checks, hline]
  | more line rest ih =>
    by_cases hline : line = [] <;> simp only [chunks, checks, hline, if_true, if_false,
      List.length_cons] <;> omega

/-- A relay that reaches the end has written every chunk. -/
theorem UpTo.eq_length {reads : Reads} {n : ℕ} (h : reads.UpTo d n) (hthrough : reads.Through d) :
    n = reads.chunks.length := by
  refine Nat.le_antisymm h.le (Nat.le_of_not_lt fun hlt => ?_)
  rcases h.stopped hlt with hfails | ⟨k, rfl, hdone⟩
  · rw [hthrough.1 n hlt] at hfails
    cases hfails
  · have hle := reads.length_chunks_le
    rw [hthrough.2 k (by omega)] at hdone
    cases hdone

end Reads

/-- The reads of a body. -/
def Body.reads (body : Body) : Reads := Reads.ofBytes body.ending body.data

@[simp] theorem Body.reads_data (body : Body) : body.reads.data = body.data :=
  Reads.ofBytes_data _ _

@[simp] theorem Body.reads_ending (body : Body) : body.reads.ending = body.ending :=
  Reads.ofBytes_ending _ _

end GpuSidecar.Http
