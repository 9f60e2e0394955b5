import Mathlib.Algebra.Order.Ring.Int

/-!
# Deterministic runs indexed by time

A deterministic machine fed by a sequence of inputs passes through one state for
each instant. Facts about the whole past of such a run are expressed by two
history functions: the length of the unbroken run of a predicate just before an
instant, and a latch that is set by one predicate and released by another. Both
satisfy one-step equations, so that a machine's own counters and flags can be
identified with them by induction on time.
-/

namespace GpuSidecar.Run

variable {σ α : Type*}

/-- The state before input `n`; inputs `0, …, n - 1` have been consumed. -/
def stateAt (step : σ → α → σ) (init : σ) (inputs : ℕ → α) : ℕ → σ
  | 0 => init
  | n + 1 => step (stateAt step init inputs n) (inputs n)

@[simp] theorem stateAt_zero (step : σ → α → σ) (init : σ) (inputs : ℕ → α) :
    stateAt step init inputs 0 = init := rfl

/-- A relation between elapsed time and state that holds at the start and is kept by
every step holds at every instant of the run. -/
theorem stateAt_induction {step : σ → α → σ} {init : σ} {inputs : ℕ → α}
    {P : ℕ → σ → Prop} (hinit : P 0 init)
    (hstep : ∀ n, P n (stateAt step init inputs n) →
      P (n + 1) (step (stateAt step init inputs n) (inputs n))) (n : ℕ) :
    P n (stateAt step init inputs n) := by
  induction n with
  | zero => exact hinit
  | succ n ih => exact hstep n ih

/-- The length of the unbroken run of `p` that ends just before instant `n`. -/
def streak (p : ℕ → Bool) : ℕ → ℕ
  | 0 => 0
  | n + 1 => if p n then streak p n + 1 else 0

@[simp] theorem streak_zero (p : ℕ → Bool) : streak p 0 = 0 := rfl

theorem streak_succ_of_true {p : ℕ → Bool} {n : ℕ} (h : p n = true) :
    streak p (n + 1) = streak p n + 1 := by
  simp [streak, h]

theorem streak_succ_of_false {p : ℕ → Bool} {n : ℕ} (h : p n = false) :
    streak p (n + 1) = 0 := by
  simp [streak, h]

/-- A streak of at least `k` means that the last `k` instants exist and satisfy `p`. -/
theorem le_streak_iff (p : ℕ → Bool) (k n : ℕ) :
    k ≤ streak p n ↔ k ≤ n ∧ ∀ j, n ≤ j + k → j < n → p j = true := by
  induction n generalizing k with
  | zero =>
    simp only [streak_zero, Nat.le_zero]
    exact ⟨fun h => ⟨h, fun j _ hj => absurd hj (Nat.not_lt_zero j)⟩, fun h => h.1⟩
  | succ n ih =>
    cases k with
    | zero =>
      refine ⟨fun _ => ⟨Nat.zero_le _, fun j hj hlt => ?_⟩, fun _ => Nat.zero_le _⟩
      omega
    | succ k =>
      cases hp : p n with
      | false =>
        rw [streak_succ_of_false hp]
        refine ⟨fun h => absurd h (Nat.not_succ_le_zero k), fun h => ?_⟩
        have hn := h.2 n (by omega) (Nat.lt_succ_self n)
        rw [hp] at hn
        exact absurd hn Bool.false_ne_true
      | true =>
        rw [streak_succ_of_true hp, Nat.succ_le_succ_iff, ih]
        refine and_congr (Nat.succ_le_succ_iff).symm ⟨fun h j hj hlt => ?_, fun h j hj hlt => ?_⟩
        · rcases Nat.lt_succ_iff_lt_or_eq.mp hlt with hlt | rfl
          · exact h j (by omega) hlt
          · exact hp
        · exact h j (by omega) (by omega)

/-- A predicate that never held before `n` has no streak there. -/
theorem streak_eq_zero {p : ℕ → Bool} {n : ℕ} (h : ∀ j, j < n → p j = false) :
    streak p n = 0 := by
  cases n with
  | zero => rfl
  | succ n => exact streak_succ_of_false (h n (Nat.lt_succ_self n))

/-- Counting a streak from instant `r` on: it reaches `k` exactly if some suffix of the
past that starts at or after `r` is at least `k` long and satisfies `p` throughout. -/
theorem le_streak_since_iff {p : ℕ → Bool} {r n : ℕ} (hr : r ≤ n) (hn : p n = true) (k : ℤ) :
    k ≤ streak (fun j => decide (r ≤ j) && p j) (n + 1) ↔
      ∃ start, r ≤ start ∧ start ≤ n ∧ k ≤ (n + 1 : ℤ) - start ∧
        ∀ j, start ≤ j → j ≤ n → p j = true := by
  have hpos : streak (fun j => decide (r ≤ j) && p j) (n + 1) =
      streak (fun j => decide (r ≤ j) && p j) n + 1 := streak_succ_of_true (by simp [hr, hn])
  constructor
  · intro hk
    obtain ⟨hle, hall⟩ := (le_streak_iff (fun j => decide (r ≤ j) && p j) _ (n + 1)).mp le_rfl
    refine ⟨n + 1 - streak (fun j => decide (r ≤ j) && p j) (n + 1), ?_, by omega, by omega, ?_⟩
    · have hfirst := hall (n + 1 - streak (fun j => decide (r ≤ j) && p j) (n + 1))
        (by omega) (by omega)
      simp only [Bool.and_eq_true, decide_eq_true_eq] at hfirst
      exact hfirst.1
    · intro j hj hjn
      have h := hall j (by omega) (by omega)
      simp only [Bool.and_eq_true] at h
      exact h.2
  · rintro ⟨start, hrs, hsn, hk, hall⟩
    have hlen : n + 1 - start ≤ streak (fun j => decide (r ≤ j) && p j) (n + 1) := by
      refine (le_streak_iff _ _ _).mpr ⟨Nat.sub_le _ _, fun j hj hlt => ?_⟩
      have hsj : start ≤ j := by omega
      simp [hrs.trans hsj, hall j hsj (Nat.lt_succ_iff.mp hlt)]
    omega

/-- Some earlier instant set the latch and nothing after it has released it. -/
def Latched (set release : ℕ → Prop) (n : ℕ) : Prop :=
  ∃ i, i < n ∧ set i ∧ ∀ j, i < j → j < n → ¬ release j

theorem not_latched_zero (set release : ℕ → Prop) : ¬ Latched set release 0 := by
  rintro ⟨i, hi, -⟩
  exact absurd hi (Nat.not_lt_zero i)

/-- One more instant either sets the latch itself or keeps an earlier one unreleased. -/
theorem latched_succ_iff (set release : ℕ → Prop) (n : ℕ) :
    Latched set release (n + 1) ↔ set n ∨ (Latched set release n ∧ ¬ release n) := by
  constructor
  · rintro ⟨i, hi, hset, hkeep⟩
    rcases Nat.lt_succ_iff_lt_or_eq.mp hi with hlt | rfl
    · exact Or.inr ⟨⟨i, hlt, hset, fun j hij hj => hkeep j hij (Nat.lt_succ_of_lt hj)⟩,
        hkeep n hlt (Nat.lt_succ_self n)⟩
    · exact Or.inl hset
  · rintro (hset | ⟨⟨i, hi, hset, hkeep⟩, hrel⟩)
    · exact ⟨n, Nat.lt_succ_self n, hset, fun j hij hj => by omega⟩
    · refine ⟨i, Nat.lt_succ_of_lt hi, hset, fun j hij hj => ?_⟩
      rcases Nat.lt_succ_iff_lt_or_eq.mp hj with hj | rfl
      · exact hkeep j hij hj
      · exact hrel

/-- The most recent instant before `n` that satisfies `p`. -/
def Latest (p : ℕ → Prop) (n r : ℕ) : Prop :=
  r < n ∧ p r ∧ ∀ k, r < k → k < n → ¬ p k

/-- An instant that satisfies `p` is the most recent one right after it. -/
theorem latest_succ_self {p : ℕ → Prop} {n : ℕ} (h : p n) : Latest p (n + 1) n :=
  ⟨Nat.lt_succ_self n, h, fun k hk hlt => by omega⟩

/-- An instant that does not satisfy `p` leaves the most recent one in place. -/
theorem Latest.succ {p : ℕ → Prop} {n r : ℕ} (h : Latest p n r) (hn : ¬ p n) :
    Latest p (n + 1) r := by
  refine ⟨Nat.lt_succ_of_lt h.1, h.2.1, fun k hk hlt => ?_⟩
  rcases Nat.lt_succ_iff_lt_or_eq.mp hlt with hlt | rfl
  · exact h.2.2 k hk hlt
  · exact hn

/-- The most recent instant does not change back over an instant that does not satisfy `p`. -/
theorem Latest.of_succ {p : ℕ → Prop} {n r : ℕ} (h : Latest p (n + 1) r) (hn : ¬ p n) :
    Latest p n r := by
  refine ⟨?_, h.2.1, fun k hk hlt => h.2.2 k hk (Nat.lt_succ_of_lt hlt)⟩
  rcases Nat.lt_succ_iff_lt_or_eq.mp h.1 with hlt | rfl
  · exact hlt
  · exact absurd h.2.1 hn

/-- If some instant in the past satisfies `p`, there is a most recent one. -/
theorem exists_latest {p : ℕ → Prop} {n i : ℕ} (hi : i < n) (h : p i) : ∃ r, Latest p n r := by
  induction n with
  | zero => exact absurd hi (Nat.not_lt_zero i)
  | succ n ih =>
    by_cases hn : p n
    · exact ⟨n, latest_succ_self hn⟩
    · have hlt : i < n := by
        rcases Nat.lt_succ_iff_lt_or_eq.mp hi with hlt | rfl
        · exact hlt
        · exact absurd h hn
      obtain ⟨r, hr⟩ := ih hlt
      exact ⟨r, hr.succ hn⟩

/-- There is at most one most recent instant. -/
theorem Latest.unique {p : ℕ → Prop} {n r s : ℕ} (hr : Latest p n r) (hs : Latest p n s) :
    r = s := by
  rcases Nat.lt_trichotomy r s with h | h | h
  · exact absurd hs.2.1 (hr.2.2 s h hs.1)
  · exact h
  · exact absurd hr.2.1 (hs.2.2 r h hr.1)

end GpuSidecar.Run
