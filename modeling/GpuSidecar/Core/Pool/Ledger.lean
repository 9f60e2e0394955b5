import Mathlib.Algebra.BigOperators.Group.List.Basic
import Mathlib.Algebra.Order.Ring.Int

/-!
# Ledgers over a pool of parties

A pool is a list of parties, each named by its position. Shared counters that the
parties move one after the other are balanced when each one equals the sum of what
the parties have contributed to it so far. A step that changes one party keeps the
balance exactly if it moves the counters by the change of that party's shares.
-/

namespace GpuSidecar.Pool

variable {α κ : Type*}

/-- The party at a position after it has changed. -/
theorem getElem?_set_self {pool : List α} {i : ℕ} {a : α} (h : pool[i]? = some a) (b : α) :
    (pool.set i b)[i]? = some b := by
  obtain ⟨hi, -⟩ := List.getElem?_eq_some_iff.mp h
  exact List.getElem?_set_self hi

/-- Applying a function to one party replaces it. -/
theorem modify_eq_set {pool : List α} {i : ℕ} {a : α} (h : pool[i]? = some a) (f : α → α) :
    pool.modify i f = pool.set i (f a) := by
  rw [List.modify_eq_set_getElem?, h]
  rfl

/-- The total of a share over the pool. -/
def total (share : α → ℕ) (pool : List α) : ℕ := (pool.map share).sum

@[simp] theorem total_concat (share : α → ℕ) (pool : List α) (a : α) :
    total share (pool ++ [a]) = total share pool + share a := by
  simp [total]

/-- Changing one party changes the total by the change of its share. -/
theorem total_set_add (share : α → ℕ) {pool : List α} {i : ℕ} {a : α} (h : pool[i]? = some a)
    (b : α) : total share (pool.set i b) + share a = total share pool + share b := by
  induction pool generalizing i with
  | nil => simp at h
  | cons c pool ih =>
    cases i with
    | zero =>
      obtain rfl : c = a := by simpa using h
      simp only [total, List.set_cons_zero, List.map_cons, List.sum_cons]
      omega
    | succ i =>
      have hrest := ih (by simpa using h)
      simp only [total, List.set_cons_succ, List.map_cons, List.sum_cons] at hrest ⊢
      omega

/-- One party's property is all that a change of it adds to a property of the others. -/
theorem forall_mem_set_iff {pool : List α} {i : ℕ} {a b : α} {p : α → Prop}
    (h : pool[i]? = some a) (hp : ∀ c ∈ pool, p c) : (∀ c ∈ pool.set i b, p c) ↔ p b := by
  constructor
  · intro hall
    exact hall b (List.mem_of_getElem? (getElem?_set_self h b))
  · intro hb c hc
    rcases List.mem_or_eq_of_mem_set hc with hc | rfl
    · exact hp c hc
    · exact hb

/-- A total vanishes exactly if every share does. -/
theorem total_eq_zero_iff (share : α → ℕ) (pool : List α) :
    total share pool = 0 ↔ ∀ a ∈ pool, share a = 0 := by
  simp [total, List.sum_eq_zero_iff_forall_eq_nat]

/-- The total of an indicator is a count. -/
theorem total_indicator (p : α → Bool) (pool : List α) :
    total (fun a => if p a then 1 else 0) pool = pool.countP p := by
  induction pool with
  | nil => rfl
  | cons a pool ih =>
    rw [List.countP_cons, ← ih]
    simp only [total, List.map_cons, List.sum_cons]
    exact Nat.add_comm _ _

/-- A share that splits into two has the sum of their totals. -/
theorem total_add {share left right : α → ℕ} {pool : List α}
    (h : ∀ a ∈ pool, share a = left a + right a) :
    total share pool = total left pool + total right pool := by
  induction pool with
  | nil => rfl
  | cons a pool ih =>
    have hrest := ih fun b hb => h b (List.mem_cons_of_mem a hb)
    have ha := h a List.mem_cons_self
    simp only [total, List.map_cons, List.sum_cons] at hrest ⊢
    omega

/-- Changing one party changes an integer sum by the change of its summand. -/
theorem sum_map_set (f : α → ℤ) {pool : List α} {i : ℕ} {a : α} (h : pool[i]? = some a) (b : α) :
    ((pool.set i b).map f).sum = (pool.map f).sum + (f b - f a) := by
  induction pool generalizing i with
  | nil => simp at h
  | cons c pool ih =>
    cases i with
    | zero =>
      obtain rfl : c = a := by simpa using h
      simp only [List.set_cons_zero, List.map_cons, List.sum_cons]
      omega
    | succ i =>
      have hrest := ih (by simpa using h)
      simp only [List.set_cons_succ, List.map_cons, List.sum_cons, hrest]
      omega

/-- Every counter equals the sum of the parties' shares in it. -/
def Balanced (counter : κ → ℤ) (share : κ → α → ℕ) (pool : List α) : Prop :=
  ∀ k, counter k = total (share k) pool

/-- A newcomer without shares keeps the balance. -/
theorem Balanced.concat {counter counter' : κ → ℤ} {share : κ → α → ℕ} {pool : List α}
    (h : Balanced counter share pool) {a : α} (hc : ∀ k, counter' k = counter k + share k a) :
    Balanced counter' share (pool ++ [a]) := by
  intro k
  rw [hc, h k, total_concat]
  push_cast
  rfl

/-- A party's step keeps the balance if the counters follow its shares. -/
theorem Balanced.set {counter counter' : κ → ℤ} {share : κ → α → ℕ} {pool : List α}
    (h : Balanced counter share pool) {i : ℕ} {a b : α} (hi : pool[i]? = some a)
    (hc : ∀ k, counter' k + share k a = counter k + share k b) :
    Balanced counter' share (pool.set i b) := by
  intro k
  have hk := h k
  have hck := hc k
  have hset := total_set_add (share k) hi b
  omega

end GpuSidecar.Pool
