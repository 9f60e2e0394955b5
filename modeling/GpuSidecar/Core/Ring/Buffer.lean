import GpuSidecar.Core.List.Window
import GpuSidecar.Core.Run.Guarded
import Mathlib.Data.PNat.Notation

/-!
# Ring buffers

A ring buffer of fixed positive capacity overwrites its oldest value once it is
full. The structure carries what keeps every index in range. Its contents, read
from the oldest value to the newest, are the most recent values that were pushed,
as many as the capacity allows.
-/

namespace GpuSidecar

/-- A ring buffer: the next slot to write, and how many slots hold a value. -/
structure RingBuffer (α : Type*) where
  buf : List α
  head : ℕ
  size : ℕ
  cap : ℕ
  length_buf : buf.length = cap
  head_lt : head < cap
  size_le : size ≤ cap

namespace RingBuffer

variable {α : Type*}

/-- A buffer of which no slot holds a value yet. -/
def new [Inhabited α] (capacity : ℕ+) : RingBuffer α where
  buf := List.replicate capacity default
  head := 0
  size := 0
  cap := capacity
  length_buf := List.length_replicate
  head_lt := capacity.2
  size_le := Nat.zero_le _

theorem cap_pos (r : RingBuffer α) : 0 < r.cap := Nat.zero_lt_of_lt r.head_lt

/-- Writes the next slot and moves on, over the oldest value if the buffer is full. -/
def push (r : RingBuffer α) (v : α) : RingBuffer α where
  buf := r.buf.set r.head v
  head := (r.head + 1) % r.cap
  size := if r.size < r.cap then r.size + 1 else r.size
  cap := r.cap
  length_buf := by rw [List.length_set, r.length_buf]
  head_lt := Nat.mod_lt _ r.cap_pos
  size_le := by
    split
    · assumption
    · exact r.size_le

/-- The slot that an index falls on. -/
def slot (r : RingBuffer α) (k : ℕ) : Fin r.buf.length :=
  ⟨k % r.cap, by rw [r.length_buf]; exact Nat.mod_lt k r.cap_pos⟩

/-- The slot of the oldest value. -/
def start (r : RingBuffer α) : ℕ := (r.head + r.cap - r.size) % r.cap

/-- The values that the buffer holds, the oldest first. -/
def items (r : RingBuffer α) : List α :=
  (List.range r.size).map fun i => r.buf.get (r.slot (r.start + i))

@[simp] theorem length_items (r : RingBuffer α) : r.items.length = r.size := by
  simp [items]

@[simp] theorem cap_push (r : RingBuffer α) (v : α) : (r.push v).cap = r.cap := rfl

/-- Indices less than one revolution apart fall on different slots. -/
theorem mod_ne_of_lt {c k i n : ℕ} (hi : i < n) (hn : n < c) : (k + i) % c ≠ (k + n) % c := by
  intro h
  have hmod : (k + n - (k + i)) % c = 0 := Nat.sub_mod_eq_zero_of_mod_eq h.symm
  rw [show k + n - (k + i) = n - i by omega, Nat.mod_eq_of_lt (by omega)] at hmod
  omega

/-- The slot to write next lies behind the values that the buffer holds. -/
theorem start_add_size (r : RingBuffer α) : (r.start + r.size) % r.cap = r.head := by
  have hle := r.size_le
  rw [start, Nat.mod_add_mod, show r.head + r.cap - r.size + r.size = r.head + r.cap by omega,
    Nat.add_mod_right, Nat.mod_eq_of_lt r.head_lt]

/-- While there is room, a push leaves the oldest value in its slot. -/
theorem start_push_of_lt {r : RingBuffer α} (h : r.size < r.cap) (v : α) :
    (r.push v).start = r.start := by
  have hhead := r.head_lt
  simp only [start, push, if_pos h]
  by_cases hlast : r.head + 1 = r.cap
  · rw [hlast, Nat.mod_self, ← Nat.add_mod_right]
    congr 1
    omega
  · rw [Nat.mod_eq_of_lt (show r.head + 1 < r.cap by omega)]
    congr 1
    omega

/-- In a full buffer the oldest value lies in the slot to write next. -/
theorem start_of_full {r : RingBuffer α} (h : r.size = r.cap) : r.start = r.head := by
  rw [start, h, Nat.add_sub_cancel, Nat.mod_eq_of_lt r.head_lt]

/-- Reading a slot of the buffer after a push. -/
theorem get_push (r : RingBuffer α) (v : α) (k : ℕ) :
    (r.push v).buf.get ((r.push v).slot k) =
      if k % r.cap = r.head then v else r.buf.get (r.slot k) := by
  simp only [push, slot, List.get_eq_getElem, List.getElem_set, eq_comm]

theorem size_push_of_lt {r : RingBuffer α} (h : r.size < r.cap) (v : α) :
    (r.push v).size = r.size + 1 := if_pos h

/-- While there is room, a push adds the new value behind the others. -/
theorem items_push_of_lt {r : RingBuffer α} (h : r.size < r.cap) (v : α) :
    (r.push v).items = r.items ++ [v] := by
  rw [items, size_push_of_lt h, List.range_succ, List.map_append, List.map_singleton,
    start_push_of_lt h, get_push, if_pos r.start_add_size, items]
  congr 1
  apply List.map_congr_left
  intro i hi
  have hne := mod_ne_of_lt (k := r.start) (List.mem_range.mp hi) h
  rw [r.start_add_size] at hne
  rw [get_push, if_neg hne]

/-- In a full buffer the new value takes the place of the oldest one. -/
theorem items_push_of_full {r : RingBuffer α} (h : r.size = r.cap) (v : α) :
    (r.push v).items = r.items.tail ++ [v] := by
  obtain ⟨n, hn⟩ : ∃ n, r.cap = n + 1 := ⟨r.cap - 1, by have := r.cap_pos; omega⟩
  have hsize : (r.push v).size = n + 1 := by
    rw [← hn, ← h]
    exact if_neg (by omega)
  have hfull : (r.push v).size = (r.push v).cap := by rw [hsize, cap_push, hn]
  have hstart : ∀ i, ((r.push v).start + i) % r.cap = (r.head + (i + 1)) % r.cap := by
    intro i
    rw [start_of_full hfull, push, Nat.mod_add_mod, Nat.add_assoc, Nat.add_comm 1 i]
  have hlast : ((r.push v).start + n) % r.cap = r.head := by
    rw [hstart, ← hn, Nat.add_mod_right, Nat.mod_eq_of_lt r.head_lt]
  rw [items, hsize, List.range_succ, List.map_append, List.map_singleton, get_push, if_pos hlast,
    items, h.trans hn, List.range_succ_eq_map, List.map_cons, List.tail_cons, List.map_map]
  congr 1
  apply List.map_congr_left
  intro i hi
  have hne : (r.head + (i + 1)) % r.cap ≠ r.head := by
    have := mod_ne_of_lt (c := r.cap) (k := r.head) (Nat.succ_pos i)
      (by have := List.mem_range.mp hi; omega)
    rwa [Nat.add_zero, Nat.mod_eq_of_lt r.head_lt, ne_comm] at this
  rw [get_push, hstart, if_neg hne]
  simp only [slot, hstart, Function.comp_apply, start_of_full h]

/-- The contents are the most recent values, as many as the capacity allows. -/
theorem items_push (r : RingBuffer α) (v : α) :
    (r.push v).items = (r.items ++ [v]).rtake r.cap := by
  rcases Nat.lt_or_eq_of_le r.size_le with h | h
  · have hroom : (r.items ++ [v]).length ≤ r.cap := by
      rw [List.length_append, length_items, List.length_singleton]
      exact h
    rw [items_push_of_lt h, Window.rtake_of_length_le hroom]
  · rw [items_push_of_full h, List.rtake, List.length_append, length_items, List.length_singleton,
      h, Nat.add_sub_cancel_left, List.drop_one, List.tail_append_of_ne_nil]
    intro hnil
    have hlen := r.length_items
    rw [hnil, h] at hlen
    exact absurd hlen.symm (Nat.ne_of_gt r.cap_pos)

@[simp] theorem cap_foldl_push (r : RingBuffer α) (vs : List α) :
    (vs.foldl push r).cap = r.cap :=
  Run.foldl_unchanged cap_push r vs

/-- After any pushes the contents are the most recent of the old contents and the pushed
values. -/
theorem items_foldl_push (r : RingBuffer α) (vs : List α) :
    (vs.foldl push r).items = (r.items ++ vs).rtake r.cap := by
  induction vs using List.reverseRecOn with
  | nil =>
    have hle : r.items.length ≤ r.cap := r.length_items.trans_le r.size_le
    rw [List.foldl_nil, List.append_nil, Window.rtake_of_length_le hle]
  | append_singleton vs v ih =>
    rw [List.foldl_append, List.foldl_cons, List.foldl_nil, items_push, ih, cap_foldl_push,
      Window.rtake_rtake_append, List.append_assoc]

/-- Values for which there is room are added behind the others, in order. -/
theorem items_foldl_push_of_le {r : RingBuffer α} {vs : List α} (h : r.size + vs.length ≤ r.cap) :
    (vs.foldl push r).items = r.items ++ vs := by
  have hle : (r.items ++ vs).length ≤ r.cap := by rwa [List.length_append, length_items]
  rw [items_foldl_push, Window.rtake_of_length_le hle]

@[simp] theorem items_new [Inhabited α] (capacity : ℕ+) :
    (new capacity : RingBuffer α).items = [] := rfl

/-- The newest value is the one pushed last. -/
@[simp] theorem getLast?_items_push (r : RingBuffer α) (v : α) :
    (r.push v).items.getLast? = some v := by
  obtain ⟨n, hn⟩ : ∃ n, r.cap = n + 1 := ⟨r.cap - 1, by have := r.cap_pos; omega⟩
  rw [items_push, hn, List.rtake_concat_succ, List.getLast?_concat]

end RingBuffer

end GpuSidecar
