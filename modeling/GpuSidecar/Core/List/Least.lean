import Mathlib.Order.Lattice

/-!
# The first least element of a list

A scan that replaces its candidate only by a strictly smaller element ends at the first
element of least score. Replacing one element of the list leaves that choice in place
unless the replaced element was chosen, as long as its score does not fall.
-/

namespace GpuSidecar.Choice

variable {α β : Type*} [LinearOrder β]

/-- The first element of least score. -/
inductive FirstLeast (score : α → β) : List α → α → Prop
  | head {a : α} {l : List α} (h : ∀ b ∈ l, score a ≤ score b) : FirstLeast score (a :: l) a
  | tail {a w : α} {l : List α} (h : score w < score a) (hl : FirstLeast score l w) :
      FirstLeast score (a :: l) w

namespace FirstLeast

variable {score : α → β} {l : List α} {w : α}

theorem mem (h : FirstLeast score l w) : w ∈ l := by
  induction h with
  | head => exact List.mem_cons_self
  | tail _ _ ih => exact List.mem_cons_of_mem _ ih

theorem le (h : FirstLeast score l w) : ∀ b ∈ l, score w ≤ score b := by
  induction h with
  | head h =>
    intro b hb
    rcases List.mem_cons.mp hb with rfl | hb
    · exact le_rfl
    · exact h b hb
  | tail hlt _ ih =>
    intro b hb
    rcases List.mem_cons.mp hb with rfl | hb
    · exact hlt.le
    · exact ih b hb

/-- There is at most one first least element. -/
theorem unique (h : FirstLeast score l w) {w' : α} (h' : FirstLeast score l w') : w = w' := by
  induction h with
  | head hall =>
    cases h' with
    | head => rfl
    | tail hlt hl => exact absurd hlt (not_lt.mpr (hall _ hl.mem))
  | tail hlt hl ih =>
    cases h' with
    | head hall => exact absurd hlt (not_lt.mpr (hall _ hl.mem))
    | tail _ hl' => exact ih hl'

/-- An element that is smaller than all before it and not larger than any after it. -/
theorem of_split {before after : List α} {a : α} (hbefore : ∀ b ∈ before, score a < score b)
    (hafter : ∀ b ∈ after, score a ≤ score b) : FirstLeast score (before ++ a :: after) a := by
  induction before with
  | nil => exact .head hafter
  | cons b before ih =>
    refine .tail (hbefore b List.mem_cons_self) (ih ?_)
    intro b' hb'
    exact hbefore b' (List.mem_cons_of_mem b hb')

/-- The element at a place is chosen, or the choice outlives any larger element there. -/
theorem replace {before after : List α} {a : α} (h : FirstLeast score (before ++ a :: after) w) :
    (w = a ∧ (∀ b ∈ before, score a < score b) ∧ ∀ b ∈ after, score a ≤ score b) ∨
      ∀ a', score a ≤ score a' → FirstLeast score (before ++ a' :: after) w := by
  induction before with
  | nil =>
    cases h with
    | head hall => exact Or.inl ⟨rfl, by simp, hall⟩
    | tail hlt hl => exact Or.inr fun a' ha' => .tail (hlt.trans_le ha') hl
  | cons b before ih =>
    cases h with
    | head hall =>
      right
      intro a' ha'
      refine .head fun c hc => ?_
      rcases List.mem_append.mp hc with hc | hc
      · exact hall c (List.mem_append_left _ hc)
      · rcases List.mem_cons.mp hc with rfl | hc
        · exact (hall a (by simp)).trans ha'
        · exact hall c (by simp [hc])
    | tail hlt hl =>
      rcases ih hl with ⟨rfl, hbefore, hafter⟩ | hkeep
      · refine Or.inl ⟨rfl, ?_, hafter⟩
        intro c hc
        rcases List.mem_cons.mp hc with rfl | hc
        · exact hlt
        · exact hbefore c hc
      · exact Or.inr fun a' ha' => .tail hlt (hkeep a' ha')

end FirstLeast

/-- The scan finds the first least element. -/
theorem firstLeast_foldl (score : α → β) (first : α) (rest : List α) :
    FirstLeast score (first :: rest)
      (rest.foldl (fun best b => if score b < score best then b else best) first) := by
  induction rest generalizing first with
  | nil => exact .head (by simp)
  | cons b rest ih =>
    rw [List.foldl_cons]
    split
    · next hlt =>
      have hchosen := ih b
      exact .tail ((hchosen.le b List.mem_cons_self).trans_lt hlt) hchosen
    · next hge =>
      have hle : score first ≤ score b := not_lt.mp hge
      have hchosen := ih first
      generalize rest.foldl (fun best b => if score b < score best then b else best) first = w
        at hchosen ⊢
      cases hchosen with
      | head hall =>
        refine .head fun c hc => ?_
        rcases List.mem_cons.mp hc with rfl | hc
        · exact hle
        · exact hall c hc
      | tail hlt hl => exact .tail hlt (.tail (hlt.trans_le hle) hl)

end GpuSidecar.Choice
