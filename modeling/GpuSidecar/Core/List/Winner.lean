import Mathlib.Data.List.Forall2
import Mathlib.Order.Lattice

/-!
# Winning keys

A list is searched for the element of least score, and equal scores are decided by
the key. The winner is described by its key alone, so several elements may carry it.
A key keeps winning when its elements only improve and all others only get worse,
whether elements of other keys leave the list or not.
-/

namespace GpuSidecar.Choice

section

variable {α β κ : Type*} [LinearOrder β] [LinearOrder κ]

/-- An element with the key beats every element with another key. -/
def Wins (score : α → β) (key : α → κ) (l : List α) (k : κ) : Prop :=
  ∃ b ∈ l, key b = k ∧
    ∀ c ∈ l, key c ≠ k → score b < score c ∨ score b = score c ∧ k < key c

theorem Wins.mono {score score' : α → β} {key : α → κ} {l l' : List α} {k : κ}
    (h : Wins score key l k)
    (hself : ∀ b ∈ l, key b = k → ∃ b' ∈ l', key b' = k ∧ score' b' ≤ score b)
    (hother : ∀ c' ∈ l', key c' ≠ k → ∃ c ∈ l, key c = key c' ∧ score c ≤ score' c') :
    Wins score' key l' k := by
  obtain ⟨b, hb, hkey, hbeats⟩ := h
  obtain ⟨b', hb', hkey', hbetter⟩ := hself b hb hkey
  refine ⟨b', hb', hkey', ?_⟩
  intro c' hc' hne
  obtain ⟨c, hc, hsame, hworse⟩ := hother c' hc' hne
  rcases hbeats c hc (hsame ▸ hne) with hlt | ⟨heq, hk⟩
  · exact Or.inl ((hbetter.trans_lt hlt).trans_le hworse)
  · rcases (hbetter.trans (heq.le.trans hworse)).lt_or_eq with hlt | htie
    · exact Or.inl hlt
    · exact Or.inr ⟨htie, hsame ▸ hk⟩

end

section

variable {α β : Type*} {R : α → β → Prop} {l : List α} {l' : List β}

theorem exists_related_left (h : List.Forall₂ R l l') {a : α} (ha : a ∈ l) :
    ∃ b ∈ l', R a b := by
  induction h with
  | nil => cases ha
  | @cons a' b l l' hab hrest ih =>
    rcases List.mem_cons.mp ha with rfl | ha
    · exact ⟨b, List.mem_cons_self, hab⟩
    · obtain ⟨b', hb', hR⟩ := ih ha
      exact ⟨b', List.mem_cons_of_mem b hb', hR⟩

theorem exists_related_right (h : List.Forall₂ R l l') {b : β} (hb : b ∈ l') :
    ∃ a ∈ l, R a b :=
  exists_related_left h.flip hb

end

end GpuSidecar.Choice
