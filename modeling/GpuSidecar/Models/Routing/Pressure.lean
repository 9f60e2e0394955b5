import GpuSidecar.Core.List.Least
import GpuSidecar.Models.Routing.Policy
import Mathlib.Algebra.Order.Field.Basic
import Mathlib.Tactic.Positivity

/-!
# Stability scores and pressure

The health-gated policy divides the load of a backend by its stability score, so that a
less stable backend counts as more loaded. A score of zero is not divided by: the load
then counts as it is, like that of a fully stable backend. Lowering a score therefore
takes no traffic away from another backend, except when it falls to zero and the bare
load is the least pressure of all.
-/

namespace GpuSidecar.Routing

open Choice

/-- The load of a backend before its stability counts. -/
def load (b : BackendState) : ℚ :=
  (b.queueDepth + b.queueInflight : ℤ) + b.runtimeWaiting + b.runtimeRunning + 4 * b.kvCacheUtil

theorem pressure_eq (b : BackendState) :
    pressure b = if 0 < b.stabilityScore then load b / b.stabilityScore else load b := rfl

/-- The loads of a backend are not negative, and its score is one of `[0, 1]`. -/
structure WithinRange (b : BackendState) : Prop where
  queueDepth : 0 ≤ b.queueDepth
  queueInflight : 0 ≤ b.queueInflight
  runtimeWaiting : 0 ≤ b.runtimeWaiting
  runtimeRunning : 0 ≤ b.runtimeRunning
  kvCacheUtil : 0 ≤ b.kvCacheUtil
  score_nonneg : 0 ≤ b.stabilityScore
  score_le : b.stabilityScore ≤ 1

/-- A backend with another score. -/
def BackendState.withScore (b : BackendState) (score : ℚ) : BackendState :=
  { b with stabilityScore := score }

theorem WithinRange.load_nonneg {b : BackendState} (h : WithinRange b) : 0 ≤ load b := by
  have hqueue : (0 : ℚ) ≤ (b.queueDepth + b.queueInflight : ℤ) :=
    Int.cast_nonneg (add_nonneg h.queueDepth h.queueInflight)
  have hwaiting := h.runtimeWaiting
  have hrunning := h.runtimeRunning
  have hutil := h.kvCacheUtil
  rw [load]
  positivity

/-- A score that is lowered and stays positive adds pressure. -/
theorem WithinRange.pressure_le_withScore {b : BackendState} (h : WithinRange b) {score : ℚ}
    (hpos : 0 < score) (hle : score ≤ b.stabilityScore) :
    pressure b ≤ pressure (b.withScore score) := by
  have hnew : pressure (b.withScore score) = load b / score := if_pos hpos
  rw [pressure_eq, if_pos (hpos.trans_le hle), hnew]
  exact div_le_div_of_nonneg_left h.load_nonneg hpos hle

/-- A score of zero leaves the bare load. -/
theorem pressure_withScore_zero (b : BackendState) : pressure (b.withScore 0) = load b := by
  have hscore : ¬ 0 < (b.withScore 0).stabilityScore := lt_irrefl (0 : ℚ)
  rw [pressure_eq, if_neg hscore]
  rfl

theorem WithinRange.load_le_pressure {b : BackendState} (h : WithinRange b) :
    load b ≤ pressure b := by
  rw [pressure_eq]
  split
  · next hpos => exact le_div_self h.load_nonneg hpos h.score_le
  · exact le_rfl

/-- The health-gated policy chooses the first eligible backend of least pressure. -/
theorem healthGated_selects_iff (env : SelectEnv) (req : RequestFeatures) (snap : BackendSnapshot)
    (id : String) :
    (Policy.healthGatedLeastPressure.selectBackend env req snap).map RouteDecision.backendID =
        some id ↔
      ∃ b, FirstLeast pressure (eligible snap) b ∧ b.id = id := by
  rw [Policy.selectBackend]
  cases eligible snap with
  | nil =>
    refine iff_of_false (by simp) ?_
    rintro ⟨b, hb, -⟩
    cases hb
  | cons first rest =>
    have hchosen : FirstLeast pressure (first :: rest) (leastBy pressure first rest) :=
      firstLeast_foldl pressure first rest
    simp only [Option.map_some, Option.some.injEq]
    constructor
    · intro hid
      exact ⟨_, hchosen, hid⟩
    · rintro ⟨b, hb, rfl⟩
      rw [hb.unique hchosen]
      rfl

theorem accepts_withScore (b : BackendState) (score : ℚ) :
    accepts (b.withScore score) = accepts b := rfl

/-- On a snapshot of eligible backends, a backend stays selected when the score of another one
is lowered, unless that score falls to zero from a positive value and the bare load of
the other backend is then the first least pressure. -/
theorem selected_lowered_iff (env : SelectEnv) (req : RequestFeatures)
    (before after : List BackendState) (c : BackendState) (score : ℚ) (id : String)
    (heligible : ∀ b ∈ before ++ c :: after, accepts b = true) (hc : WithinRange c)
    (hscore : 0 ≤ score) (hlower : score ≤ c.stabilityScore) (hother : c.id ≠ id)
    (hselected : (Policy.healthGatedLeastPressure.selectBackend env req
      ⟨before ++ c :: after⟩).map RouteDecision.backendID = some id) :
    (Policy.healthGatedLeastPressure.selectBackend env req
        ⟨before ++ c.withScore score :: after⟩).map RouteDecision.backendID = some id ↔
      ¬ (score = 0 ∧ 0 < c.stabilityScore ∧ (∀ b ∈ before, load c < pressure b) ∧
        ∀ b ∈ after, load c ≤ pressure b) := by
  have hall : eligible ⟨before ++ c :: after⟩ = before ++ c :: after :=
    List.filter_eq_self.mpr heligible
  have hall' : eligible ⟨before ++ c.withScore score :: after⟩ =
      before ++ c.withScore score :: after := by
    refine List.filter_eq_self.mpr fun b hb => ?_
    rcases List.mem_append.mp hb with hb | hb
    · exact heligible b (by simp [hb])
    · rcases List.mem_cons.mp hb with rfl | hb
      · rw [accepts_withScore]
        exact heligible c (by simp)
      · exact heligible b (by simp [hb])
  rw [healthGated_selects_iff, hall] at hselected
  rw [healthGated_selects_iff, hall']
  obtain ⟨w, hw, rfl⟩ := hselected
  have hkeep := hw.replace.resolve_left fun h => hother (h.1 ▸ rfl)
  rcases hscore.eq_or_lt with rfl | hpos
  · rcases hlower.eq_or_lt with hzero | hdrop
    · -- the score was zero before
      have hsame : c.withScore 0 = c := by rw [hzero]; rfl
      refine iff_of_true ⟨w, hsame ▸ hw, rfl⟩ ?_
      rintro ⟨-, hpositive, -⟩
      exact hpositive.ne hzero
    · have hbare := pressure_withScore_zero c
      constructor
      · rintro ⟨w', hw', hid⟩ ⟨-, -, hbefore, hafter⟩
        rw [← hbare] at hbefore hafter
        rw [hw'.unique (FirstLeast.of_split hbefore hafter)] at hid
        exact hother hid
      · intro hnot
        have hne : before ++ c.withScore 0 :: after ≠ [] := by simp
        obtain ⟨first, rest, hlist⟩ := List.exists_cons_of_ne_nil hne
        have hchosen := firstLeast_foldl pressure first rest
        rw [← hlist] at hchosen
        rcases hchosen.replace with ⟨-, hbefore, hafter⟩ | hback
        · rw [hbare] at hbefore hafter
          exact absurd ⟨rfl, hdrop, hbefore, hafter⟩ hnot
        · have hle : pressure (c.withScore 0) ≤ pressure c := hbare ▸ hc.load_le_pressure
          exact ⟨_, hchosen, by rw [(hback c hle).unique hw]⟩
  · refine iff_of_true ⟨w, hkeep _ (hc.pressure_le_withScore hpos hlower), rfl⟩ ?_
    rintro ⟨hzero, -⟩
    exact hpos.ne' hzero

/-- Two idle backends with a queue each, the second one with a score of its own. -/
def queuedPair (score : ℚ) : BackendSnapshot :=
  ⟨[{ idleBackend "a" with queueDepth := 3 },
    { idleBackend "b" with queueDepth := 2, stabilityScore := score }]⟩

/-- A score that falls from one half to one tenth keeps the first backend selected. -/
theorem queuedPair_selected_lowered :
    (Policy.healthGatedLeastPressure.selectBackend ⟨0, none⟩ ⟨false, 0, 0, "", 0, false⟩
      (queuedPair (1 / 10))).map RouteDecision.backendID = some "a" := by
  refine (selected_lowered_iff ⟨0, none⟩ ⟨false, 0, 0, "", 0, false⟩
    [{ idleBackend "a" with queueDepth := 3 }] []
    { idleBackend "b" with queueDepth := 2, stabilityScore := 1 / 2 } (1 / 10) "a"
    (by decide +kernel) ⟨?_, ?_, ?_, ?_, ?_, ?_, ?_⟩ ?_ ?_ ?_ ?_).mpr ?_ <;>
    decide +kernel

/-- A score that falls from one half to zero hands the traffic over to that backend. -/
theorem queuedPair_unread_attracts :
    (∀ b ∈ (queuedPair (1 / 2)).backends, accepts b = true ∧ WithinRange b) ∧
      (Policy.healthGatedLeastPressure.selectBackend ⟨0, none⟩ ⟨false, 0, 0, "", 0, false⟩
        (queuedPair (1 / 2))).map RouteDecision.backendID = some "a" ∧
      (Policy.healthGatedLeastPressure.selectBackend ⟨0, none⟩ ⟨false, 0, 0, "", 0, false⟩
        (queuedPair 0)).map RouteDecision.backendID = some "b" := by
  refine ⟨?_, by decide +kernel, by decide +kernel⟩
  intro b hb
  rcases List.mem_pair.mp hb with rfl | rfl
  · refine ⟨by decide +kernel, ⟨?_, ?_, ?_, ?_, ?_, ?_, ?_⟩⟩ <;> decide +kernel
  · refine ⟨by decide +kernel, ⟨?_, ?_, ?_, ?_, ?_, ?_, ?_⟩⟩ <;> decide +kernel

end GpuSidecar.Routing
