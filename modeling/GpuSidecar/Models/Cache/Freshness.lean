import GpuSidecar.Models.Cache.Readers
import Mathlib.Data.Int.ConditionallyCompleteOrder

/-!
# Confidence, readiness and matches

The confidence of the index falls linearly to nothing over the stale window, while the
index counts as stale only beyond it, and a call reads the clock anew for either. Away from
the end of the window the two agree: there is confidence exactly as long as the index is
ready, and nothing is matched or listed without it. At the last instant of the window, or
where the window ends during a call, the index is ready, and answers, at confidence zero.
-/

namespace GpuSidecar.Cache

open Time

namespace Index

variable {idx : Index} {now after : ℤ} {clock later : Readings}

/-! ### The two factors of confidence -/

theorem gapPenalty_mem (gaps : ℕ) : gapPenalty gaps ∈ Set.Icc 0 (3 / 4) := by
  have hnonneg : (0 : ℚ) ≤ 1 / 4 * gaps := by positivity
  rw [gapPenalty]
  split_ifs with h
  · norm_num
  · exact ⟨hnonneg, not_lt.mp h⟩

theorem freshness_eq (hwindow : 0 < idx.cfg.staleAfter) :
    idx.freshness now =
      max 0 (1 - seconds (sub now idx.lastUpdate) / seconds idx.cfg.staleAfter) := by
  rw [freshness, if_pos hwindow, max_comm, max_def_lt]

theorem freshness_le_one (hpast : idx.lastUpdate ≤ now) : idx.freshness now ≤ 1 := by
  by_cases hwindow : 0 < idx.cfg.staleAfter
  · rw [freshness_eq hwindow]
    have hage : 0 ≤ seconds (sub now idx.lastUpdate) :=
      seconds_zero ▸ seconds_le_iff.mpr (sub_nonneg_of_le hpast)
    have hshare : 0 ≤ seconds (sub now idx.lastUpdate) / seconds idx.cfg.staleAfter :=
      div_nonneg hage (seconds_pos hwindow).le
    exact max_le zero_le_one (by linarith)
  · rw [freshness, if_neg hwindow]

theorem freshness_antitone (h : now ≤ after) : idx.freshness after ≤ idx.freshness now := by
  by_cases hwindow : 0 < idx.cfg.staleAfter
  · rw [freshness_eq hwindow, freshness_eq hwindow]
    have hage := seconds_le_iff.mpr (sub_mono h idx.lastUpdate)
    exact max_le_max_left 0 (sub_le_sub_left
      (div_le_div_of_nonneg_right hage (seconds_pos hwindow).le) 1)
  · rw [freshness, freshness, if_neg hwindow, if_neg hwindow]

/-- Freshness has run out when the age has reached the stale window. -/
theorem freshness_eq_zero_iff :
    idx.freshness now = 0 ↔
      0 < idx.cfg.staleAfter ∧ idx.cfg.staleAfter ≤ sub now idx.lastUpdate := by
  by_cases hwindow : 0 < idx.cfg.staleAfter
  · rw [freshness_eq hwindow, max_eq_left_iff, sub_nonpos, one_le_div (seconds_pos hwindow),
      seconds_le_iff, and_iff_right hwindow]
  · rw [freshness, if_neg hwindow]
    simp [hwindow]

/-- The confidence of an index that is not stale is the product of its freshness and of what
the gaps leave. -/
theorem confidenceLockedAt_eq (hzero : idx.lastUpdate ≠ 0)
    (hstale : idx.isStaleLocked (clock 0) = false) :
    idx.confidenceLockedAt clock =
      idx.freshness (clock 1) * (1 - gapPenalty idx.sequenceGaps) := by
  have hgap := gapPenalty_mem idx.sequenceGaps
  have hleft : 0 ≤ 1 - gapPenalty idx.sequenceGaps := by linarith [hgap.2]
  have hnonneg := mul_nonneg (idx.freshness_nonneg (clock 1)) hleft
  rw [confidenceLockedAt, if_neg (by simp [hzero, hstale])]
  by_cases hgaps : 0 < idx.sequenceGaps
  · simp only [if_pos hgaps, if_neg (not_lt.mpr hnonneg)]
  · have hnone : gapPenalty idx.sequenceGaps = 0 := by
      rw [Nat.eq_zero_of_not_pos hgaps]
      norm_num [gapPenalty]
    simp only [if_neg hgaps, if_neg (not_lt.mpr (idx.freshness_nonneg _)), hnone, sub_zero,
      mul_one]

theorem confidenceLockedAt_mem (hpast : idx.lastUpdate ≠ 0 → idx.lastUpdate ≤ clock 1) :
    idx.confidenceLockedAt clock ∈ Set.Icc 0 1 := by
  by_cases htrust : idx.lastUpdate = 0 ∨ idx.isStaleLocked (clock 0) = true
  · rw [confidenceLockedAt, if_pos htrust]
    exact ⟨le_rfl, zero_le_one⟩
  · obtain ⟨hzero, hstale⟩ := not_or.mp htrust
    have hgap := gapPenalty_mem idx.sequenceGaps
    rw [confidenceLockedAt_eq hzero (Bool.eq_false_iff.mpr hstale)]
    refine ⟨mul_nonneg (idx.freshness_nonneg _) (by linarith [hgap.2]), ?_⟩
    exact mul_le_one₀ (freshness_le_one (hpast hzero)) (by linarith [hgap.2])
      (by linarith [hgap.1])

theorem isStaleLocked_mono (h : now ≤ after) (hstale : idx.isStaleLocked now = true) :
    idx.isStaleLocked after = true := by
  rw [isStaleLocked] at hstale ⊢
  split_ifs at hstale ⊢ with hwindow hzero
  · rfl
  · exact decide_eq_true ((of_decide_eq_true hstale).trans_le (sub_mono h idx.lastUpdate))

theorem isStaleLocked_iff (hwindow : 0 < idx.cfg.staleAfter) (hzero : idx.lastUpdate ≠ 0) :
    idx.isStaleLocked now = true ↔ idx.cfg.staleAfter < sub now idx.lastUpdate := by
  rw [isStaleLocked, if_neg (not_le.mpr hwindow), if_neg hzero, decide_eq_true_eq]

/-- Confidence only falls while no event comes in. -/
theorem confidenceLockedAt_antitone (hpast : idx.lastUpdate ≠ 0 → idx.lastUpdate ≤ clock 1)
    (h : ∀ n, clock n ≤ later n) : idx.confidenceLockedAt later ≤ idx.confidenceLockedAt clock := by
  by_cases htrust : idx.lastUpdate = 0 ∨ idx.isStaleLocked (later 0) = true
  · rw [confidenceLockedAt, if_pos htrust]
    exact (confidenceLockedAt_mem hpast).1
  · obtain ⟨hzero, hstale⟩ := not_or.mp htrust
    have hstale' : ¬ idx.isStaleLocked (clock 0) = true :=
      fun hs => hstale (isStaleLocked_mono (h 0) hs)
    have hgap := gapPenalty_mem idx.sequenceGaps
    rw [confidenceLockedAt_eq hzero (Bool.eq_false_iff.mpr hstale),
      confidenceLockedAt_eq hzero (Bool.eq_false_iff.mpr hstale')]
    exact mul_le_mul_of_nonneg_right (freshness_antitone (h 1)) (by linarith [hgap.2])

/-- There is no confidence without an event, beyond the stale limit, or once freshness has
run out. -/
theorem confidenceLockedAt_eq_zero_iff :
    idx.confidenceLockedAt clock = 0 ↔
      idx.lastUpdate = 0 ∨ idx.isStaleLocked (clock 0) = true ∨
        (0 < idx.cfg.staleAfter ∧ idx.cfg.staleAfter ≤ sub (clock 1) idx.lastUpdate) := by
  by_cases htrust : idx.lastUpdate = 0 ∨ idx.isStaleLocked (clock 0) = true
  · rw [confidenceLockedAt, if_pos htrust, ← or_assoc]
    exact iff_of_true rfl (Or.inl htrust)
  · have hgap := gapPenalty_mem idx.sequenceGaps
    have hleft : 1 - gapPenalty idx.sequenceGaps ≠ 0 := by linarith [hgap.2]
    rw [← or_assoc, or_iff_right htrust]
    obtain ⟨hzero, hstale⟩ := not_or.mp htrust
    rw [confidenceLockedAt_eq hzero (Bool.eq_false_iff.mpr hstale), mul_eq_zero_iff_right hleft,
      freshness_eq_zero_iff]

theorem confidenceLockedAt_nonneg (idx : Index) (clock : Readings) :
    0 ≤ idx.confidenceLockedAt clock := by
  rw [confidenceLockedAt]
  split
  · exact le_rfl
  · simp only
    generalize (if 0 < idx.sequenceGaps then
      idx.freshness (clock 1) * (1 - gapPenalty idx.sequenceGaps) else idx.freshness (clock 1)) =
        conf
    split
    · exact le_rfl
    · exact not_lt.mp ‹_›

/-- While the clock stands still there is confidence as long as the last event is younger than
the stale limit, if there is a limit. -/
theorem confidenceLocked_pos_iff (idx : Index) (now : ℤ) :
    0 < idx.confidenceLocked now ↔ idx.lastUpdate ≠ 0 ∧
      (idx.cfg.staleAfter ≤ 0 ∨ sub now idx.lastUpdate < idx.cfg.staleAfter) := by
  rw [confidenceLocked, (idx.confidenceLockedAt_nonneg _).lt_iff_ne', ne_eq,
    confidenceLockedAt_eq_zero_iff, not_or, not_or]
  refine and_congr_right fun hzero => ?_
  by_cases hwindow : 0 < idx.cfg.staleAfter
  · rw [isStaleLocked_iff hwindow hzero]
    omega
  · rw [isStaleLocked, if_pos (not_lt.mp hwindow)]
    simp [hwindow, not_lt.mp hwindow]

/-! ### Readiness -/

theorem snapshotMetaAt_ready (idx : Index) (clock : Readings) :
    (idx.snapshotMetaAt clock).2.ready = false ↔
      idx.lastUpdate = 0 ∨ idx.isStaleLocked (clock 0) = true := by
  have hready : (idx.snapshotMetaAt clock).2.ready =
      (!idx.isStaleLocked (clock 0) && decide (idx.lastUpdate ≠ 0)) := by
    rw [snapshotMetaAt]
    split <;> rfl
  rw [hready, Bool.and_eq_false_iff, Bool.not_eq_false', decide_eq_false_iff_not, not_not,
    or_comm]

theorem snapshotMetaAt_confidence (idx : Index) (clock : Readings) :
    (idx.snapshotMetaAt clock).2.confidence =
      idx.confidenceLockedAt fun n => clock (n + 1) := by
  rw [snapshotMetaAt]
  split <;> rfl

/-- The readings of a call begin within the stale window and come to its end. -/
def ReachesLimit (idx : Index) (clock : Readings) : Prop :=
  idx.lastUpdate ≠ 0 ∧ 0 < idx.cfg.staleAfter ∧
    sub (clock 0) idx.lastUpdate ≤ idx.cfg.staleAfter ∧
    idx.cfg.staleAfter ≤ sub (clock 2) idx.lastUpdate

/-- What the published trust in the index promises of calls with the given readings. -/
structure TrustAgrees (idx : Index) (clock : Readings) : Prop where
  range : idx.confidenceLockedAt clock ∈ Set.Icc 0 1
  decays : ∀ later : Readings, (∀ n, clock n ≤ later n) →
    idx.confidenceLockedAt later ≤ idx.confidenceLockedAt clock
  ready : (idx.snapshotMetaAt clock).2.confidence = 0 ↔ (idx.snapshotMetaAt clock).2.ready = false
  matched : ∀ key, 0 < (idx.lookupKeyAt clock key).1 → (idx.lookupKeyAt clock key).2.1 ≠ 0
  listed : ∀ later : Readings, (∀ n, clock n ≤ later n) → ∀ order max,
    (idx.snapshotMetaAt clock).2.confidence = 0 → idx.directoryAt later order max = ∅

/-- An index that is stale has a stale window. -/
theorem staleAfter_pos (hstale : idx.isStaleLocked now = true) : 0 < idx.cfg.staleAfter := by
  by_contra hwindow
  rw [isStaleLocked, if_pos (not_lt.mp hwindow)] at hstale
  exact Bool.false_ne_true hstale

/-- A snapshot is without confidence exactly if it is not ready, unless its readings come to
the end of the stale window. -/
theorem confidence_eq_zero_iff_not_ready (hmono : Monotone clock)
    (hlimit : ¬ idx.ReachesLimit clock) :
    (idx.snapshotMetaAt clock).2.confidence = 0 ↔
      (idx.snapshotMetaAt clock).2.ready = false := by
  rw [snapshotMetaAt_confidence, confidenceLockedAt_eq_zero_iff, snapshotMetaAt_ready]
  constructor
  · rintro (hzero | hlate)
    · exact Or.inl hzero
    · by_cases hzero : idx.lastUpdate = 0
      · exact Or.inl hzero
      · -- Either reading is at or beyond the limit, hence so is the third one of the call.
        obtain ⟨hwindow, hage⟩ : 0 < idx.cfg.staleAfter ∧
            idx.cfg.staleAfter ≤ sub (clock 2) idx.lastUpdate := by
          rcases hlate with hstale | hrunOut
          · have hwindow := staleAfter_pos hstale
            have hbeyond := (isStaleLocked_iff hwindow hzero).mp hstale
            exact ⟨hwindow, hbeyond.le.trans (sub_mono (hmono (by decide)) _)⟩
          · exact hrunOut
        refine Or.inr ((isStaleLocked_iff hwindow hzero).mpr ?_)
        by_contra hfirst
        exact hlimit ⟨hzero, hwindow, not_lt.mp hfirst, hage⟩
  · rintro (hzero | hstale)
    · exact Or.inl hzero
    · exact Or.inr (Or.inl (isStaleLocked_mono (hmono (Nat.zero_le _)) hstale))

/-- A lookup that matches finds an entry in an index that is not stale, with the confidence
of a snapshot. -/
theorem lookupKeyAt_of_pos {key : String} (hpos : 0 < (idx.lookupKeyAt clock key).1) :
    idx.isStaleLocked (clock 0) = false ∧ idx.entries ≠ ∅ ∧
      (idx.lookupKeyAt clock key).2.1 = (idx.snapshotMetaAt clock).2.confidence := by
  cases hstale : idx.isStaleLocked (clock 0) with
  | true => simp [lookupKeyAt, hstale] at hpos
  | false =>
    cases hlookup : idx.lookupKeyLocked (clock 3) key with
    | mk tokens present =>
      cases present with
      | false => simp [lookupKeyAt, hstale, hlookup] at hpos
      | true =>
        refine ⟨rfl, ?_, ?_⟩
        · intro hempty
          rw [lookupKeyLocked_eq, hempty] at hlookup
          cases hlookup
        · rw [snapshotMetaAt_confidence]
          simp [lookupKeyAt, hstale, hlookup]

/-- Trust, readiness and matches agree unless the readings of a call come to the end of the
stale window. -/
theorem trustAgrees_iff_not_reachesLimit (hempty : idx.lastUpdate = 0 → idx.entries = ∅)
    (hmono : Monotone clock) (hpast : idx.lastUpdate ≠ 0 → idx.lastUpdate ≤ clock 0) :
    idx.TrustAgrees clock ↔ ¬ idx.ReachesLimit clock := by
  constructor
  · rintro h ⟨hzero, hwindow, hfirst, hage⟩
    have hnone : (idx.snapshotMetaAt clock).2.confidence = 0 := by
      rw [snapshotMetaAt_confidence, confidenceLockedAt_eq_zero_iff]
      exact Or.inr (Or.inr ⟨hwindow, hage⟩)
    rcases (snapshotMetaAt_ready idx clock).mp (h.ready.mp hnone) with hz | hstale
    · exact hzero hz
    · exact absurd ((isStaleLocked_iff hwindow hzero).mp hstale) (not_lt.mpr hfirst)
  · intro hlimit
    have hready := confidence_eq_zero_iff_not_ready hmono hlimit
    have hpast' : idx.lastUpdate ≠ 0 → idx.lastUpdate ≤ clock 1 :=
      fun hzero => (hpast hzero).trans (hmono (Nat.zero_le _))
    refine ⟨confidenceLockedAt_mem hpast', fun later => confidenceLockedAt_antitone hpast',
      hready, ?_, ?_⟩
    · intro key hpos hnone
      obtain ⟨hstale, hentries, hconf⟩ := lookupKeyAt_of_pos hpos
      rw [hconf, hready, snapshotMetaAt_ready] at hnone
      rcases hnone with hzero | hstale'
      · exact hentries (hempty hzero)
      · exact Bool.false_ne_true (hstale.symm.trans hstale')
    · intro later hlater order max hnone
      rw [directoryAt, if_pos]
      rcases (snapshotMetaAt_ready idx clock).mp (hready.mp hnone) with hzero | hstale
      · exact Or.inr hzero
      · exact Or.inl (isStaleLocked_mono (hlater 0) hstale)

end Index

/-- In every state that events and snapshots lead to, and for calls with any non-decreasing
readings of the clock from the last of them on, trust, readiness and matches agree if and only
if the readings of a call do not begin within the stale window and come to its end. -/
theorem trustAgrees_of_reachable_iff (cfg : IndexConfig) (start : ℤ) (us : List IndexUse)
    (clock : Readings) (hmono : Monotone clock)
    (hclock : ∀ u ∈ us, u.now ≠ 0 ∧ u.now ≤ clock 0) :
    ((newIndex cfg start).uses us).TrustAgrees clock ↔
      ¬ ((newIndex cfg start).uses us).ReachesLimit clock :=
  Index.trustAgrees_iff_not_reachesLimit
    (Index.entries_of_no_event cfg start fun u hu => (hclock u hu).1) hmono
    (Index.lastUpdate_le cfg start fun u hu => (hclock u hu).2)

/-- One store, at the first instant. -/
def oneStore : List IndexUse := [.call (.store 1 (.stored _) 1 "a" "" 16 16)]

/-- A second after its only event the index is trusted, and matches with confidence, while
the clock moves on by a nanosecond from one reading to the next. -/
theorem oneStore_trustAgrees : ((newIndex defaultIndexConfig 0).uses oneStore).TrustAgrees
    fun n => 1000000001 + n := by
  refine (trustAgrees_of_reachable_iff defaultIndexConfig 0 oneStore (fun n => 1000000001 + n)
    (fun m n h => by simpa using h) (by decide +kernel)).mpr ?_
  rintro ⟨-, -, -, hage⟩
  revert hage
  decide +kernel

/-- A clock that passes the end of the stale window after its first reading. -/
def passingLimit : Readings := fun n => if n = 0 then 30000000000 else 30000000002

/-- Thirty seconds after its only event the index is ready, answers a lookup and lists a
directory, all at confidence zero; so it is if the thirty seconds end during a snapshot. -/
theorem oneStore_atLimit :
    let idx := (newIndex defaultIndexConfig 0).uses oneStore
    ((idx.snapshotMeta 30000000001).2.ready = true ∧
      (idx.snapshotMeta 30000000001).2.confidence = 0 ∧
      idx.lookupKey 30000000001 "a" = (16, 0, 30000) ∧
      (idx.directory 30000000001 (.stored _) 10).lookup "a" = some 16 ∧
      ¬ idx.TrustAgrees fun _ => 30000000001) ∧
    (idx.snapshotMetaAt passingLimit).2.ready = true ∧
      (idx.snapshotMetaAt passingLimit).2.confidence = 0 ∧
      ¬ idx.TrustAgrees passingLimit := by
  intro idx
  have hready : (idx.snapshotMeta 30000000001).2.ready = true := by decide +kernel
  have hconf : (idx.snapshotMeta 30000000001).2.confidence = 0 := by decide +kernel
  have hready' : (idx.snapshotMetaAt passingLimit).2.ready = true := by decide +kernel
  have hconf' : (idx.snapshotMetaAt passingLimit).2.confidence = 0 := by decide +kernel
  refine ⟨⟨hready, hconf, by decide +kernel, by decide +kernel, fun h => ?_⟩, hready', hconf',
    fun h => ?_⟩
  · exact Bool.false_ne_true ((h.ready.mp hconf).symm.trans hready)
  · exact Bool.false_ne_true ((h.ready.mp hconf').symm.trans hready')

end GpuSidecar.Cache
