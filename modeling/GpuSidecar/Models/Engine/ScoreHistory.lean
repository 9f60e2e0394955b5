import GpuSidecar.Core.Signal.Smoothing
import GpuSidecar.Models.Engine.Stability
import Mathlib.Analysis.Complex.Exponential

/-!
# The stability score over whole histories

The unsmoothed score is a sum of seven component scores with non-negative weights, each
antitone in what it penalises. The smoothing follows it downwards faster than upwards,
which makes an update monotone in the old score and in the unsmoothed one together. Both
facts carry over to histories by induction: a device that is at every step no better off
than another never has the higher score.

The numbers are those of any ordered field, so the results hold of the rationals the
supervisor's model computes with and of the reals alike.
-/

namespace GpuSidecar.Engine

variable {K : Type} [Field K] [LinearOrder K]

/-- The calculator after a history of readings, each with its time. -/
def StabilityCalc.run (exp : K → K) (s : StabilityCalc K)
    (history : List (StabilityInputs K × ℤ)) : StabilityCalc K :=
  history.foldl (fun s reading => (s.update exp reading.1 reading.2).1) s

/-- The scores published along a history. -/
def StabilityCalc.published (exp : K → K) (s : StabilityCalc K) :
    List (StabilityInputs K × ℤ) → List (StabilityScore K)
  | [] => []
  | reading :: history =>
    let (s, score) := s.update exp reading.1 reading.2
    score :: s.published exp history

/-- A decay: what is asked of the function in the exponential's place, which is only
applied to penalties with a negative sign. -/
structure Decay (exp : K → K) : Prop where
  mono : ∀ x y, x ≤ y → y ≤ 0 → exp x ≤ exp y
  pos : ∀ x ≤ 0, 0 < exp x
  le_one : ∀ x ≤ 0, exp x ≤ 1
  zero : exp 0 = 1

/-- The second reading is no better than the first in any signal. Latencies are compared
by the ratio of their percentiles, which the code forms from positive ones only. -/
structure StabilityInputs.NoBetter (a b : StabilityInputs K) : Prop where
  availability : b.recentAvailability ≤ a.recentAvailability
  failures : a.consecutiveFailures ≤ b.consecutiveFailures
  disconnects : a.disconnectsInWindow ≤ b.disconnectsInWindow
  recovery : a.lastRecoveryMs ≤ b.lastRecoveryMs
  errors : a.errorCountDelta ≤ b.errorCountDelta
  p50 : 0 < a.latencyP50Ms ∧ 0 < b.latencyP50Ms
  p95 : 0 < a.latencyP95Ms ∧ 0 < b.latencyP95Ms
  ratio : a.latencyP95Ms / a.latencyP50Ms ≤ b.latencyP95Ms / b.latencyP50Ms
  variance : a.throughputVariance ≤ b.throughputVariance
  exits : a.confirmedAbnormalWorkerExits ≤ b.confirmedAbnormalWorkerExits
  ooms : a.confirmedOOMEvents ≤ b.confirmedOOMEvents
  restarts : a.rapidRestartEvents ≤ b.rapidRestartEvents

section clamp

variable [IsStrictOrderedRing K]

theorem clamp01_eq (x : K) : clamp01 x = max 0 (min x 1) := by
  rw [clamp01]
  split_ifs with h0 h1
  · rw [max_eq_left ((min_le_left x 1).trans h0.le)]
  · rw [min_eq_right h1.le, max_eq_right zero_le_one]
  · rw [min_eq_left (not_lt.mp h1), max_eq_right (not_lt.mp h0)]

theorem clamp01_mono {x y : K} (h : x ≤ y) : clamp01 x ≤ clamp01 y := by
  rw [clamp01_eq, clamp01_eq]
  exact max_le_max_left 0 (min_le_min_right 1 h)

theorem clamp01_mem (x : K) : clamp01 x ∈ Set.Icc 0 1 := by
  rw [clamp01_eq]
  exact ⟨le_max_left _ _, max_le zero_le_one (min_le_right _ _)⟩

theorem clamp01_of_mem {x : K} (h : x ∈ Set.Icc 0 1) : clamp01 x = x := by
  rw [clamp01_eq, min_eq_left h.2, max_eq_right h.1]

end clamp

section decay

variable {exp : K → K} (hexp : Decay exp)
include hexp

/-- Charging nothing for a count of zero is charging for it: the decay is 1 there. -/
theorem charge_eq (rate : K) (n : ℕ) (score : K) :
    charge exp rate n score = score * exp (-rate * n) := by
  rw [charge]
  split_ifs with hn
  · rfl
  · rw [Nat.eq_zero_of_not_pos hn, Nat.cast_zero, mul_zero, hexp.zero, mul_one]

variable [IsStrictOrderedRing K]

theorem Decay.count_mono (rate : K) (hrate : 0 ≤ rate) {m n : ℕ} (h : m ≤ n) :
    exp (-rate * n) ≤ exp (-rate * m) := by
  have hcast : (m : K) ≤ n := Nat.cast_le.mpr h
  apply hexp.mono
  · exact mul_le_mul_of_nonpos_left hcast (neg_nonpos.mpr hrate)
  · exact mul_nonpos_of_nonpos_of_nonneg (neg_nonpos.mpr hrate) m.cast_nonneg

theorem Decay.count_pos (rate : K) (hrate : 0 ≤ rate) (n : ℕ) : 0 < exp (-rate * n) :=
  hexp.pos _ (mul_nonpos_of_nonpos_of_nonneg (neg_nonpos.mpr hrate) n.cast_nonneg)

/-- A charge for the higher count keeps the lower of two non-negative scores lower. -/
theorem charge_ordered (rate : K) (hrate : 0 ≤ rate) {m n : ℕ} (h : m ≤ n) {low high : K}
    (hscores : 0 ≤ low ∧ low ≤ high) :
    0 ≤ charge exp rate n low ∧ charge exp rate n low ≤ charge exp rate m high := by
  obtain ⟨hlow, hle⟩ := hscores
  have hpos := (hexp.count_pos rate hrate n).le
  rw [charge_eq hexp, charge_eq hexp]
  exact ⟨mul_nonneg hlow hpos,
    mul_le_mul hle (hexp.count_mono rate hrate h) hpos (hlow.trans hle)⟩

end decay

namespace StabilityInputs.NoBetter

variable [IsStrictOrderedRing K] {exp : K → K} {a b : StabilityInputs K}

theorem failScore_le (h : a.NoBetter b) (hexp : Decay exp) :
    b.failScore exp ≤ a.failScore exp := by
  have hfail : 0 ≤ exp (-(7 / 10) * b.consecutiveFailures) ∧
      exp (-(7 / 10) * b.consecutiveFailures) ≤ exp (-(7 / 10) * a.consecutiveFailures) :=
    ⟨(hexp.count_pos _ (by norm_num) _).le, hexp.count_mono _ (by norm_num) h.failures⟩
  have hexits := charge_ordered hexp (6 / 10) (by norm_num) h.exits hfail
  have hooms := charge_ordered hexp (8 / 10) (by norm_num) h.ooms hexits
  exact (charge_ordered hexp (4 / 10) (by norm_num) h.restarts hooms).2

theorem recScore_le (h : a.NoBetter b) (hexp : Decay exp) :
    b.recScore exp ≤ a.recScore exp := by
  rw [recScore, recScore]
  split_ifs with hb ha ha
  · apply hexp.mono
    · exact div_le_div_of_nonneg_right (neg_le_neg h.recovery) (by norm_num)
    · exact div_nonpos_of_nonpos_of_nonneg (neg_nonpos.mpr ha.le) (by norm_num)
  · exact hexp.le_one _ (div_nonpos_of_nonpos_of_nonneg (neg_nonpos.mpr hb.le) (by norm_num))
  · exact absurd (ha.trans_le h.recovery) hb
  · exact le_rfl

theorem latScore_le (h : a.NoBetter b) : b.latScore ≤ a.latScore := by
  rw [latScore, latScore, if_pos ⟨h.p50.2, h.p95.2⟩, if_pos ⟨h.p50.1, h.p95.1⟩]
  have hratio := sub_le_sub_right h.ratio 1
  exact clamp01_mono
    (sub_le_sub_left (div_le_div_of_nonneg_right hratio (by norm_num)) 1)

theorem thrScore_le (h : a.NoBetter b) : b.thrScore ≤ a.thrScore := by
  rw [thrScore, thrScore]
  split_ifs with hb ha ha
  · exact clamp01_mono
      (sub_le_sub_left (mul_le_mul_of_nonneg_right h.variance zero_le_two) 1)
  · exact (clamp01_mem _).2
  · exact absurd (ha.trans h.variance) hb
  · exact le_rfl

end StabilityInputs.NoBetter

/-! ### One update -/

/-- No component counts against the device for being better, and the score falls at least
as fast as it recovers. -/
structure StabilityConfig.Sound (cfg : StabilityConfig K) : Prop where
  availability : 0 ≤ cfg.wAvailability
  failures : 0 ≤ cfg.wFailures
  disconnect : 0 ≤ cfg.wDisconnect
  recovery : 0 ≤ cfg.wRecovery
  errors : 0 ≤ cfg.wErrors
  latency : 0 ≤ cfg.wLatency
  throughput : 0 ≤ cfg.wThroughput
  alphaDown : 0 ≤ cfg.alphaDown
  asymmetric : cfg.alphaDown ≤ cfg.alphaUp
  alphaUp : cfg.alphaUp ≤ 1

theorem StabilityCalc.update_smamooth (exp : K → K) (s : StabilityCalc K)
    (inputs : StabilityInputs K) (now : ℤ) :
    (s.update exp inputs now).1.smamooth =
      if s.started then
        Signal.follow s.cfg.alphaUp s.cfg.alphaDown s.smamooth (s.instantaneous exp inputs).1
      else (s.instantaneous exp inputs).1 := rfl

theorem StabilityCalc.run_cfg (exp : K → K) (s : StabilityCalc K)
    (history : List (StabilityInputs K × ℤ)) : (s.run exp history).cfg = s.cfg := by
  induction history generalizing s with
  | nil => rfl
  | cons reading history ih => exact ih _

variable [IsStrictOrderedRing K]

theorem defaultStabilityConfig_sound : (defaultStabilityConfig : StabilityConfig K).Sound := by
  constructor <;> norm_num [defaultStabilityConfig]

namespace StabilityCalc

variable {exp : K → K} {s s' : StabilityCalc K} {a b : StabilityInputs K}

theorem instantaneous_le (hexp : Decay exp) (hcfg : s.cfg.Sound) (hsame : s'.cfg = s.cfg)
    (h : a.NoBetter b) : (s'.instantaneous exp b).1 ≤ (s.instantaneous exp a).1 := by
  rw [instantaneous_eq, instantaneous_eq, hsame]
  apply clamp01_mono
  have havail := mul_le_mul_of_nonneg_left (clamp01_mono h.availability) hcfg.availability
  have hfail := mul_le_mul_of_nonneg_left (h.failScore_le hexp) hcfg.failures
  have hdisc := mul_le_mul_of_nonneg_left
    (hexp.count_mono (5 / 10) (by norm_num) h.disconnects) hcfg.disconnect
  have hrec := mul_le_mul_of_nonneg_left (h.recScore_le hexp) hcfg.recovery
  have herr := mul_le_mul_of_nonneg_left
    (hexp.count_mono (15 / 10) (by norm_num) h.errors) hcfg.errors
  have hlat := mul_le_mul_of_nonneg_left h.latScore_le hcfg.latency
  have hthr := mul_le_mul_of_nonneg_left h.thrScore_le hcfg.throughput
  gcongr

theorem update_between (hcfg : s.cfg.Sound) (inputs : StabilityInputs K) (now : ℤ) :
    (s.update exp inputs now).1.smamooth ∈
      Set.uIcc s.smamooth (s.instantaneous exp inputs).1 := by
  rw [update_smamooth]
  split_ifs
  · exact Signal.follow_mem_uIcc hcfg.alphaDown hcfg.asymmetric hcfg.alphaUp _ _
  · exact Set.right_mem_uIcc

/-- Two calculators side by side, the second nowhere above the first. -/
structure Below (s s' : StabilityCalc K) : Prop where
  cfg : s'.cfg = s.cfg
  started : s'.started = s.started
  smamooth : s'.smamooth ≤ s.smamooth

theorem Below.update (hbelow : Below s s') (hexp : Decay exp) (hcfg : s.cfg.Sound)
    (h : a.NoBetter b) (now now' : ℤ) :
    Below (s.update exp a now).1 (s'.update exp b now').1 where
  cfg := hbelow.cfg
  started := rfl
  smamooth := by
    have hinst := instantaneous_le hexp hcfg hbelow.cfg h
    rw [update_smamooth, update_smamooth, hbelow.started, hbelow.cfg]
    split_ifs
    · exact Signal.follow_mono hcfg.alphaDown hcfg.asymmetric hcfg.alphaUp hbelow.smamooth hinst
    · exact hinst

/-! ### Whole histories -/

theorem update_mem (hcfg : s.cfg.Sound) (h : s.smamooth ∈ Set.Icc 0 1)
    (inputs : StabilityInputs K) (now : ℤ) :
    (s.update exp inputs now).1.smamooth ∈ Set.Icc 0 1 :=
  Set.uIcc_subset_Icc h (clamp01_mem _) (update_between hcfg inputs now)

theorem run_mem (exp : K → K) (hcfg : s.cfg.Sound) (h : s.smamooth ∈ Set.Icc 0 1)
    (history : List (StabilityInputs K × ℤ)) : (s.run exp history).smamooth ∈ Set.Icc 0 1 := by
  induction history generalizing s with
  | nil => exact h
  | cons reading history ih => exact ih hcfg (update_mem hcfg h reading.1 reading.2)

theorem published_mem (exp : K → K) (s : StabilityCalc K)
    (history : List (StabilityInputs K × ℤ)) :
    ∀ score ∈ s.published exp history, score.score ∈ Set.Icc 0 1 := by
  induction history generalizing s with
  | nil => exact List.forall_mem_nil _
  | cons reading history ih => exact List.forall_mem_cons.mpr ⟨clamp01_mem _, ih _⟩

theorem Below.published (hexp : Decay exp) {history history' : List (StabilityInputs K × ℤ)}
    (h : List.Forall₂ (fun r r' => r.1.NoBetter r'.1) history history')
    {s s' : StabilityCalc K} (hbelow : Below s s') (hcfg : s.cfg.Sound) :
    List.Forall₂ (fun score score' => score'.score ≤ score.score)
      (s.published exp history) (s'.published exp history') := by
  induction h generalizing s s' with
  | nil => exact .nil
  | @cons r r' history history' hr _ ih =>
    have hnext := hbelow.update hexp hcfg hr r.2 r'.2
    exact .cons (clamp01_mono hnext.smamooth) (ih hnext hcfg)

end StabilityCalc

/-- From a new calculator with the default weights every published score is between 0 and
1, each update publishes a value between the old smoothed score and the unsmoothed one,
and a history that is at every step no better than another never has the higher score. -/
theorem score_bounded_and_ordered (exp : K → K) (hexp : Decay exp) :
    (∀ history, ∀ score ∈ (newStabilityCalc defaultStabilityConfig).published exp history,
      score.score ∈ Set.Icc 0 1) ∧
    (∀ history inputs now,
      let s := (newStabilityCalc defaultStabilityConfig).run exp history
      let (s', score) := s.update exp inputs now
      score.score = s'.smamooth ∧
        s'.smamooth ∈ Set.uIcc s.smamooth (s.instantaneous exp inputs).1) ∧
    ∀ history history', List.Forall₂ (fun r r' => r.1.NoBetter r'.1) history history' →
      List.Forall₂ (fun score score' => score'.score ≤ score.score)
        ((newStabilityCalc defaultStabilityConfig).published exp history)
        ((newStabilityCalc defaultStabilityConfig).published exp history') := by
  refine ⟨fun history => StabilityCalc.published_mem exp _ history, ?_, ?_⟩
  · intro history inputs now
    have hsound : ((newStabilityCalc defaultStabilityConfig).run exp history).cfg.Sound := by
      rw [StabilityCalc.run_cfg]
      exact defaultStabilityConfig_sound
    have hmem := StabilityCalc.run_mem exp defaultStabilityConfig_sound
      (s := newStabilityCalc defaultStabilityConfig) ⟨zero_le_one, le_rfl⟩ history
    exact ⟨clamp01_of_mem (StabilityCalc.update_mem hsound hmem inputs now),
      StabilityCalc.update_between hsound inputs now⟩
  · intro history history' h
    exact StabilityCalc.Below.published hexp h ⟨rfl, rfl, le_rfl⟩ defaultStabilityConfig_sound

theorem decay_exp : Decay Real.exp where
  mono _ _ h _ := Real.exp_le_exp.mpr h
  pos x _ := Real.exp_pos x
  le_one _ h := Real.exp_le_one_iff.mpr h
  zero := Real.exp_zero

/-- At the real exponential function: a device that fails once falls behind one that does
not, and stays behind after the failure is over. -/
theorem score_ordered_after_failure :
    List.Forall₂ (fun score score' => score'.score ≤ score.score)
      ((newStabilityCalc (defaultStabilityConfig (K := ℝ))).published Real.exp
        [(calmReading, 0), (calmReading, 1)])
      ((newStabilityCalc defaultStabilityConfig).published Real.exp
        [({ calmReading with consecutiveFailures := 1 }, 0), (calmReading, 1)]) := by
  refine (score_bounded_and_ordered Real.exp decay_exp).2.2 _ _ (.cons ?_ (.cons ?_ .nil)) <;>
    constructor <;> norm_num [calmReading]

end GpuSidecar.Engine
