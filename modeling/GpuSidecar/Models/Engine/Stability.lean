import Mathlib.Algebra.Field.Rat
import Mathlib.Algebra.Order.Ring.Rat

/-!
# The stability score

The embedding of `internal/core/stability.go`. Scores are exact numbers, on which the
clamp's test for not-a-number and infinity has nothing to do: rationals unless another
ordered field is named. The exponential function is a parameter, and a result that needs to
know something about it says so.
-/

namespace GpuSidecar.Engine

variable {K : Type} [Field K] [LinearOrder K]

/-- The weights of the score's components and the two smoothing factors. -/
structure StabilityConfig (K : Type := ℚ) where
  wAvailability : K
  wFailures : K
  wDisconnect : K
  wRecovery : K
  wErrors : K
  wLatency : K
  wThroughput : K
  /-- Smoothing while the score falls. -/
  alphaUp : K
  /-- Smoothing while the score recovers. -/
  alphaDown : K
  deriving DecidableEq, Repr

def defaultStabilityConfig : StabilityConfig K where
  wAvailability := 30 / 100
  wFailures := 20 / 100
  wDisconnect := 15 / 100
  wRecovery := 10 / 100
  wErrors := 10 / 100
  wLatency := 10 / 100
  wThroughput := 5 / 100
  alphaUp := 60 / 100
  alphaDown := 8 / 100

/-- The smoothed score of one device. -/
structure StabilityCalc (K : Type := ℚ) where
  cfg : StabilityConfig K
  smamooth : K
  started : Bool
  deriving DecidableEq, Repr

def newStabilityCalc (cfg : StabilityConfig K) : StabilityCalc K where
  cfg := cfg
  smamooth := 1
  started := false

def clamp01 (x : K) : K := if x < 0 then 0 else if 1 < x then 1 else x

/-- The signals of the unsmoothed score. -/
structure StabilityInputs (K : Type := ℚ) where
  recentAvailability : K
  consecutiveFailures : ℕ
  disconnectsInWindow : ℕ
  lastRecoveryMs : K
  errorCountDelta : ℕ
  latencyP95Ms : K
  latencyP50Ms : K
  /-- Negative when no controlled probe runs. -/
  throughputVariance : K
  /-- Carried for auditing only. -/
  workerDisappearancesObserved : ℕ
  confirmedAbnormalWorkerExits : ℕ := 0
  confirmedOOMEvents : ℕ := 0
  rapidRestartEvents : ℕ
  deriving DecidableEq, Repr

/-- A published score with its audit components. -/
structure StabilityScore (K : Type := ℚ) where
  score : K
  components : List (String × K)
  updatedAt : ℤ
  deriving DecidableEq, Repr

namespace StabilityCalc

/-- The unsmoothed score and its components. -/
def instantaneous (exp : K → K) (s : StabilityCalc K) (inputs : StabilityInputs K) :
    K × List (String × K) :=
  let c := s.cfg
  let avail := clamp01 inputs.recentAvailability
  let failScore := exp (-(7 / 10) * inputs.consecutiveFailures)
  let discScore := exp (-(5 / 10) * inputs.disconnectsInWindow)
  let recScore := if 0 < inputs.lastRecoveryMs then exp (-inputs.lastRecoveryMs / 30000) else 1
  let errScore := exp (-(15 / 10) * inputs.errorCountDelta)
  let latScore := if 0 < inputs.latencyP50Ms ∧ 0 < inputs.latencyP95Ms then
      clamp01 (1 - (inputs.latencyP95Ms / inputs.latencyP50Ms - 1) / 9)
    else 1
  let thrScore := if 0 ≤ inputs.throughputVariance then
      clamp01 (1 - inputs.throughputVariance * 2)
    else 1
  let failScore := if 0 < inputs.confirmedAbnormalWorkerExits then
      failScore * exp (-(6 / 10) * inputs.confirmedAbnormalWorkerExits)
    else failScore
  let failScore := if 0 < inputs.confirmedOOMEvents then
      failScore * exp (-(8 / 10) * inputs.confirmedOOMEvents)
    else failScore
  let failScore := if 0 < inputs.rapidRestartEvents then
      failScore * exp (-(4 / 10) * inputs.rapidRestartEvents)
    else failScore
  let comps := [
    ("availability", c.wAvailability * avail),
    ("failures", c.wFailures * failScore),
    ("disconnect", c.wDisconnect * discScore),
    ("recovery", c.wRecovery * recScore),
    ("errors", c.wErrors * errScore),
    ("latency", c.wLatency * latScore),
    ("throughput", c.wThroughput * thrScore)]
  let raw := c.wAvailability * avail + c.wFailures * failScore + c.wDisconnect * discScore +
    c.wRecovery * recScore + c.wErrors * errScore + c.wLatency * latScore +
    c.wThroughput * thrScore
  (clamp01 raw, comps)

/-- Folds a new unsmoothed score into the average: the first one is taken as it is, a
lower one counts more than a higher one. -/
def update (exp : K → K) (s : StabilityCalc K) (inputs : StabilityInputs K) (now : ℤ) :
    StabilityCalc K × StabilityScore K :=
  let (inst, comps) := s.instantaneous exp inputs
  let smamooth :=
    if s.started then
      if inst < s.smamooth then s.cfg.alphaUp * inst + (1 - s.cfg.alphaUp) * s.smamooth
      else s.cfg.alphaDown * inst + (1 - s.cfg.alphaDown) * s.smamooth
    else inst
  ({ s with smamooth := smamooth, started := true },
    { score := clamp01 smamooth
      components := comps ++ [("instantaneous", inst), ("smoothed", smamooth)]
      updatedAt := now })

/-- Unexplained disappearances of workers do not enter the score. -/
theorem update_withDisappearances (exp : K → K) (s : StabilityCalc K) (inputs : StabilityInputs K)
    (now : ℤ) (k : ℕ) :
    s.update exp { inputs with workerDisappearancesObserved := k } now =
      s.update exp inputs now := rfl

end StabilityCalc

/-! ### The component scores -/

/-- A penalty that is charged for a positive count only. -/
def charge (exp : K → K) (rate : K) (n : ℕ) (score : K) : K :=
  if 0 < n then score * exp (-rate * n) else score

namespace StabilityInputs

variable (exp : K → K) (inputs : StabilityInputs K)

def failScore : K :=
  charge exp (4 / 10) inputs.rapidRestartEvents <|
    charge exp (8 / 10) inputs.confirmedOOMEvents <|
      charge exp (6 / 10) inputs.confirmedAbnormalWorkerExits <|
        exp (-(7 / 10) * inputs.consecutiveFailures)

def recScore : K :=
  if 0 < inputs.lastRecoveryMs then exp (-inputs.lastRecoveryMs / 30000) else 1

def latScore : K :=
  if 0 < inputs.latencyP50Ms ∧ 0 < inputs.latencyP95Ms then
    clamp01 (1 - (inputs.latencyP95Ms / inputs.latencyP50Ms - 1) / 9)
  else 1

def thrScore : K :=
  if 0 ≤ inputs.throughputVariance then clamp01 (1 - inputs.throughputVariance * 2) else 1

end StabilityInputs

theorem StabilityCalc.instantaneous_eq (exp : K → K) (s : StabilityCalc K)
    (inputs : StabilityInputs K) :
    (s.instantaneous exp inputs).1 = clamp01
      (s.cfg.wAvailability * clamp01 inputs.recentAvailability +
        s.cfg.wFailures * inputs.failScore exp +
        s.cfg.wDisconnect * exp (-(5 / 10) * inputs.disconnectsInWindow) +
        s.cfg.wRecovery * inputs.recScore exp +
        s.cfg.wErrors * exp (-(15 / 10) * inputs.errorCountDelta) +
        s.cfg.wLatency * inputs.latScore + s.cfg.wThroughput * inputs.thrScore) := rfl

/-- A device without trouble. -/
def calmReading : StabilityInputs K where
  recentAvailability := 1
  consecutiveFailures := 0
  disconnectsInWindow := 0
  lastRecoveryMs := 0
  errorCountDelta := 0
  latencyP95Ms := 2
  latencyP50Ms := 1
  throughputVariance := -1
  workerDisappearancesObserved := 0
  rapidRestartEvents := 0

end GpuSidecar.Engine
