import GpuSidecar.Core.Pool.Ledger
import GpuSidecar.Core.Run.Guarded
import GpuSidecar.Core.Word.Int64
import GpuSidecar.Models.Dataplane.Discipline
import Mathlib.Algebra.Order.BigOperators.Group.List

/-!
# Work accounting

The embedding of `internal/dataplane/work.go`, with the 64-bit arithmetic of its gauges,
and the requests that share it. A request reserves work, activates it, and releases what
it reserved; its calls interleave with those of the others. The gauges are the exact
sums over the outstanding requests in a run if and only if every reservation leaves
the sums below the limit of the gauges.
-/

namespace GpuSidecar.Dataplane

open Run Pool Word

/-- The four gauges of a work snapshot. -/
inductive Gauge where
  | reservedPrefill
  | reservedDecode
  | activePrefill
  | activeDecode
  deriving DecidableEq, Repr

/-- The accountant: its gauges, and the totals for observability. -/
structure WorkAccountant where
  reservedUncachedPrefill : ℤ
  reservedDecode : ℤ
  activeUncachedPrefill : ℤ
  activeDecode : ℤ
  totalReservedPrefill : ℤ
  totalReservedDecode : ℤ
  deriving DecidableEq, Repr

def newWorkAccountant : WorkAccountant := ⟨0, 0, 0, 0, 0, 0⟩

/-- The confidence from which on a cached prefix is subtracted. -/
def workConfidenceThreshold : ℚ := 3 / 10

namespace WorkAccountant

/-- The gauges that the snapshot shows. -/
def gauge (w : WorkAccountant) : Gauge → ℤ
  | .reservedPrefill => w.reservedUncachedPrefill
  | .reservedDecode => w.reservedDecode
  | .activePrefill => w.activeUncachedPrefill
  | .activeDecode => w.activeDecode

/-- The uncached prefill and the decode tokens that a reservation books. -/
def booked (inputTokens matchedPrefixTokens expectedOutput : ℤ) (confidence : ℚ) : ℤ × ℤ :=
  let inputTokens := if inputTokens < 0 then 0 else inputTokens
  let expectedOutput := if expectedOutput < 0 then 0 else expectedOutput
  let matched :=
    if workConfidenceThreshold ≤ confidence then
      if inputTokens < matchedPrefixTokens then inputTokens else matchedPrefixTokens
    else 0
  let uncachedPrefill := int64 (inputTokens - matched)
  (if uncachedPrefill < 0 then 0 else uncachedPrefill, expectedOutput)

/-- Records a reservation and returns what it booked. -/
def reserveTokens (w : WorkAccountant) (inputTokens matchedPrefixTokens expectedOutput : ℤ)
    (confidence : ℚ) : WorkAccountant × ℤ × ℤ :=
  let (uncachedPrefill, decode) :=
    booked inputTokens matchedPrefixTokens expectedOutput confidence
  ({ w with
      reservedUncachedPrefill := int64 (w.reservedUncachedPrefill + uncachedPrefill)
      reservedDecode := int64 (w.reservedDecode + decode)
      totalReservedPrefill := int64 (w.totalReservedPrefill + uncachedPrefill)
      totalReservedDecode := int64 (w.totalReservedDecode + decode) },
    uncachedPrefill, decode)

/-- Counts a reservation as active. -/
def activate (w : WorkAccountant) (uncachedPrefill decode : ℤ) : WorkAccountant :=
  { w with
    activeUncachedPrefill := int64 (w.activeUncachedPrefill + uncachedPrefill)
    activeDecode := int64 (w.activeDecode + decode) }

/-- The clamp of a released gauge. -/
def clamp (n : ℤ) : ℤ := if n < 0 then 0 else n

/-- Frees a reservation. -/
def release (w : WorkAccountant) (uncachedPrefill decode : ℤ) : WorkAccountant :=
  { w with
    reservedUncachedPrefill := clamp (int64 (w.reservedUncachedPrefill - uncachedPrefill))
    reservedDecode := clamp (int64 (w.reservedDecode - decode))
    activeUncachedPrefill := clamp (int64 (w.activeUncachedPrefill - uncachedPrefill))
    activeDecode := clamp (int64 (w.activeDecode - decode)) }

/-- A reservation books no negative amounts. -/
theorem booked_nonneg (input matched expected : ℤ) (confidence : ℚ) :
    0 ≤ (booked input matched expected confidence).1 ∧
      0 ≤ (booked input matched expected confidence).2 := by
  constructor
  · simp only [booked]
    split <;> omega
  · simp only [booked]
    split <;> omega

end WorkAccountant

/-! ### What the handlers ask for -/

/-- The amounts that a request's reservation returned to its handler. -/
structure Booking where
  prefill : ℤ
  decode : ℤ
  prefill_nonneg : 0 ≤ prefill
  decode_nonneg : 0 ≤ decode

/-- The amount that a booking moves on a gauge. -/
def Booking.amount (b : Booking) : Gauge → ℤ
  | .reservedPrefill | .activePrefill => b.prefill
  | .reservedDecode | .activeDecode => b.decode

theorem Booking.amount_nonneg (b : Booking) (g : Gauge) : 0 ≤ b.amount g := by
  cases g with
  | reservedPrefill | activePrefill => exact b.prefill_nonneg
  | reservedDecode | activeDecode => exact b.decode_nonneg

/-- The arguments of a reservation as a handler passes them: any input length and prefix
length, and any positive number of output tokens. -/
structure WorkCall where
  inputLen : ℤ
  matched : ℤ
  expectedOutput : ℤ
  conf : ℚ
  inputLen_range : 0 ≤ inputLen ∧ inputLen < 2 ^ 63
  matched_range : 0 ≤ matched ∧ matched < 2 ^ 63
  expectedOutput_range : 0 < expectedOutput ∧ expectedOutput < 2 ^ 63

/-- What the reservation books. -/
def WorkCall.booking (c : WorkCall) : Booking where
  prefill := (WorkAccountant.booked c.inputLen c.matched c.expectedOutput c.conf).1
  decode := (WorkAccountant.booked c.inputLen c.matched c.expectedOutput c.conf).2
  prefill_nonneg := (WorkAccountant.booked_nonneg _ _ _ _).1
  decode_nonneg := (WorkAccountant.booked_nonneg _ _ _ _).2

/-- The numbers of a request fit the integers of the language. -/
structure Decoded (p : Proxy) (req : ProxyRequest) (body : ChatBody) : Prop where
  contents : (estimateInputTokens body : ℤ) < 2 ^ 63
  maxTokens : ∀ n ∈ body.maxTokens, InRange n
  prefixTokens : ∀ n ∈ req.prefixTokens, InRange n
  maxPrefixTokens : InRange p.cfg.maxPrefixTokens

/-- The bounded prefix length of a request is not negative and fits. -/
theorem Proxy.extractPrefixHeaders_range {p : Proxy} {req : ProxyRequest} {body : ChatBody}
    (h : Decoded p req body) :
    0 ≤ (p.extractPrefixHeaders req).2 ∧ (p.extractPrefixHeaders req).2 < 2 ^ 63 := by
  have hmax := h.maxPrefixTokens
  rw [InRange] at hmax
  rw [extractPrefixHeaders]
  split
  · decide
  · cases hn : req.prefixTokens with
    | none =>
      simp only
      decide
    | some n =>
      have hrange := h.prefixTokens n hn
      rw [InRange] at hrange
      simp only
      split_ifs <;> omega

/-- A decode-work estimate is positive and fits. -/
theorem expectedOutputTokens_range {p : Proxy} {req : ProxyRequest} {body : ChatBody}
    (h : Decoded p req body) :
    0 < expectedOutputTokens body ∧ expectedOutputTokens body < 2 ^ 63 := by
  rw [expectedOutputTokens]
  cases hn : body.maxTokens with
  | none => decide
  | some n =>
    have hrange := h.maxTokens n hn
    rw [InRange] at hrange
    simp only
    split_ifs <;> omega

/-- The reservation that a handler makes is one of the calls considered here. -/
theorem Proxy.reservation_eq {p : Proxy} {req : ProxyRequest} {body : ChatBody}
    (h : Decoded p req body) :
    ∃ c : WorkCall, p.reservation req body =
      .reserveTokens c.inputLen c.matched c.expectedOutput c.conf := by
  have htokens := extractPrefixHeaders_range h
  refine ⟨⟨estimateInputTokens body,
    if (p.extractPrefixHeaders req).1 ≠ "" then (p.extractPrefixHeaders req).2 else 0,
    expectedOutputTokens body, if (p.extractPrefixHeaders req).1 ≠ "" then 1 else 0,
    ⟨Int.natCast_nonneg _, h.contents⟩, ?_, expectedOutputTokens_range h⟩, rfl⟩
  split_ifs
  · exact htokens
  · decide

/-! ### Requests that share the accountant -/

/-- How far a request is. -/
inductive WorkPhase where
  | reserved
  | active
  | released
  deriving DecidableEq, Repr

/-- A request that has reserved work. -/
structure WorkRequest where
  booking : Booking
  phase : WorkPhase

/-- Whether a request in a phase counts in a gauge: outstanding ones as reserved, activated
ones as active. -/
def Gauge.counts : Gauge → WorkPhase → Bool
  | _, .released => false
  | .reservedPrefill, _ | .reservedDecode, _ => true
  | .activePrefill, phase | .activeDecode, phase => decide (phase = .active)

/-- What a request contributes to a gauge. -/
def WorkRequest.amount (g : Gauge) (r : WorkRequest) : ℤ :=
  if g.counts r.phase then r.booking.amount g else 0

theorem WorkRequest.amount_nonneg (g : Gauge) (r : WorkRequest) : 0 ≤ r.amount g := by
  rw [amount]
  split
  · exact r.booking.amount_nonneg g
  · exact le_rfl

/-- The accountant and every request that ever reserved work. -/
structure WorkSystem where
  work : WorkAccountant
  requests : List WorkRequest

/-- One call of one request. -/
inductive WorkAction where
  | reserveTokens (call : WorkCall)
  | activate (i : ℕ)
  | release (i : ℕ)

namespace WorkSystem

def init : WorkSystem := ⟨newWorkAccountant, []⟩

def step (s : WorkSystem) : WorkAction → Option WorkSystem
  | .reserveTokens c => some
    { work := (s.work.reserveTokens c.inputLen c.matched c.expectedOutput c.conf).1
      requests := s.requests ++ [⟨c.booking, .reserved⟩] }
  | .activate i =>
    match s.requests[i]? with
    | none => none
    | some r =>
      if r.phase = .reserved then some
        { work := s.work.activate r.booking.prefill r.booking.decode
          requests := s.requests.set i { r with phase := .active } }
      else none
  | .release i =>
    match s.requests[i]? with
    | none => none
    | some r =>
      if r.phase = .active then some
        { work := s.work.release r.booking.prefill r.booking.decode
          requests := s.requests.set i { r with phase := .released } }
      else none

/-- The exact sum of a gauge over the requests. -/
def sum (s : WorkSystem) (g : Gauge) : ℤ := (s.requests.map (WorkRequest.amount g)).sum

/-- The gauges are exact and not negative, no clamp of a release that can happen next changes
a value, and without outstanding requests all gauges are zero. -/
structure Accounted (s : WorkSystem) : Prop where
  exact : ∀ g, s.work.gauge g = s.sum g
  nonneg : ∀ g, 0 ≤ s.work.gauge g
  unclamped : ∀ r ∈ s.requests, r.phase = .active →
    ∀ g, 0 ≤ int64 (s.work.gauge g - r.booking.amount g)
  drained : (∀ r ∈ s.requests, r.phase = .released) → ∀ g, s.work.gauge g = 0

/-- What one step can do. -/
theorem step_cases {s t : WorkSystem} {a : WorkAction} (h : s.step a = some t) :
    (∃ c, a = .reserveTokens c ∧ t.requests = s.requests ++ [⟨c.booking, .reserved⟩] ∧
      ∀ g, t.work.gauge g =
        if g.counts .reserved then int64 (s.work.gauge g + c.booking.amount g)
        else s.work.gauge g) ∨
    (∃ i r, a = .activate i ∧ s.requests[i]? = some r ∧ r.phase = .reserved ∧
      t.requests = s.requests.set i { r with phase := .active } ∧
      ∀ g, t.work.gauge g =
        if g.counts .reserved then s.work.gauge g
        else int64 (s.work.gauge g + r.booking.amount g)) ∨
    (∃ i r, a = .release i ∧ s.requests[i]? = some r ∧ r.phase = .active ∧
      t.requests = s.requests.set i { r with phase := .released } ∧
      ∀ g, t.work.gauge g =
        WorkAccountant.clamp (int64 (s.work.gauge g - r.booking.amount g))) := by
  cases a with
  | reserveTokens c =>
    left
    simp only [step, Option.some.injEq] at h
    subst h
    exact ⟨c, rfl, rfl, fun g => by cases g <;> rfl⟩
  | activate i =>
    right; left
    cases hr : s.requests[i]? with
    | none => simp [step, hr] at h
    | some r =>
      simp only [step, hr, Option.ite_none_right_eq_some, Option.some.injEq] at h
      obtain ⟨hphase, rfl⟩ := h
      exact ⟨i, r, rfl, hr, hphase, rfl, fun g => by cases g <;> rfl⟩
  | release i =>
    right; right
    cases hr : s.requests[i]? with
    | none => simp [step, hr] at h
    | some r =>
      simp only [step, hr, Option.ite_none_right_eq_some, Option.some.injEq] at h
      obtain ⟨hphase, rfl⟩ := h
      exact ⟨i, r, rfl, hr, hphase, rfl, fun g => by cases g <;> rfl⟩

/-- The gauges are values of the language. -/
def InRange (s : WorkSystem) : Prop := ∀ g, Word.InRange (s.work.gauge g)

theorem inRange_clamp (n : ℤ) : Word.InRange (WorkAccountant.clamp (int64 n)) := by
  have h := inRange_int64 n
  rw [Word.InRange] at h ⊢
  rw [WorkAccountant.clamp]
  split <;> omega

/-- Every step leaves values of the language in the gauges. -/
theorem InRange.step {s t : WorkSystem} {a : WorkAction} (hs : s.InRange)
    (h : s.step a = some t) : t.InRange := by
  intro g
  rcases step_cases h with ⟨c, -, -, hg⟩ | ⟨i, r, -, -, -, -, hg⟩ | ⟨i, r, -, -, -, -, hg⟩
  · rw [hg]
    split
    · exact inRange_int64 _
    · exact hs g
  · rw [hg]
    split
    · exact hs g
    · exact inRange_int64 _
  · rw [hg]
    exact inRange_clamp _

/-- The sum of a gauge after a request has changed its phase. -/
theorem sum_set {s t : WorkSystem} {i : ℕ} {r r' : WorkRequest} (hr : s.requests[i]? = some r)
    (ht : t.requests = s.requests.set i r') (g : Gauge) :
    t.sum g = s.sum g + (r'.amount g - r.amount g) := by
  rw [sum, ht]
  exact sum_map_set _ hr r'

/-- No request counts for more than the sum. -/
theorem amount_le_sum {s : WorkSystem} {r : WorkRequest} (hr : r ∈ s.requests) (g : Gauge) :
    r.amount g ≤ s.sum g := by
  refine List.single_le_sum (fun n hn => ?_) _ (List.mem_map_of_mem hr)
  obtain ⟨r', -, rfl⟩ := List.mem_map.mp hn
  exact r'.amount_nonneg g

/-- The sums are not negative. -/
theorem sum_nonneg (s : WorkSystem) (g : Gauge) : 0 ≤ s.sum g := by
  refine List.sum_nonneg fun n hn => ?_
  obtain ⟨r, -, rfl⟩ := List.mem_map.mp hn
  exact r.amount_nonneg g

/-- With values of the language, exact gauges are all that the accounts ask for. -/
theorem accounted_iff {s : WorkSystem} (hs : s.InRange) :
    s.Accounted ↔ ∀ g, s.work.gauge g = s.sum g := by
  constructor
  · exact Accounted.exact
  · intro hexact
    refine ⟨hexact, fun g => ?_, fun r hr hactive g => ?_, fun hreleased g => ?_⟩
    · rw [hexact]
      exact s.sum_nonneg g
    · have hamount : r.amount g = r.booking.amount g := by
        cases g <;> simp [WorkRequest.amount, Gauge.counts, hactive]
      have hle := amount_le_sum hr g
      have hrange := hs g
      have hnonneg := r.booking.amount_nonneg g
      rw [Word.InRange] at hrange
      have hdiff : Word.InRange (s.work.gauge g - r.booking.amount g) := by
        rw [Word.InRange]
        rw [hexact] at hrange ⊢
        omega
      rw [int64_eq_self hdiff, hexact]
      omega
    · rw [hexact, sum]
      refine List.sum_eq_zero fun n hn => ?_
      obtain ⟨r, hr, rfl⟩ := List.mem_map.mp hn
      cases g <;> simp [WorkRequest.amount, Gauge.counts, hreleased r hr]

/-- No more is active than is reserved. -/
theorem sum_le_reserved (s : WorkSystem) :
    s.sum .activePrefill ≤ s.sum .reservedPrefill ∧
      s.sum .activeDecode ≤ s.sum .reservedDecode := by
  have hle (r : WorkRequest) : r.amount .activePrefill ≤ r.amount .reservedPrefill ∧
      r.amount .activeDecode ≤ r.amount .reservedDecode := by
    have hprefill := r.booking.prefill_nonneg
    have hdecode := r.booking.decode_nonneg
    cases hphase : r.phase <;>
      simp [WorkRequest.amount, Gauge.counts, Booking.amount, hphase, hprefill, hdecode]
  exact ⟨List.sum_le_sum fun r _ => (hle r).1, List.sum_le_sum fun r _ => (hle r).2⟩

/-- A reservation leaves the exact sums below the limit of the gauges; the other calls are
free. -/
def Fits (s : WorkSystem) : WorkAction → Prop
  | .reserveTokens c =>
    s.sum .reservedPrefill + c.booking.prefill < 2 ^ 63 ∧
      s.sum .reservedDecode + c.booking.decode < 2 ^ 63
  | _ => True

/-- A reservation keeps the gauges exact if and only if it fits. -/
theorem exact_reserve_iff {s t : WorkSystem} {c : WorkCall}
    (hexact : ∀ g, s.work.gauge g = s.sum g)
    (ht : t.requests = s.requests ++ [⟨c.booking, .reserved⟩])
    (hg : ∀ g, t.work.gauge g =
      if g.counts .reserved then int64 (s.work.gauge g + c.booking.amount g)
      else s.work.gauge g) :
    (∀ g, t.work.gauge g = t.sum g) ↔ s.Fits (.reserveTokens c) := by
  have hsum (g : Gauge) :
      t.sum g = s.sum g + if g.counts .reserved then c.booking.amount g else 0 := by
    simp [sum, ht, WorkRequest.amount]
  have hreserved (g : Gauge) (hcounts : g.counts .reserved = true) :
      t.work.gauge g = t.sum g ↔ s.sum g + c.booking.amount g < 2 ^ 63 := by
    have hpos := s.sum_nonneg g
    have hamount := c.booking.amount_nonneg g
    rw [hg, hsum, if_pos hcounts, if_pos hcounts, hexact, int64_eq_self_iff, Word.InRange]
    omega
  constructor
  · intro h
    exact ⟨(hreserved .reservedPrefill rfl).mp (h _), (hreserved .reservedDecode rfl).mp (h _)⟩
  · rintro ⟨hprefill, hdecode⟩ g
    cases g with
    | reservedPrefill => exact (hreserved .reservedPrefill rfl).mpr hprefill
    | reservedDecode => exact (hreserved .reservedDecode rfl).mpr hdecode
    | activePrefill | activeDecode =>
      rw [hg, hsum, hexact]
      simp [Gauge.counts]

/-- An activation keeps the gauges exact: what becomes active is already reserved. -/
theorem exact_activate {s t : WorkSystem} {i : ℕ} {r : WorkRequest} (hs : s.InRange)
    (hexact : ∀ g, s.work.gauge g = s.sum g) (hr : s.requests[i]? = some r)
    (hphase : r.phase = .reserved) (ht : t.requests = s.requests.set i { r with phase := .active })
    (hg : ∀ g, t.work.gauge g =
      if g.counts .reserved then s.work.gauge g else int64 (s.work.gauge g + r.booking.amount g)) :
    ∀ g, t.work.gauge g = t.sum g := by
  have hsum (g : Gauge) :
      t.sum g = s.sum g + if g.counts .reserved then 0 else r.booking.amount g := by
    rw [sum_set hr ht]
    cases g <;> simp [WorkRequest.amount, Gauge.counts, hphase]
  have hreserved (g : Gauge) (hcounts : g.counts .reserved = true) : t.sum g < 2 ^ 63 := by
    have hrange := hs g
    rw [Word.InRange, hexact] at hrange
    rw [hsum, if_pos hcounts]
    omega
  have hactive (g : Gauge) (hcounts : g.counts .reserved = false) (hlt : t.sum g < 2 ^ 63) :
      t.work.gauge g = t.sum g := by
    have hpos := t.sum_nonneg g
    have hvalue : t.sum g = s.work.gauge g + r.booking.amount g := by
      rw [hsum, hcounts, hexact]
      rfl
    rw [hg, hcounts, ← hvalue]
    refine int64_eq_self ?_
    rw [Word.InRange]
    omega
  obtain ⟨hprefill, hdecode⟩ := t.sum_le_reserved
  intro g
  cases g with
  | reservedPrefill | reservedDecode =>
    rw [hg, hsum, hexact]
    simp [Gauge.counts]
  | activePrefill => exact hactive _ rfl (hprefill.trans_lt (hreserved _ rfl))
  | activeDecode => exact hactive _ rfl (hdecode.trans_lt (hreserved _ rfl))

/-- A release keeps the gauges exact, and its clamps change nothing. -/
theorem exact_release {s t : WorkSystem} {i : ℕ} {r : WorkRequest} (hs : s.InRange)
    (hexact : ∀ g, s.work.gauge g = s.sum g) (hr : s.requests[i]? = some r)
    (hphase : r.phase = .active) (ht : t.requests = s.requests.set i { r with phase := .released })
    (hg : ∀ g, t.work.gauge g =
      WorkAccountant.clamp (int64 (s.work.gauge g - r.booking.amount g))) :
    ∀ g, t.work.gauge g = t.sum g := by
  intro g
  have hsum : t.sum g = s.work.gauge g - r.booking.amount g := by
    rw [sum_set hr ht, hexact]
    cases g <;> simp [WorkRequest.amount, Gauge.counts, hphase] <;> omega
  have hpos := t.sum_nonneg g
  have hamount := r.booking.amount_nonneg g
  have hgauge := hs g
  rw [Word.InRange] at hgauge
  have hvalue : Word.InRange (t.sum g) := by
    rw [Word.InRange]
    omega
  rw [hg, ← hsum, int64_eq_self hvalue, WorkAccountant.clamp, if_neg (not_lt.mpr hpos)]

/-- From an accounted state, a step leads to an accounted state exactly if it fits. -/
theorem accounted_step_iff {s t : WorkSystem} {a : WorkAction} (hs : s.InRange)
    (hacc : s.Accounted) (h : s.step a = some t) : t.Accounted ↔ s.Fits a := by
  rw [accounted_iff (hs.step h)]
  rcases step_cases h with ⟨c, rfl, ht, hg⟩ | ⟨i, r, rfl, hr, hphase, ht, hg⟩ |
    ⟨i, r, rfl, hr, hphase, ht, hg⟩
  · exact exact_reserve_iff hacc.exact ht hg
  · exact iff_of_true (exact_activate hs hacc.exact hr hphase ht hg) trivial
  · exact iff_of_true (exact_release hs hacc.exact hr hphase ht hg) trivial

/-- In every interleaving of the reservations, activations and releases of any number of
requests, the gauges are the exact sums over the outstanding requests in every state if
and only if every reservation leaves the sums below the limit of a 64-bit gauge. -/
theorem accounted_iff_fits (as : List WorkAction) (h : (exec step init as).isSome) :
    Always step Accounted init as ↔ StepsMeet step Fits init as := by
  obtain ⟨s, hs⟩ := Option.isSome_iff_exists.mp h
  have hinit : init.InRange := by
    intro g
    cases g <;> exact ⟨by decide, by decide⟩
  refine always_iff_stepsMeet (I := InRange) hinit (fun _ _ _ hr ha => hr.step ha) ?_
    (fun _ _ _ hr hacc ha => accounted_step_iff hr hacc ha) hs
  rw [accounted_iff hinit]
  intro g
  cases g <;> rfl

/-- A request for a number of output tokens. -/
def outputCall (n : ℤ) (h : 0 < n ∧ n < 2 ^ 63) : WorkCall where
  inputLen := 100
  matched := 0
  expectedOutput := n
  conf := 0
  inputLen_range := by decide
  matched_range := by decide
  expectedOutput_range := h

/-- Two overlapping requests of ordinary size. -/
def overlappingRun : List WorkAction :=
  [.reserveTokens (outputCall 128 (by decide)), .activate 0,
    .reserveTokens (outputCall 512 (by decide)), .release 0, .activate 1, .release 1]

/-- Their work is accounted for exactly. -/
theorem overlappingRun_accounted :
    (exec step init overlappingRun).isSome = true ∧ Always step Accounted init overlappingRun := by
  have hrun : (exec step init overlappingRun).isSome = true := by decide +kernel
  refine ⟨hrun, (accounted_iff_fits _ hrun).mpr ?_⟩
  refine stepsMeet_cons.mpr ⟨?_, fun _ h₁ => stepsMeet_cons.mpr ⟨trivial, fun _ h₂ =>
    stepsMeet_cons.mpr ⟨?_, fun _ _ => stepsMeet_cons.mpr ⟨trivial, fun _ _ =>
      stepsMeet_cons.mpr ⟨trivial, fun _ _ => stepsMeet_cons.mpr ⟨trivial, fun _ _ =>
        stepsMeet_nil _ _ _⟩⟩⟩⟩⟩⟩
  · exact ⟨by decide +kernel, by decide +kernel⟩
  · cases h₁
    cases h₂
    exact ⟨by decide +kernel, by decide +kernel⟩

/-- Two overlapping requests for the largest number of output tokens. -/
def largestRun : List WorkAction :=
  [.reserveTokens (outputCall (2 ^ 63 - 1) (by decide)),
    .reserveTokens (outputCall (2 ^ 63 - 1) (by decide))]

/-- While both are outstanding, the gauge of reserved decode work is negative. -/
theorem largestRun_overflows :
    ((exec step init largestRun).map fun s => s.work.gauge .reservedDecode) = some (-2) ∧
      ¬ Always step Accounted init largestRun := by
  have hend : ((exec step init largestRun).map fun s => s.work.gauge .reservedDecode) =
      some (-2) := by decide +kernel
  refine ⟨hend, fun halways => ?_⟩
  obtain ⟨s, hs, hgauge⟩ := Option.map_eq_some_iff.mp hend
  have hnonneg := (halways largestRun [] (by simp) s hs).nonneg .reservedDecode
  omega

end WorkSystem

end GpuSidecar.Dataplane
