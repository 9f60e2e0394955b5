import GpuSidecar.Core.List.Count
import GpuSidecar.Core.Run.Guarded
import GpuSidecar.Core.Word.Int64
import GpuSidecar.Models.Routing.Policy

/-!
# Round robin under concurrency

The round-robin policy shares one atomic counter between all concurrent calls. A call finds
the eligible backends of its own snapshot, draws a number with one atomic addition, and
indexes its list with that number. In every interleaving the numbers drawn so far are the
first ones, each drawn once. While they fit a signed integer the index of every call is in
range, and calls whose numbers fill whole cycles choose every position equally often.
-/

namespace GpuSidecar.Routing

open Run Word Counting

/-- The index of a drawn number, `int(i) % len(e)`. -/
def roundRobinIndex (i : ℕ) (e : List BackendState) : ℤ := (int64 i).tmod e.length

def roundRobinDecision (b : BackendState) : RouteDecision := ⟨b.id, "round_robin", "1", .rr, false⟩

/-- The decision for the backend at the index; none is a panic. -/
def roundRobinPick (i : ℕ) (e : List BackendState) : Option RouteDecision :=
  if 0 ≤ roundRobinIndex i e then (e[(roundRobinIndex i e).toNat]?).map roundRobinDecision
  else none

/-- Where a call of `SelectBackend` with its snapshot stands: before its addition, behind it
with the number it drew, returned with a decision, or returned with the error. -/
inductive SelectCall where
  | called (snap : BackendSnapshot)
  | drawn (snap : BackendSnapshot) (i : ℕ)
  | returned (snap : BackendSnapshot) (i : ℕ) (d : Option RouteDecision)
  | refused (snap : BackendSnapshot)
  deriving DecidableEq, Repr

namespace SelectCall

def snap : SelectCall → BackendSnapshot
  | called snap | drawn snap _ | returned snap _ _ | refused snap => snap

/-- The number that a call has drawn. -/
def number? : SelectCall → Option ℕ
  | drawn _ i | returned _ i _ => some i
  | called _ | refused _ => none

/-- The next atomic step of a call, given the counter. -/
def next (n : ℕ) : SelectCall → Option (ℕ × SelectCall)
  | called snap =>
    if (eligible snap).length = 0 then some (n, refused snap)
    else
      let n' := (n + 1) % 2 ^ 64
      some (n', drawn snap ((n' + (2 ^ 64 - 1)) % 2 ^ 64))
  | drawn snap i => some (n, returned snap i (roundRobinPick i (eligible snap)))
  | returned _ _ _ | refused _ => none

/-- A call draws a number only if a backend is eligible, and returns the decision for it. -/
def Sound : SelectCall → Prop
  | called _ => True
  | drawn snap _ => eligible snap ≠ []
  | returned snap i d => eligible snap ≠ [] ∧ d = roundRobinPick i (eligible snap)
  | refused snap => eligible snap = []

theorem Sound.eligible_ne_nil {c : SelectCall} (hc : c.Sound) {i : ℕ}
    (hi : c.number? = some i) : eligible c.snap ≠ [] := by
  cases c with
  | called snap => cases hi
  | drawn snap i => exact hc
  | returned snap i d => exact hc.1
  | refused snap => cases hi

/-- A step leaves the counter and the call's number alone, or it is the addition. -/
theorem number?_next {n n' : ℕ} {c c' : SelectCall} (h : c.next n = some (n', c')) :
    n' = n ∧ c'.number? = c.number? ∨
      n' = (n + 1) % 2 ^ 64 ∧ c.number? = none ∧ c'.number? = some (n % 2 ^ 64) := by
  cases c with
  | called snap =>
    rw [next] at h
    split at h
    · cases h
      exact Or.inl ⟨rfl, rfl⟩
    · cases h
      refine Or.inr ⟨rfl, rfl, congrArg some ?_⟩
      omega
  | drawn snap i =>
    cases h
    exact Or.inl ⟨rfl, rfl⟩
  | returned snap i d => cases h
  | refused snap => cases h

theorem Sound.next {n n' : ℕ} {c c' : SelectCall} (hc : c.Sound)
    (h : c.next n = some (n', c')) : c'.Sound := by
  cases c with
  | called snap =>
    rw [SelectCall.next] at h
    split at h
    · rename_i hempty
      cases h
      exact List.length_eq_zero_iff.mp hempty
    · rename_i hsome
      cases h
      exact fun hempty => hsome (List.length_eq_zero_iff.mpr hempty)
  | drawn snap i =>
    cases h
    exact ⟨hc, rfl⟩
  | returned snap i d => cases h
  | refused snap => cases h

end SelectCall

/-- The counter, and all calls made so far. -/
structure RoundRobin where
  n : ℕ
  calls : List SelectCall
  deriving DecidableEq, Repr

/-- A new call, or the next step of one of them. -/
inductive RoundRobinAction where
  | selectBackend (snap : BackendSnapshot)
  | advance (k : ℕ)

namespace RoundRobin

def init : RoundRobin := ⟨0, []⟩

def step (s : RoundRobin) : RoundRobinAction → Option RoundRobin
  | .selectBackend snap => some { s with calls := s.calls ++ [.called snap] }
  | .advance k => (s.calls[k]?).bind fun c => (c.next s.n).map fun p =>
      { n := p.1, calls := s.calls.set k p.2 }

/-- What a step can do. -/
theorem step_cases {s t : RoundRobin} {a : RoundRobinAction} (h : s.step a = some t) :
    (∃ snap, t = { s with calls := s.calls ++ [.called snap] }) ∨
      ∃ before after c n c', s.calls = before ++ c :: after ∧ c.next s.n = some (n, c') ∧
        t = { n := n, calls := before ++ c' :: after } := by
  cases a with
  | selectBackend snap => exact Or.inl ⟨snap, (Option.some.inj h).symm⟩
  | advance k =>
    obtain ⟨c, hc, hnext⟩ := Option.bind_eq_some_iff.mp h
    obtain ⟨⟨n, c'⟩, hn, rfl⟩ := Option.map_eq_some_iff.mp hnext
    obtain ⟨hk, rfl⟩ := List.getElem?_eq_some_iff.mp hc
    refine Or.inr ⟨s.calls.take k, s.calls.drop (k + 1), _, n, c', ?_, hn, ?_⟩
    · rw [List.getElem_cons_drop, List.take_append_drop]
    · rw [List.set_eq_take_append_cons_drop, if_pos hk]

/-- The numbers drawn so far. -/
def numbers (s : RoundRobin) : List ℕ := s.calls.filterMap SelectCall.number?

/-- The numbers drawn so far are the first ones, and the counter is the next. -/
structure Invariant (s : RoundRobin) : Prop where
  counter : s.n = s.numbers.length % 2 ^ 64
  first : s.numbers.Perm ((List.range s.numbers.length).map (· % 2 ^ 64))
  sound : ∀ c ∈ s.calls, c.Sound

theorem invariant_init : Invariant init where
  counter := rfl
  first := .nil
  sound := by simp [init]

/-- A step changes no number, or adds the next one. -/
theorem numbers_step {s t : RoundRobin} {a : RoundRobinAction} (h : s.step a = some t) :
    t.n = s.n ∧ t.numbers = s.numbers ∨
      t.n = (s.n + 1) % 2 ^ 64 ∧ t.numbers.Perm (s.n % 2 ^ 64 :: s.numbers) := by
  rcases step_cases h with ⟨snap, rfl⟩ | ⟨before, after, c, n, c', hcalls, hnext, rfl⟩
  · left
    simp [numbers, SelectCall.number?]
  · simp only [numbers, hcalls, List.filterMap_append, List.filterMap_cons]
    rcases SelectCall.number?_next hnext with ⟨hn, hnumber⟩ | ⟨hn, hnone, hsome⟩
    · exact Or.inl ⟨hn, by rw [hnumber]⟩
    · rw [hnone, hsome]
      exact Or.inr ⟨hn, List.perm_middle⟩

theorem sound_step {s t : RoundRobin} {a : RoundRobinAction} (hs : ∀ c ∈ s.calls, c.Sound)
    (h : s.step a = some t) : ∀ c ∈ t.calls, c.Sound := by
  rcases step_cases h with ⟨snap, rfl⟩ | ⟨before, after, c, n, c', hcalls, hnext, rfl⟩
  · exact List.forall_mem_append.mpr ⟨hs, List.forall_mem_singleton.mpr trivial⟩
  · rw [hcalls] at hs
    obtain ⟨hbefore, hrest⟩ := List.forall_mem_append.mp hs
    obtain ⟨hc, hafter⟩ := List.forall_mem_cons.mp hrest
    exact List.forall_mem_append.mpr
      ⟨hbefore, List.forall_mem_cons.mpr ⟨hc.next hnext, hafter⟩⟩

theorem invariant_step {s t : RoundRobin} {a : RoundRobinAction} (hs : Invariant s)
    (h : s.step a = some t) : Invariant t := by
  have hsound := sound_step hs.sound h
  rcases numbers_step h with ⟨hn, hnumbers⟩ | ⟨hn, hnumbers⟩
  · refine ⟨?_, ?_, hsound⟩
    · rw [hn, hnumbers, hs.counter]
    · rw [hnumbers]
      exact hs.first
  · have hlength : t.numbers.length = s.numbers.length + 1 := by
      rw [hnumbers.length_eq, List.length_cons]
    have hdrawn : s.n % 2 ^ 64 = s.numbers.length % 2 ^ 64 := by rw [hs.counter, Nat.mod_mod]
    rw [hdrawn] at hnumbers
    refine ⟨?_, ?_, hsound⟩
    · rw [hn, hlength, hs.counter, Nat.mod_add_mod]
    · rw [hlength, List.range_succ, List.map_append, List.map_singleton]
      exact hnumbers.trans ((hs.first.cons _).trans (List.perm_append_singleton _ _).symm)

theorem invariant_exec {as : List RoundRobinAction} {s : RoundRobin}
    (h : exec step init as = some s) : Invariant s :=
  exec_invariant invariant_init (fun _ _ _ hs ha => invariant_step hs ha) h

variable {s : RoundRobin}

/-- As long as the counter has not wrapped, the first numbers were drawn once each. -/
theorem Invariant.perm_range (hs : Invariant s) (hcalls : s.calls.length < 2 ^ 63) :
    s.numbers.Perm (List.range s.numbers.length) := by
  have hlength : s.numbers.length ≤ s.calls.length := List.length_filterMap_le _ _
  have hsame : (List.range s.numbers.length).map (· % 2 ^ 64) =
      List.range s.numbers.length := by
    conv_rhs => rw [← List.map_id (List.range s.numbers.length)]
    apply List.map_congr_left
    intro v hv
    have hv := List.mem_range.mp hv
    exact Nat.mod_eq_of_lt (by omega)
  have hfirst := hs.first
  rwa [hsame] at hfirst

theorem Invariant.number_lt (hs : Invariant s) (hcalls : s.calls.length < 2 ^ 63)
    {c : SelectCall} (hc : c ∈ s.calls) {i : ℕ} (hi : c.number? = some i) :
    i < s.numbers.length :=
  List.mem_range.mp
    ((hs.perm_range hcalls).subset (List.mem_filterMap.mpr ⟨c, hc, hi⟩))

theorem Invariant.number_lt_two_pow (hs : Invariant s) (hcalls : s.calls.length < 2 ^ 63)
    {c : SelectCall} (hc : c ∈ s.calls) {i : ℕ} (hi : c.number? = some i) : i < 2 ^ 63 := by
  have hlength : s.numbers.length ≤ s.calls.length := List.length_filterMap_le _ _
  have hlt := hs.number_lt hcalls hc hi
  omega

end RoundRobin

/-! ### Choices -/

/-- A number that fits a signed integer is its own value, and the remainder is not negative. -/
theorem roundRobinIndex_eq {i : ℕ} (hi : i < 2 ^ 63) (e : List BackendState) :
    roundRobinIndex i e = (i % e.length : ℕ) := by
  have hrange : InRange i := ⟨by omega, by omega⟩
  rw [roundRobinIndex, int64_eq_self hrange]
  rfl

theorem roundRobinPick_eq {i : ℕ} (hi : i < 2 ^ 63) (e : List BackendState) :
    roundRobinPick i e = (e[i % e.length]?).map roundRobinDecision := by
  rw [roundRobinPick, roundRobinIndex_eq hi, if_pos (Int.natCast_nonneg _), Int.toNat_natCast]

/-- A call that returned decides as the policy does for the number it drew. -/
theorem returned_eq_selectBackend {as : List RoundRobinAction} {s : RoundRobin}
    (hrun : exec RoundRobin.step .init as = some s) (hcalls : s.calls.length < 2 ^ 63)
    {snap : BackendSnapshot} {i : ℕ} {d : Option RouteDecision}
    (hc : .returned snap i d ∈ s.calls) (locator : Locator) (req : RequestFeatures) :
    ∃ hi : i < 2 ^ 63, d = Policy.roundRobin.selectBackend ⟨⟨i, hi⟩, locator⟩ req snap := by
  have hs := RoundRobin.invariant_exec hrun
  have hi := hs.number_lt_two_pow hcalls hc rfl
  have hd : d = roundRobinPick i (eligible snap) := (hs.sound _ hc).2
  refine ⟨hi, ?_⟩
  rw [hd, roundRobinPick_eq hi, Policy.selectBackend]
  cases eligible snap with
  | nil => rfl
  | cons first rest =>
    have hlt : i % (first :: rest).length < (first :: rest).length :=
      Nat.mod_lt i (Nat.succ_pos rest.length)
    rw [List.getElem?_eq_getElem hlt]
    rfl

/-- Whether a call returned with a number of a window, the index of a position and the decision
for the backend there. -/
def SelectCall.chose (e : List BackendState) (lo hi p : ℕ) : SelectCall → Bool
  | returned snap i d => decide ((lo ≤ i ∧ i < hi) ∧ eligible snap = e ∧ roundRobinIndex i e = p ∧
      d = (e[p]?).map roundRobinDecision)
  | _ => false

/-- If the numbers of a window were drawn by calls with the same eligible backends that have
returned, the calls that chose a position are those whose number has its residue. -/
theorem chose_iff {s : RoundRobin} (hs : s.Invariant) (hcalls : s.calls.length < 2 ^ 63)
    {e : List BackendState} {lo hi : ℕ} (hwindow : ∀ i, lo ≤ i → i < hi →
      ∃ snap d, eligible snap = e ∧ .returned snap i d ∈ s.calls)
    (p : ℕ) {c : SelectCall} (hc : c ∈ s.calls) :
    c.chose e lo hi p = true ↔ ∃ i, c.number? = some i ∧ (lo ≤ i ∧ i < hi) ∧ i % e.length = p := by
  constructor
  · intro h
    cases c with
    | returned snap i d =>
      obtain ⟨hin, -, hindex, -⟩ := of_decide_eq_true h
      rw [roundRobinIndex_eq (hs.number_lt_two_pow hcalls hc rfl)] at hindex
      exact ⟨i, rfl, hin, Int.ofNat_inj.mp hindex⟩
    | called snap => cases h
    | drawn snap i => cases h
    | refused snap => cases h
  · rintro ⟨i, hi, hin, rfl⟩
    have hnodup : s.numbers.Nodup := (hs.perm_range hcalls).nodup_iff.mpr List.nodup_range
    obtain ⟨snap, d, he, hmem⟩ := hwindow i hin.1 hin.2
    obtain rfl := eq_of_nodup_filterMap hnodup hc hmem hi rfl
    have hlt := hs.number_lt_two_pow hcalls hc rfl
    have hd : d = roundRobinPick i (eligible snap) := (hs.sound _ hc).2
    exact decide_eq_true ⟨hin, he, roundRobinIndex_eq hlt e, by rw [hd, he, roundRobinPick_eq hlt]⟩

/-- Round robin is fair under concurrency: in every interleaving of fewer than `2 ^ 63` calls
the index of each call is in range, and calls with the same eligible backends whose numbers
are consecutive and fill `k` cycles choose each of them `k` times. -/
theorem roundRobin_fair {as : List RoundRobinAction} {s : RoundRobin}
    (hrun : exec RoundRobin.step .init as = some s) (hcalls : s.calls.length < 2 ^ 63) :
    (∀ c ∈ s.calls, ∀ i ∈ c.number?, 0 ≤ roundRobinIndex i (eligible c.snap) ∧
      roundRobinIndex i (eligible c.snap) < (eligible c.snap).length) ∧
    ∀ (e : List BackendState) (a k : ℕ),
      (∀ i, a ≤ i → i < a + k * e.length →
        ∃ snap d, eligible snap = e ∧ .returned snap i d ∈ s.calls) →
      ∀ p < e.length, s.calls.countP (SelectCall.chose e a (a + k * e.length) p) = k := by
  have hs := RoundRobin.invariant_exec hrun
  refine ⟨fun c hc i hi => ?_, fun e a k hwindow p hp => ?_⟩
  · rw [roundRobinIndex_eq (hs.number_lt_two_pow hcalls hc hi)]
    have hpos := List.length_pos_of_ne_nil ((hs.sound c hc).eligible_ne_nil hi)
    exact ⟨Int.natCast_nonneg _, Int.ofNat_lt.mpr (Nat.mod_lt i hpos)⟩
  · have hchose : s.calls.countP (SelectCall.chose e a (a + k * e.length) p) =
        s.numbers.countP fun i => decide ((a ≤ i ∧ i < a + k * e.length) ∧ i % e.length = p) := by
      rw [RoundRobin.numbers, List.countP_filterMap]
      refine List.countP_congr fun c hc => ?_
      rw [chose_iff hs hcalls hwindow p hc]
      cases c.number? <;> simp
    rw [hchose, (hs.perm_range hcalls).countP_eq]
    refine countP_residue hp fun i hlo hhi => ?_
    obtain ⟨snap, d, -, hmem⟩ := hwindow i hlo hhi
    exact hs.number_lt hcalls hmem rfl

/-- Three calls over two backends of which the last draws first and the second returns first;
the two later numbers choose each backend once. -/
theorem threeCalls_fair :
    let snap : BackendSnapshot := ⟨[idleBackend "a", idleBackend "b"]⟩
    let s : RoundRobin := ⟨3, [.returned snap 1 (some (roundRobinDecision (idleBackend "b"))),
      .returned snap 2 (some (roundRobinDecision (idleBackend "a"))),
      .returned snap 0 (some (roundRobinDecision (idleBackend "a")))]⟩
    exec RoundRobin.step .init [.selectBackend snap, .selectBackend snap, .selectBackend snap,
      .advance 2, .advance 0, .advance 1, .advance 1, .advance 2, .advance 0] = some s ∧
      ∀ p < 2, s.calls.countP (SelectCall.chose snap.backends 1 3 p) = 1 := by
  intro snap s
  have hrun : exec RoundRobin.step .init [.selectBackend snap, .selectBackend snap,
      .selectBackend snap, .advance 2, .advance 0, .advance 1, .advance 1, .advance 2,
      .advance 0] = some s := by decide +kernel
  refine ⟨hrun, (roundRobin_fair hrun (by decide)).2 snap.backends 1 1 ?_⟩
  intro i hlo hhi
  obtain rfl | rfl : i = 1 ∨ i = 2 := by
    change i < 3 at hhi
    omega
  · exact ⟨snap, _, by decide +kernel, List.mem_cons_self⟩
  · exact ⟨snap, _, by decide +kernel, List.mem_cons_of_mem _ List.mem_cons_self⟩

end GpuSidecar.Routing
