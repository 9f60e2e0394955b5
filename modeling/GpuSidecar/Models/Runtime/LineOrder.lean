import GpuSidecar.Core.List.Reorder
import GpuSidecar.Models.Runtime.UnknownBounds

/-!
# The order of the exposition

Every metric of a snapshot is read off the samples by a first match, by a sum or by a
quantile. Sums do not depend on the order of the lines. A first match does as soon as an
exposition has several series of one gauge with different values, as it does with one
series per engine: which engine's load is published depends on the order. A quantile does
only if some bounds of the histogram it is taken from are not numbers.
-/

namespace GpuSidecar.Runtime

open Number Text

/-! ### The metrics by the way they are read -/

/-- The names of the gauges of a snapshot, each with its fallback. -/
def gaugeNames : List (List String) :=
  [["vllm:num_requests_running"], ["vllm:num_requests_waiting"],
    ["vllm:kv_cache_usage_perc", "vllm:gpu_cache_usage_perc"]]

/-- The names of the counters that are summed. -/
def sumNames : List String :=
  ["vllm:prompt_tokens_total", "vllm:generation_tokens_total", "vllm:num_preemptions_total",
    "vllm:prefix_cache_hits_total", "vllm:prefix_cache_queries_total",
    "vllm:request_success_total", "vllm:request_failure_total"]

/-- The names of the histograms, each with its fallbacks. -/
def quantileNames : List (List String) :=
  [["vllm:e2e_request_latency_seconds"], ["vllm:request_queue_time_seconds"],
    ["vllm:time_to_first_token_seconds"],
    ["vllm:inter_token_latency_seconds", "vllm:request_time_per_output_token_seconds",
      "vllm:time_per_output_token_seconds"]]

section

variable {α : Type}

/-- The metrics of a snapshot by the way they are read, under the names of the exposition. -/
def readings [Inhabited α] (gauge sum quantile : List String → Field α) :
    List (String × Field α) :=
  let running := gauge ["vllm:num_requests_running"]
  [("requests_running", running),
    ("requests_waiting", gauge ["vllm:num_requests_waiting"]),
    ("kv_cache_utilization", gauge ["vllm:kv_cache_usage_perc", "vllm:gpu_cache_usage_perc"]),
    ("active_sequences", if running.supported then running else unsup),
    ("prompt_tokens_per_s", sum ["vllm:prompt_tokens_total"]),
    ("generation_tokens_per_s", sum ["vllm:generation_tokens_total"]),
    ("request_latency_p50_s", quantile ["vllm:e2e_request_latency_seconds"]),
    ("queue_latency_p50_s", quantile ["vllm:request_queue_time_seconds"]),
    ("ttft_p50_s", quantile ["vllm:time_to_first_token_seconds"]),
    ("tpot_p50_s", quantile ["vllm:inter_token_latency_seconds",
      "vllm:request_time_per_output_token_seconds", "vllm:time_per_output_token_seconds"]),
    ("preemptions_total", sum ["vllm:num_preemptions_total"]),
    ("prefix_cache_hits_total", sum ["vllm:prefix_cache_hits_total"]),
    ("prefix_cache_queries_total", sum ["vllm:prefix_cache_queries_total"]),
    ("requests_success_total", sum ["vllm:request_success_total"]),
    ("requests_failed_total", sum ["vllm:request_failure_total"])]

theorem metrics_mapSamples [Zero α] [Add α] [Mul α] [LT α] [LE α] [DecidableEq α] [DecidableLT α]
    [DecidableLE α] [RatCast α] [Inhabited α] (parseFloat : Chars → Option α)
    (samples : List (PromSample α)) (m : RuntimeMetrics α) :
    (mapSamples parseFloat samples m).metrics =
      readings (setFirst (firstByName samples)) (setFirst (sumByName samples))
        (setFirst fun n => histogramQuantile parseFloat samples n ((1 / 2 : ℚ) : α)) := rfl

/-- With the same sums, metrics are equal if and only if all gauges and quantiles are. -/
theorem readings_inj [Inhabited α] {gauge gauge' sum quantile quantile' : List String → Field α} :
    readings gauge sum quantile = readings gauge' sum quantile' ↔
      (∀ names ∈ gaugeNames, gauge names = gauge' names) ∧
        ∀ names ∈ quantileNames, quantile names = quantile' names := by
  simp only [readings, gaugeNames, quantileNames, List.cons.injEq, Prod.mk.injEq, true_and,
    and_true, List.forall_mem_cons, List.not_mem_nil, false_imp_iff, implies_true]
  constructor
  · rintro ⟨hrunning, hwaiting, hutil, -, hlatency, hqueue, httft, htpot⟩
    exact ⟨⟨hrunning, hwaiting, hutil⟩, hlatency, hqueue, httft, htpot⟩
  · rintro ⟨⟨hrunning, hwaiting, hutil⟩, hlatency, hqueue, httft, htpot⟩
    exact ⟨hrunning, hwaiting, hutil, by rw [hrunning], hlatency, hqueue, httft, htpot⟩

theorem Field.ofOption_injective [Inhabited α] : Function.Injective (Field.ofOption (α := α)) := by
  intro v w h
  cases v <;> cases w <;> simp_all [ofOption, sup, unsup]

theorem setFirst_inj [Inhabited α] {read read' : String → Option α} {names : List String} :
    setFirst read names = setFirst read' names ↔
      names.findSome? read = names.findSome? read' :=
  Field.ofOption_injective.eq_iff

end

/-! ### The histogram of a quantile -/

section

variable {α : Type} [LT α] [DecidableLT α]

/-- Some bucket has counted something. -/
def counted [Zero α] (bs : List (Bucket α)) : Bool := bs.any fun b => decide (0 < b.count)

variable [IsStrictOrder α (· < ·)]

/-- The largest of the counts and of the number to start with. -/
theorem foldl_count_spec (bs : List (Bucket α)) (start : α) :
    let t := bs.foldl (fun total b => if total < b.count then b.count else total) start
    (t = start ∨ start < t ∧ ∃ b ∈ bs, b.count = t) ∧ ∀ b ∈ bs, ¬ t < b.count := by
  induction bs generalizing start with
  | nil => exact ⟨Or.inl rfl, nofun⟩
  | cons b bs ih =>
    rw [List.foldl_cons]
    split_ifs with hlt
    · obtain ⟨htotal, hlargest⟩ := ih b.count
      refine ⟨Or.inr ?_, List.forall_mem_cons.mpr ⟨?_, hlargest⟩⟩
      · rcases htotal with heq | ⟨hless, c, hc, heq⟩
        · exact ⟨heq.symm ▸ hlt, b, List.mem_cons_self, heq.symm⟩
        · exact ⟨Trans.trans hlt hless, c, List.mem_cons_of_mem b hc, heq⟩
      · intro hless
        rcases htotal with heq | ⟨habove, -⟩
        · exact irrefl _ (heq ▸ hless)
        · exact irrefl _ (Trans.trans hless habove)
    · obtain ⟨htotal, hlargest⟩ := ih start
      refine ⟨?_, List.forall_mem_cons.mpr ⟨?_, hlargest⟩⟩
      · rcases htotal with heq | ⟨hless, c, hc, heq⟩
        · exact Or.inl heq
        · exact Or.inr ⟨hless, c, List.mem_cons_of_mem b hc, heq⟩
      · intro hless
        rcases htotal with heq | ⟨habove, -⟩
        · exact hlt (heq ▸ hless)
        · exact hlt (Trans.trans habove hless)

variable [Zero α]

theorem largestCount_spec (bs : List (Bucket α)) :
    (largestCount bs = 0 ∨ 0 < largestCount bs ∧ ∃ b ∈ bs, b.count = largestCount bs) ∧
      ∀ b ∈ bs, ¬ largestCount bs < b.count :=
  foldl_count_spec bs 0

theorem largestCount_eq_zero_iff {bs : List (Bucket α)} :
    largestCount bs = 0 ↔ counted bs = false := by
  obtain ⟨htotal, hlargest⟩ := largestCount_spec bs
  simp only [counted, List.any_eq_false, decide_eq_true_eq]
  constructor
  · intro hzero b hb
    exact hzero ▸ hlargest b hb
  · intro hnone
    rcases htotal with hzero | ⟨hpos, b, hb, hcount⟩
    · exact hzero
    · exact absurd (hcount ▸ hpos) (hnone b hb)

end

section

variable {α : Type} [Zero α] [Mul α] [LT α] [LE α] [DecidableEq α] [DecidableLT α]
  [DecidableLE α] [RatCast α]

/-- The buckets of a histogram. -/
def bucketsOf (parseFloat : Chars → Option α) (samples : List (PromSample α)) (name : String) :
    List (Bucket α) :=
  samples.filterMap (readBucket parseFloat name)

/-- The buckets that a quantile is taken from: those of the first name that has counted
something. -/
def histogramOf (parseFloat : Chars → Option α) (samples : List (PromSample α))
    (names : List String) : Option (List (Bucket α)) :=
  (names.map (bucketsOf parseFloat samples)).find? counted

/-- A bucket holds a share of the total. -/
def reaches (q : α) (bs : List (Bucket α)) (b : Bucket α) : Bool :=
  decide (q * largestCount bs ≤ b.count)

variable [IsStrictOrder α (· < ·)]

theorem histogramQuantile_eq_boundFound (parseFloat : Chars → Option α)
    (samples : List (PromSample α)) (name : String) (q : α) :
    histogramQuantile parseFloat samples name q =
      let bs := bucketsOf parseFloat samples name
      if counted bs then some (boundFound (reaches q bs) bs) else none := by
  rw [histogramQuantile_eq, bucketsOf]
  generalize samples.filterMap (readBucket parseFloat name) = bs
  have hnone : (bs.isEmpty = true ∨ largestCount bs = 0) ↔ ¬ counted bs = true := by
    rw [largestCount_eq_zero_iff, Bool.not_eq_true, or_iff_right_iff_imp, List.isEmpty_iff]
    rintro rfl
    rfl
  simp only [hnone, ite_not]
  split_ifs with hcounted
  · have hfind : (sortByBound bs).find? (reaches q bs) = firstReaching bs q := rfl
    rw [boundFound, hfind]
    cases firstReaching bs q with
    | none => rfl
    | some b => exact (apply_ite some _ _ _).symm
  · rfl

/-- A quantile with fallbacks is a search in the histogram that it is taken from. -/
theorem findSome?_histogramQuantile (parseFloat : Chars → Option α)
    (samples : List (PromSample α)) (names : List String) (q : α) :
    names.findSome? (fun n => histogramQuantile parseFloat samples n q) =
      (histogramOf parseFloat samples names).map fun bs => boundFound (reaches q bs) bs := by
  induction names with
  | nil => rfl
  | cons n names ih =>
    rw [List.findSome?_cons, histogramQuantile_eq_boundFound, histogramOf, List.map_cons,
      List.find?_cons, ih]
    cases hcounted : counted (bucketsOf parseFloat samples n) <;> simp [hcounted, histogramOf]

end

/-! ### Other orders of the samples -/

section

variable {α : Type} {samples samples' : List (PromSample α)}

/-- All samples of a name have the same value. -/
def Uniform (samples : List (PromSample α)) (name : String) : Prop :=
  ∀ s ∈ samples, ∀ t ∈ samples, s.name = name.toList → t.name = name.toList → s.value = t.value

theorem firstByName_eq_none {name : String} :
    firstByName samples name = none ↔ ∀ s ∈ samples, s.name ≠ name.toList := by
  rw [firstByName, Option.map_eq_none_iff, List.find?_eq_none]
  simp only [decide_eq_true_eq, ne_eq]

theorem mem_of_firstByName {name : String} {v : α} (h : firstByName samples name = some v) :
    ∃ s ∈ samples, s.name = name.toList ∧ s.value = v := by
  obtain ⟨s, hs, rfl⟩ := Option.map_eq_some_iff.mp h
  exact ⟨s, List.mem_of_find?_eq_some hs, by simpa using List.find?_some hs, rfl⟩

theorem firstByName_perm (h : samples'.Perm samples) {name : String}
    (huniform : Uniform samples name) : firstByName samples' name = firstByName samples name := by
  cases hv : firstByName samples name with
  | none =>
    rw [firstByName_eq_none] at hv ⊢
    exact fun s hs => hv s (h.mem_iff.mp hs)
  | some v =>
    obtain ⟨s, hs, hname, rfl⟩ := mem_of_firstByName hv
    cases hv' : firstByName samples' name with
    | none => exact absurd hname (firstByName_eq_none.mp hv' s (h.mem_iff.mpr hs))
    | some v' =>
      obtain ⟨t, ht, hname', rfl⟩ := mem_of_firstByName hv'
      rw [huniform t (h.mem_iff.mp ht) s hs hname' hname]

/-- Any sample of a name comes first in some order. -/
theorem exists_perm_first {s : PromSample α} (hs : s ∈ samples) {name : String}
    (hname : s.name = name.toList) :
    ∃ samples' : List (PromSample α), samples'.Perm samples ∧
      firstByName samples' name = some s.value := by
  obtain ⟨before, after, rfl⟩ := List.append_of_mem hs
  refine ⟨s :: (before ++ after), List.perm_middle.symm, ?_⟩
  simp [firstByName, hname]

/-- When no order changes the first match of a name, its samples have one value. -/
theorem uniform_of_firstByName {name : String}
    (h : ∀ samples' : List (PromSample α), samples'.Perm samples →
      firstByName samples' name = firstByName samples name) :
    Uniform samples name := by
  intro s hs t ht hsname htname
  obtain ⟨ss, hss, hsfirst⟩ := exists_perm_first hs hsname
  obtain ⟨ts, hts, htfirst⟩ := exists_perm_first ht htname
  exact Option.some.inj (hsfirst.symm.trans ((h ss hss).trans ((h ts hts).symm.trans htfirst)))

/-- A first match with a fallback is the same in another order if and only if that of the first
name is and, where there is none, that of the second. -/
theorem findSome?_firstByName_pair (h : samples'.Perm samples) {first second : String} :
    [first, second].findSome? (firstByName samples') =
        [first, second].findSome? (firstByName samples) ↔
      firstByName samples' first = firstByName samples first ∧
        ((∀ s ∈ samples, s.name ≠ first.toList) →
          firstByName samples' second = firstByName samples second) := by
  have hnone : firstByName samples' first = none ↔ firstByName samples first = none := by
    simp only [firstByName_eq_none, h.mem_iff]
  rw [← firstByName_eq_none]
  cases hv : firstByName samples first with
  | none => simp [hv, hnone.mpr hv]
  | some v =>
    obtain ⟨v', hv'⟩ := Option.ne_none_iff_exists'.mp (mt hnone.mp (by simp [hv]))
    simp [hv, hv']

variable [Zero α] [LT α] [DecidableLT α]

theorem counted_perm {bs bs' : List (Bucket α)} (h : bs'.Perm bs) :
    counted bs' = counted bs := h.any_eq

variable [RatCast α]

/-- Another order of the samples gives another order of the histogram. -/
theorem histogramOf_perm (h : samples'.Perm samples) (parseFloat : Chars → Option α)
    (names : List String) :
    (histogramOf parseFloat samples' names = none ∧ histogramOf parseFloat samples names = none) ∨
      ∃ bs' bs, histogramOf parseFloat samples' names = some bs' ∧
        histogramOf parseFloat samples names = some bs ∧ bs'.Perm bs := by
  induction names with
  | nil => exact Or.inl ⟨rfl, rfl⟩
  | cons n names ih =>
    have hperm : (bucketsOf parseFloat samples' n).Perm (bucketsOf parseFloat samples n) :=
      h.filterMap _
    have hcounted := counted_perm hperm
    rw [histogramOf, histogramOf, List.map_cons, List.map_cons, List.find?_cons, List.find?_cons,
      hcounted]
    cases counted (bucketsOf parseFloat samples n) with
    | false => exact ih
    | true => exact Or.inr ⟨_, _, rfl, rfl, hperm⟩

/-- Every order of a histogram comes from an order of the samples, in which those that it is not
read from keep theirs. -/
theorem exists_perm_histogramOf {parseFloat : Chars → Option α} {names : List String}
    {bs bs' : List (Bucket α)} (h : histogramOf parseFloat samples names = some bs)
    (hperm : bs'.Perm bs) :
    ∃ samples' : List (PromSample α), samples'.Perm samples ∧
      histogramOf parseFloat samples' names = some bs' ∧
      ∀ p : PromSample α → Bool,
        (∀ s, p s = true → ∀ n ∈ names, readBucket parseFloat n s = none) →
          samples'.filter p = samples.filter p := by
  rw [histogramOf, List.find?_map, Option.map_eq_some_iff] at h
  obtain ⟨n, hn, rfl⟩ := h
  obtain ⟨hcounted, before, after, hnames, hbefore⟩ := List.find?_eq_some_iff_append.mp hn
  obtain ⟨samples', hsamples, hbuckets, hkept⟩ := Reorder.exists_perm_filterMap hperm
  have hskipped : ∀ m ∈ before, counted (bucketsOf parseFloat samples' m) = false := by
    intro m hm
    have hview : (bucketsOf parseFloat samples' m).Perm (bucketsOf parseFloat samples m) :=
      hsamples.filterMap _
    rw [counted_perm hview]
    simpa using hbefore m hm
  refine ⟨samples', hsamples, ?_, fun p hp => hkept p fun s hs => hp s hs n (by simp [hnames])⟩
  have hfound : names.find? (counted ∘ bucketsOf parseFloat samples') = some n := by
    rw [List.find?_eq_some_iff_append]
    refine ⟨?_, before, after, hnames, fun m hm => by simp [hskipped m hm]⟩
    rw [Function.comp_apply, bucketsOf, hbuckets, counted_perm hperm]
    exact hcounted
  rw [histogramOf, List.find?_map, hfound, Option.map_some, bucketsOf, hbuckets]

end

variable {samples samples' : List (PromSample Extended)}

theorem sumByName_perm (h : samples'.Perm samples) (name : String) :
    sumByName samples' name = sumByName samples name := by
  have hfound : (samples'.filter fun s => s.name = name.toList).Perm
      (samples.filter fun s => s.name = name.toList) := h.filter _
  have hsum := hfound.foldl_eq' (f := fun sum s => sum + s.value)
    (fun s _ t _ z => Extended.add_swap z s.value t.value) 0
  rw [sumByName, sumByName]
  simp only [hfound.isEmpty_eq, hsum]

/-- The largest count is known, and is the same in every order. -/
theorem largestCount_perm {bs bs' : List (Bucket Extended)} (h : bs'.Perm bs) :
    largestCount bs' = largestCount bs := by
  have hknown : ∀ bs : List (Bucket Extended), largestCount bs ≠ .nan := by
    intro bs
    rcases (largestCount_spec bs).1 with hzero | ⟨hpos, -⟩
    · rw [hzero]
      exact Extended.noConfusion
    · exact (Extended.ne_nan_of_lt hpos).2
  have hnot : ∀ {bs bs' : List (Bucket Extended)}, bs'.Perm bs →
      ¬ largestCount bs < largestCount bs' := by
    intro bs bs' hperm hlt
    rcases (largestCount_spec bs').1 with hzero | ⟨-, b, hb, hcount⟩
    · rw [hzero] at hlt
      rcases (largestCount_spec bs).1 with hzero' | ⟨hpos, -⟩
      · exact irrefl _ (hzero' ▸ hlt)
      · exact irrefl _ (Trans.trans hpos hlt)
    · exact (largestCount_spec bs).2 b (hperm.mem_iff.mp hb) (hcount ▸ hlt)
  exact Extended.eq_of_not_lt (hknown bs') (hknown bs) (hnot h.symm) (hnot h)

theorem reaches_perm {bs bs' : List (Bucket Extended)} (h : bs'.Perm bs) (q : Extended) :
    reaches q bs' = reaches q bs := by
  funext b
  rw [reaches, reaches, largestCount_perm h]

/-- No order of the samples changes a quantile if and only if its histogram is settled. -/
theorem quantile_perm_iff_settled (parseFloat : Chars → Option Extended) (q : Extended)
    (names : List String) :
    (∀ samples' : List (PromSample Extended), samples'.Perm samples →
      names.findSome? (fun n => histogramQuantile parseFloat samples' n q) =
        names.findSome? fun n => histogramQuantile parseFloat samples n q) ↔
      ∀ bs, histogramOf parseFloat samples names = some bs → Settled (reaches q bs) bs := by
  simp only [findSome?_histogramQuantile]
  constructor
  · intro h bs hbs
    refine boundFound_perm_iff_settled.mp fun bs' hperm => ?_
    obtain ⟨samples', hsamples, hbs', -⟩ := exists_perm_histogramOf hbs hperm
    have hsame := h samples' hsamples
    rw [hbs, hbs', Option.map_some, Option.map_some, Option.some_inj, reaches_perm hperm] at hsame
    exact hsame
  · intro h samples' hsamples
    rcases histogramOf_perm hsamples parseFloat names with ⟨hnone', hnone⟩ |
      ⟨bs', bs, hbs', hbs, hperm⟩
    · rw [hnone, hnone']
    · rw [hbs, hbs', Option.map_some, Option.map_some, reaches_perm hperm,
        boundFound_perm_iff_settled.mpr (h bs hbs) bs' hperm]

/-! ### The snapshot -/

/-- Where a snapshot takes a first match, there is one value to match. The second name of the
utilization is read only without a sample of the first. -/
structure UniformGauges (samples : List (PromSample Extended)) : Prop where
  running : Uniform samples "vllm:num_requests_running"
  waiting : Uniform samples "vllm:num_requests_waiting"
  kv : Uniform samples "vllm:kv_cache_usage_perc"
  gpu : (∀ s ∈ samples, s.name ≠ "vllm:kv_cache_usage_perc".toList) →
    Uniform samples "vllm:gpu_cache_usage_perc"

/-- No order of the samples changes a gauge if and only if the gauges have one value each. -/
theorem gauges_perm_iff_uniformGauges :
    (∀ samples' : List (PromSample Extended), samples'.Perm samples → ∀ names ∈ gaugeNames,
      names.findSome? (firstByName samples') = names.findSome? (firstByName samples)) ↔
      UniformGauges samples := by
  have hsingle : ∀ (samples : List (PromSample Extended)) name,
      [name].findSome? (firstByName samples) = firstByName samples name :=
    fun samples name => List.findSome?_singleton
  simp only [gaugeNames, List.forall_mem_cons, List.not_mem_nil, false_imp_iff, implies_true,
    and_true, hsingle]
  constructor
  · intro h
    have hpair := fun samples' hperm => (findSome?_firstByName_pair hperm).mp (h samples' hperm).2.2
    refine ⟨uniform_of_firstByName fun samples' hperm => (h samples' hperm).1,
      uniform_of_firstByName fun samples' hperm => (h samples' hperm).2.1,
      uniform_of_firstByName fun samples' hperm => (hpair samples' hperm).1,
      fun hmissing => uniform_of_firstByName fun samples' hperm => ?_⟩
    exact (hpair samples' hperm).2 hmissing
  · intro h samples' hperm
    refine ⟨firstByName_perm hperm h.running, firstByName_perm hperm h.waiting,
      (findSome?_firstByName_pair hperm).mpr ⟨firstByName_perm hperm h.kv, fun hmissing => ?_⟩⟩
    exact firstByName_perm hperm (h.gpu hmissing)

/-- Every order of the samples gives the same metrics. -/
def OrderFree (parseFloat : Chars → Option Extended) (samples : List (PromSample Extended))
    (m : RuntimeMetrics Extended) : Prop :=
  ∀ samples', samples'.Perm samples →
    (mapSamples parseFloat samples' m).metrics = (mapSamples parseFloat samples m).metrics

/-- Another order gives the same metrics if and only if it gives the same first matches and the
same quantiles. -/
theorem metrics_perm_iff (parseFloat : Chars → Option Extended) (m : RuntimeMetrics Extended)
    (h : samples'.Perm samples) :
    (mapSamples parseFloat samples' m).metrics = (mapSamples parseFloat samples m).metrics ↔
      (∀ names ∈ gaugeNames,
        names.findSome? (firstByName samples') = names.findSome? (firstByName samples)) ∧
      ∀ names ∈ quantileNames,
        names.findSome?
            (fun n => histogramQuantile parseFloat samples' n ((1 / 2 : ℚ) : Extended)) =
          names.findSome?
            fun n => histogramQuantile parseFloat samples n ((1 / 2 : ℚ) : Extended) := by
  have hsum : sumByName samples' = sumByName samples := funext (sumByName_perm h)
  rw [metrics_mapSamples, metrics_mapSamples, hsum, readings_inj]
  simp only [setFirst_inj]

/-- For every list of samples, all its orders give the same metrics if and only if each gauge
has one value in all the series it is read from and each histogram that a quantile is taken
from is settled. -/
theorem orderFree_iff_uniformGauges (parseFloat : Chars → Option Extended)
    (samples : List (PromSample Extended)) (m : RuntimeMetrics Extended) :
    OrderFree parseFloat samples m ↔
      UniformGauges samples ∧
      ∀ names ∈ quantileNames, ∀ bs, histogramOf parseFloat samples names = some bs →
        Settled (reaches ((1 / 2 : ℚ) : Extended) bs) bs := by
  constructor
  · intro h
    have hsame := fun samples' hperm => (metrics_perm_iff parseFloat m hperm).mp (h samples' hperm)
    refine ⟨gauges_perm_iff_uniformGauges.mp fun samples' hperm => (hsame samples' hperm).1, ?_⟩
    intro names hnames
    exact (quantile_perm_iff_settled parseFloat _ names).mp
      fun samples' hperm => (hsame samples' hperm).2 names hnames
  · rintro ⟨huniform, hsettled⟩ samples' hperm
    refine (metrics_perm_iff parseFloat m hperm).mpr
      ⟨gauges_perm_iff_uniformGauges.mpr huniform samples' hperm, fun names hnames => ?_⟩
    exact (quantile_perm_iff_settled parseFloat _ names).mpr (hsettled names hnames) samples' hperm

/-- The running requests of an engine. -/
def runningSample (n : ℚ) : PromSample Extended where
  name := "vllm:num_requests_running".toList
  labels _ := none
  value := .finite n

/-- Two engines, idle and busy: the load that is published is that of the engine which comes
first. -/
theorem twoEngines_not_orderFree :
    let running (samples : List (PromSample Extended)) :=
      (mapSamples (fun _ => none) samples (.empty 0)).requestsRunning.value
    running [runningSample 0, runningSample 8] = .finite 0 ∧
      running [runningSample 8, runningSample 0] = .finite 8 ∧
      ¬ OrderFree (fun _ => none) [runningSample 0, runningSample 8] (.empty 0) := by
  refine ⟨rfl, rfl, fun h => ?_⟩
  have hmetrics := h [runningSample 8, runningSample 0] (List.Perm.swap _ _ _)
  have hfirst := ((metrics_perm_iff _ _ (List.Perm.swap _ _ _)).mp hmetrics).1
    ["vllm:num_requests_running"] List.mem_cons_self
  cases Extended.finite.inj (Option.some.inj hfirst)

end GpuSidecar.Runtime
