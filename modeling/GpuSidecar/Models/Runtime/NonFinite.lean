import GpuSidecar.Core.Number.Double
import GpuSidecar.Models.Runtime.LineOrder

/-!
# Numbers that no document can hold

The standard library reads `NaN` and the infinities as numbers, and the parser of the
exposition takes whatever it reads; a sum of finite numbers can overflow. This file follows
such numbers through the metrics of a snapshot to the document that `/v1/runtime` answers:
the encoder refuses a number that is not finite, its error is dropped, and the body stays
empty. It says for which samples no metric is affected, whatever the order of the buckets.
-/

namespace GpuSidecar.Runtime

open Number Text

section maps

variable {α β : Type}

def Field.map (f : α → β) (x : Field α) : Field β := ⟨f x.value, x.supported⟩

/-- The same snapshot with other numbers. -/
def RuntimeMetrics.map (f : α → β) (m : RuntimeMetrics α) : RuntimeMetrics β where
  timestamp := m.timestamp
  healthy := m.healthy
  scrapeOK := m.scrapeOK
  scrapeAgeMs := m.scrapeAgeMs
  scrapeLatencyMs := m.scrapeLatencyMs
  requestsRunning := m.requestsRunning.map f
  requestsWaiting := m.requestsWaiting.map f
  kvCacheUtil := m.kvCacheUtil.map f
  activeSequences := m.activeSequences.map f
  promptThroughput := m.promptThroughput.map f
  genThroughput := m.genThroughput.map f
  requestLatencyP50 := m.requestLatencyP50.map f
  queueLatencyP50 := m.queueLatencyP50.map f
  ttftP50 := m.ttftP50.map f
  tpotP50 := m.tpotP50.map f
  preemptionsTotal := m.preemptionsTotal.map f
  prefixCacheHits := m.prefixCacheHits.map f
  prefixCacheQueries := m.prefixCacheQueries.map f
  requestsSuccess := m.requestsSuccess.map f
  requestsFailed := m.requestsFailed.map f
  modelName := m.modelName
  runtimeVersion := m.runtimeVersion
  rawMetricSources := m.rawMetricSources
  unsupportedFields := m.unsupportedFields

theorem RuntimeMetrics.metrics_map (f : α → β) (m : RuntimeMetrics α) :
    (m.map f).metrics = m.metrics.map fun p => (p.1, p.2.map f) := rfl

end maps

/-! ### Finite metrics -/

/-- A property of fields holds of all metrics if it holds of what each is read as. -/
theorem forall_readings {α : Type} [Inhabited α] {P : Field α → Prop} (hunsup : P unsup)
    (gauge sum quantile : List String → Field α) :
    (∀ p ∈ readings gauge sum quantile, P p.2) ↔
      (∀ names ∈ gaugeNames, P (gauge names)) ∧ (∀ name ∈ sumNames, P (sum [name])) ∧
        ∀ names ∈ quantileNames, P (quantile names) := by
  have hactive : P (gauge ["vllm:num_requests_running"]) →
      P (if (gauge ["vllm:num_requests_running"]).supported then
        gauge ["vllm:num_requests_running"] else unsup) := by
    intro h
    split
    · exact h
    · exact hunsup
  simp only [readings, gaugeNames, sumNames, quantileNames, List.forall_mem_cons,
    List.not_mem_nil, false_imp_iff, implies_true, and_true]
  constructor
  · rintro ⟨hrun, hwait, hutil, -, hprompt, hgen, hlat, hqueue, httft, htpot, hpre, hhits, hqueries,
      hsucc, hfail⟩
    exact ⟨⟨hrun, hwait, hutil⟩, ⟨hprompt, hgen, hpre, hhits, hqueries, hsucc, hfail⟩, hlat, hqueue,
      httft, htpot⟩
  · rintro ⟨⟨hrun, hwait, hutil⟩, ⟨hprompt, hgen, hpre, hhits, hqueries, hsucc, hfail⟩, hlat,
      hqueue, httft, htpot⟩
    exact ⟨hrun, hwait, hutil, hactive hrun, hprompt, hgen, hlat, hqueue, httft, htpot, hpre, hhits,
      hqueries, hsucc, hfail⟩

theorem setFirst_isFinite_iff {read : String → Option Double} {names : List String} :
    (setFirst read names).value.isFinite = true ↔
      ∀ v, names.findSome? read = some v → v.isFinite = true := by
  rw [setFirst]
  cases names.findSome? read with
  | none => exact iff_of_true rfl fun v hv => absurd hv.symm (Option.some_ne_none v)
  | some v => simp [Field.ofOption, sup]

theorem setFirst_supported_isFinite_iff {read : String → Option Double} {names : List String} :
    ((setFirst read names).supported = true → (setFirst read names).value.isFinite = true) ↔
      ∀ v, names.findSome? read = some v → v.isFinite = true := by
  rw [setFirst]
  cases names.findSome? read with
  | none =>
    exact iff_of_true (absurd · Bool.false_ne_true)
      fun v hv => absurd hv.symm (Option.some_ne_none v)
  | some v => simp [Field.ofOption, sup]

/-- The values of the samples of a name, in the order of the samples. -/
def valuesOf (samples : List (PromSample Double)) (name : String) : List Double :=
  (samples.filter fun s => s.name = name.toList).map PromSample.value

theorem firstByName_eq_head? (samples : List (PromSample Double)) (name : String) :
    firstByName samples name = (valuesOf samples name).head? := by
  rw [valuesOf, List.head?_map, List.head?_filter]
  rfl

theorem sumByName_isFinite_iff {samples : List (PromSample Double)} {name : String} :
    (∀ v, [name].findSome? (sumByName samples) = some v → v.isFinite = true) ↔
      Double.SumStaysFinite 0 (valuesOf samples name) := by
  have hzero : (0 : Double).isFinite = true := rfl
  rw [List.findSome?_singleton, sumByName, valuesOf, ← Double.isFinite_foldl_add_iff hzero,
    List.foldl_map]
  split_ifs with hnone
  · rw [List.isEmpty_iff.mp hnone]
    exact iff_of_true (fun v hv => hv.elim) rfl
  · simp only [Option.some_inj, forall_eq']

/-- A bucket holds half of the total. -/
def holdsHalf (bs : List (Bucket Double)) : Bucket Double → Bool :=
  reaches ((1 / 2 : ℚ) : Double) bs

/-- Every number that reaches a metric is finite: the first sample of a gauge, the sum of a
counter, and the bound that a quantile finds. -/
structure FiniteReadings (parseFloat : Chars → Option Double)
    (samples : List (PromSample Double)) : Prop where
  gauges : ∀ names ∈ gaugeNames, ∀ v, names.findSome? (firstByName samples) = some v →
    v.isFinite = true
  sums : ∀ name ∈ sumNames, Double.SumStaysFinite 0 (valuesOf samples name)
  quantiles : ∀ names ∈ quantileNames, ∀ bs, histogramOf parseFloat samples names = some bs →
    (boundFound (holdsHalf bs) bs).isFinite = true

theorem quantile_isFinite_iff {parseFloat : Chars → Option Double}
    {samples : List (PromSample Double)} {names : List String} :
    (∀ v, names.findSome?
        (fun n => histogramQuantile parseFloat samples n ((1 / 2 : ℚ) : Double)) = some v →
      v.isFinite = true) ↔
      ∀ bs, histogramOf parseFloat samples names = some bs →
        (boundFound (holdsHalf bs) bs).isFinite = true := by
  rw [findSome?_histogramQuantile]
  simp only [Option.map_eq_some_iff, forall_exists_index, and_imp, forall_apply_eq_imp_iff₂,
    holdsHalf]

/-- The readings are finite if what is looked up by a name, or by the first of some names, is. -/
theorem finiteReadings_iff {parseFloat : Chars → Option Double}
    {samples : List (PromSample Double)} :
    ((∀ names ∈ gaugeNames, ∀ v, names.findSome? (firstByName samples) = some v →
        v.isFinite = true) ∧
      (∀ name ∈ sumNames, ∀ v, [name].findSome? (sumByName samples) = some v →
        v.isFinite = true) ∧
      ∀ names ∈ quantileNames, ∀ v, names.findSome?
          (fun n => histogramQuantile parseFloat samples n ((1 / 2 : ℚ) : Double)) = some v →
        v.isFinite = true) ↔ FiniteReadings parseFloat samples := by
  simp only [sumByName_isFinite_iff, quantile_isFinite_iff]
  exact ⟨fun ⟨hg, hs, hq⟩ => ⟨hg, hs, hq⟩, fun ⟨hg, hs, hq⟩ => ⟨hg, hs, hq⟩⟩

/-- All metrics of a snapshot are finite if and only if all readings are. -/
theorem metrics_isFinite_iff (parseFloat : Chars → Option Double)
    (samples : List (PromSample Double)) (m : RuntimeMetrics Double) :
    (∀ p ∈ (mapSamples parseFloat samples m).metrics, p.2.value.isFinite = true) ↔
      FiniteReadings parseFloat samples := by
  rw [metrics_mapSamples,
    forall_readings (P := fun f : Field Double => f.value.isFinite = true) rfl]
  simp only [setFirst_isFinite_iff]
  exact finiteReadings_iff

/-- Only the supported metrics matter: the others are zero. -/
theorem supported_isFinite_iff (parseFloat : Chars → Option Double)
    (samples : List (PromSample Double)) (m : RuntimeMetrics Double) :
    (∀ p ∈ (mapSamples parseFloat samples m).metrics,
      p.2.supported = true → p.2.value.isFinite = true) ↔
      FiniteReadings parseFloat samples := by
  rw [metrics_mapSamples, forall_readings
    (P := fun f : Field Double => f.supported = true → f.value.isFinite = true) nofun]
  simp only [setFirst_supported_isFinite_iff]
  exact finiteReadings_iff

/-! ### Other orders of the buckets -/

/-- The samples that a quantile can be taken from. -/
def isBucket (s : PromSample Double) : Bool :=
  quantileNames.flatten.any fun n => s.name = (n ++ "_bucket").toList

/-- Only the buckets of the histograms changed their places. -/
def BucketsReordered (samples' samples : List (PromSample Double)) : Prop :=
  samples'.Perm samples ∧
    samples'.filter (fun s => !isBucket s) = samples.filter fun s => !isBucket s

/-- What the samples of finite metrics are like: the first sample of a gauge is finite, the
samples of a counter are and their running sum does not overflow, and the bounds of the
histogram that a quantile is taken from allow a finite answer. -/
structure FiniteInputs (parseFloat : Chars → Option Double)
    (samples : List (PromSample Double)) : Prop where
  gauges : ∀ names ∈ gaugeNames, ∀ v, names.findSome? (firstByName samples) = some v →
    v.isFinite = true
  sums : ∀ name ∈ sumNames, Double.SumStaysFinite 0 (valuesOf samples name)
  quantiles : ∀ names ∈ quantileNames, ∀ bs, histogramOf parseFloat samples names = some bs →
    FiniteBounds (holdsHalf bs) bs

variable {parseFloat : Chars → Option Double} {samples samples' : List (PromSample Double)}

theorem holdsHalf_perm {bs bs' : List (Bucket Double)} (h : bs'.Perm bs) :
    holdsHalf bs' = holdsHalf bs := by
  have htotal : largestCount bs' = largestCount bs := largestCount_perm h
  funext b
  rw [holdsHalf, holdsHalf, reaches, reaches, htotal]

theorem not_isBucket {s : PromSample Double} {name : String}
    (hname : name ∈ gaugeNames.flatten ++ sumNames) (hs : s.name = name.toList) :
    isBucket s = false := by
  have hdistinct : ∀ n ∈ gaugeNames.flatten ++ sumNames, ∀ m ∈ quantileNames.flatten,
      n ≠ m ++ "_bucket" := by decide +kernel
  rw [isBucket, List.any_eq_false]
  intro m hm heq
  rw [decide_eq_true_eq, hs, String.toList_inj] at heq
  exact hdistinct name hname m hm heq

namespace BucketsReordered

theorem refl (samples : List (PromSample Double)) : BucketsReordered samples samples :=
  ⟨List.Perm.refl _, rfl⟩

theorem valuesOf_eq (h : BucketsReordered samples' samples) {name : String}
    (hname : name ∈ gaugeNames.flatten ++ sumNames) :
    valuesOf samples' name = valuesOf samples name := by
  have hplain : ∀ l : List (PromSample Double),
      valuesOf (l.filter fun s => !isBucket s) name = valuesOf l name := by
    intro l
    rw [valuesOf, valuesOf, List.filter_filter]
    congr 2
    funext s
    by_cases hs : s.name = name.toList
    · simp [hs, not_isBucket hname hs]
    · simp [hs]
  rw [← hplain samples', ← hplain samples, h.2]

theorem gauges_eq (h : BucketsReordered samples' samples) :
    ∀ names ∈ gaugeNames,
      names.findSome? (firstByName samples') = names.findSome? (firstByName samples) := by
  have hread : ∀ names ⊆ gaugeNames.flatten,
      names.findSome? (firstByName samples') = names.findSome? (firstByName samples) := by
    intro names
    induction names with
    | nil => exact fun _ => rfl
    | cons n names ih =>
      intro hsub
      obtain ⟨hn, hnames⟩ := List.cons_subset.mp hsub
      rw [List.findSome?_cons, List.findSome?_cons, ih hnames, firstByName_eq_head?,
        firstByName_eq_head?, h.valuesOf_eq (List.mem_append_left _ hn)]
  exact fun names hnames => hread names fun n hn => List.mem_flatten_of_mem hnames hn

end BucketsReordered

theorem ne_nil_of_histogramOf {names : List String} {bs : List (Bucket Double)}
    (h : histogramOf parseFloat samples names = some bs) : bs ≠ [] := by
  rintro rfl
  cases List.find?_some h

theorem double_boundFound_isFinite_iff {p : Bucket Double → Bool} {bs : List (Bucket Double)}
    (hne : bs ≠ []) :
    (∀ bs' : List (Bucket Double), bs'.Perm bs → (boundFound p bs').isFinite = true) ↔
      FiniteBounds p bs :=
  boundFound_isFinite_iff hne

/-- For every list of samples, all readings are finite in every order of the buckets if and only
if the samples allow it. -/
theorem finiteReadings_reordered_iff :
    (∀ samples', BucketsReordered samples' samples → FiniteReadings parseFloat samples') ↔
      FiniteInputs parseFloat samples := by
  constructor
  · intro h
    have hself := h samples (.refl samples)
    refine ⟨hself.gauges, hself.sums, fun names hnames bs hbs => ?_⟩
    refine (double_boundFound_isFinite_iff (ne_nil_of_histogramOf hbs)).mp fun bs' hperm => ?_
    obtain ⟨samples', hsamples, hbs', hkept⟩ := exists_perm_histogramOf hbs hperm
    have hreordered : BucketsReordered samples' samples := by
      refine ⟨hsamples, hkept _ fun s hs n hn => if_pos fun hname => ?_⟩
      rw [Bool.not_eq_true', isBucket, List.any_eq_false] at hs
      exact hs n (List.mem_flatten_of_mem hnames hn) (decide_eq_true hname)
    rw [← holdsHalf_perm hperm]
    exact (h samples' hreordered).quantiles names hnames bs' hbs'
  · intro h samples' hreordered
    refine ⟨?_, ?_, ?_⟩
    · intro names hnames
      rw [hreordered.gauges_eq names hnames]
      exact h.gauges names hnames
    · intro name hname
      rw [hreordered.valuesOf_eq (List.mem_append_right _ hname)]
      exact h.sums name hname
    · intro names hnames bs' hbs'
      rcases histogramOf_perm hreordered.1 parseFloat names with ⟨hnone, -⟩ |
        ⟨cs', cs, hcs', hcs, hperm⟩
      · rw [hnone] at hbs'
        cases hbs'
      · obtain rfl : cs' = bs' := Option.some.inj (hcs'.symm.trans hbs')
        rw [holdsHalf_perm hperm]
        exact (double_boundFound_isFinite_iff (ne_nil_of_histogramOf hcs)).mpr
          (h.quantiles names hnames cs hcs) cs' hperm

/-- No bound of a bucket is read as not-a-number. -/
def KnownBounds (parseFloat : Chars → Option Double) (samples : List (PromSample Double)) : Prop :=
  ∀ s ∈ samples, ∀ le, s.labels "le".toList = some le → parseFloat le ≠ some .nan

theorem KnownBounds.ne_nan (h : KnownBounds parseFloat samples) {names : List String}
    {bs : List (Bucket Double)} (hbs : histogramOf parseFloat samples names = some bs)
    {b : Bucket Double} (hb : b ∈ bs) : b.le ≠ .nan := by
  rw [histogramOf, List.find?_map, Option.map_eq_some_iff] at hbs
  obtain ⟨n, -, rfl⟩ := hbs
  obtain ⟨s, hs, hread⟩ := List.mem_filterMap.mp hb
  unfold readBucket at hread
  split_ifs at hread
  split at hread
  · cases hread
  · rename_i le hle
    split_ifs at hread
    · rw [← Option.some.inj hread]
      exact Extended.noConfusion
    · obtain ⟨f, hf, rfl⟩ := Option.map_eq_some_iff.mp hread
      rintro rfl
      exact h s hs le hle hf

/-- With known bounds the order that the buckets have is as good as any. -/
theorem finiteReadings_iff_of_known (h : KnownBounds parseFloat samples) :
    FiniteReadings parseFloat samples ↔ FiniteInputs parseFloat samples := by
  refine ⟨fun hread => ⟨hread.gauges, hread.sums, fun names hnames bs hbs => ?_⟩,
    fun hinput => finiteReadings_reordered_iff.mpr hinput samples (.refl samples)⟩
  refine (double_boundFound_isFinite_iff (ne_nil_of_histogramOf hbs)).mp fun bs' hperm => ?_
  have hsame : boundFound (holdsHalf bs) bs' = boundFound (holdsHalf bs) bs :=
    boundFound_perm_of_known hperm fun b hb => h.ne_nan hbs hb
  rw [hsame]
  exact hread.quantiles names hnames bs hbs

/-! ### The document -/

theorem Adapter.metrics_snapshot (a : Adapter Double) (now : ℤ) :
    (a.snapshot now).metrics = a.snap.metrics := rfl

/-- The body of `/v1/runtime`; the encoder refuses numbers that are not finite and then writes
nothing. -/
def RuntimeMetrics.encode (m : RuntimeMetrics Double) : Option Json.Object :=
  if m.metrics.all fun p => p.2.value.isFinite then some (m.map Double.toRat).toJson else none

theorem RuntimeMetrics.encode_eq_some {m : RuntimeMetrics Double}
    (h : ∀ p ∈ m.metrics, p.2.value.isFinite = true) :
    m.encode = some (m.map Double.toRat).toJson :=
  if_pos (List.all_eq_true.mpr h)

theorem RuntimeMetrics.encode_isSome_iff {m : RuntimeMetrics Double} :
    m.encode.isSome = true ↔ ∀ p ∈ m.metrics, p.2.value.isFinite = true := by
  rw [encode, ← List.all_eq_true]
  split_ifs with h
  · exact iff_of_true rfl h
  · exact iff_of_false Bool.false_ne_true h

end GpuSidecar.Runtime
