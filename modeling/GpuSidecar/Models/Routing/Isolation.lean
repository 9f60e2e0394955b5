import GpuSidecar.Models.Routing.Registry

/-!
# Isolation of routing decisions

A request that decides beside a refresh may read a snapshot of one refresh and entries of
the directories of others. As long as every entry it reads is the one that the refresh
of its snapshot produced, the costs it has are those of that refresh, and so is its
choice, whatever else is interleaved.
-/

namespace GpuSidecar.Routing

open Run Pool

/-- The backend that the policy chooses on the snapshot and the directory of one refresh. -/
def choiceOn (cfg : CacheAwareConfig) (features : RequestFeatures) (r : Refresh) : Option String :=
  ((Policy.cacheAware cfg).selectBackend ⟨0, r.directory.locator⟩ features r.snapshot).map
    RouteDecision.backendID

/-- The choice of a request that has decided; the inner none is the policy's error. -/
def Decider.chosen (q : Decider) : Option (Option String) :=
  match q.phase with
  | .decided decision => some (decision.map RouteDecision.backendID)
  | _ => none

namespace RegistrySystem

/-- Every choice made is the choice on one of the refreshes. -/
def Isolated (cfg : CacheAwareConfig) (s : RegistrySystem) : Prop :=
  ∀ q ∈ s.requests, ∀ choice ∈ q.chosen, choice ∈ s.refreshes.map (choiceOn cfg q.features)

instance (cfg : CacheAwareConfig) (s : RegistrySystem) : Decidable (s.Isolated cfg) :=
  inferInstanceAs (Decidable (∀ q ∈ s.requests, ∀ choice ∈ q.chosen,
    choice ∈ s.refreshes.map (choiceOn cfg q.features)))

/-- When a request consults the directory for a backend, the entry installed is the one
that the refresh of its snapshot produced. -/
def ReadsOwnRefresh (cfg : CacheAwareConfig) (s : RegistrySystem) : RegistryAction → Prop
  | .decider i .evaluate =>
    ∀ q source b todo costs, s.requests[i]? = some q → q.phase = .costing source (b :: todo) costs →
      cfg.consults q.features b = true →
        s.cacheDir.lookupPrefixTokens b.id q.features.prefixKeyHash =
          source.directory.lookupPrefixTokens b.id q.features.prefixKeyHash
  | _ => True

end RegistrySystem

/-- The costs that a request has, or the decision it made, are those on one of the
refreshes. -/
def Decider.Sound (cfg : CacheAwareConfig) (refreshes : List Refresh) (q : Decider) : Prop :=
  match q.phase with
  | .arrived => True
  | .costing source todo costs => source ∈ refreshes ∧ ∃ visited,
      eligible source.snapshot = visited ++ todo ∧
        costs = visited.map (cfg.cost source.directory.locator q.features)
  | .decided decision => ∃ r ∈ refreshes, decision =
      (Policy.cacheAware cfg).selectBackend ⟨0, r.directory.locator⟩ q.features r.snapshot

namespace Decider.Sound

variable {cfg : CacheAwareConfig} {refreshes : List Refresh} {q q' : Decider}

/-- Further refreshes change nothing. -/
theorem append (h : q.Sound cfg refreshes) (more : List Refresh) :
    q.Sound cfg (refreshes ++ more) := by
  rcases q with ⟨features, phase⟩
  cases phase with
  | arrived => trivial
  | costing source todo costs => exact ⟨List.mem_append_left more h.1, h.2⟩
  | decided decision =>
    obtain ⟨r, hr, hdecision⟩ := h
    exact ⟨r, List.mem_append_left more hr, hdecision⟩

/-- A request that reads entries of its own refresh stays sound. -/
theorem step {stored : Refresh} {cacheDir : Directory} {act : DeciderStep}
    (h : q.Sound cfg refreshes) (hstored : stored ∈ refreshes)
    (hown : ∀ source b todo costs, act = .evaluate → q.phase = .costing source (b :: todo) costs →
      cfg.consults q.features b = true →
        cacheDir.lookupPrefixTokens b.id q.features.prefixKeyHash =
          source.directory.lookupPrefixTokens b.id q.features.prefixKeyHash)
    (hstep : q.step cfg stored cacheDir act = some q') : q'.Sound cfg refreshes := by
  rcases q with ⟨features, phase⟩
  rcases Decider.step_cases hstep with ⟨-, -, rfl⟩ | ⟨source, b, todo, costs, hact, hphase, rfl⟩ |
    ⟨source, costs, -, hphase, rfl⟩
  · exact ⟨hstored, [], rfl, rfl⟩
  · have hcost := CacheAwareConfig.cost_congr (hown source b todo costs hact hphase)
    obtain rfl : phase = .costing source (b :: todo) costs := hphase
    obtain ⟨hsource, visited, hvisited, hcosts⟩ := h
    refine ⟨hsource, visited ++ [b], by simpa using hvisited, ?_⟩
    rw [List.map_append, ← hcosts]
    exact congrArg (fun c => costs ++ [c]) hcost
  · obtain rfl : phase = .costing source [] costs := hphase
    obtain ⟨hsource, visited, hvisited, hcosts⟩ := h
    refine ⟨source, hsource, ?_⟩
    rw [List.append_nil] at hvisited
    rw [Policy.selectBackend_cacheAware, hvisited]
    exact congrArg cacheAwareDecision hcosts

/-- The choice of a sound request is that on one of the refreshes. -/
theorem chosen_mem (h : q.Sound cfg refreshes) {choice : Option String}
    (hchoice : choice ∈ q.chosen) : choice ∈ refreshes.map (choiceOn cfg q.features) := by
  rcases q with ⟨features, phase⟩
  cases phase with
  | arrived => cases hchoice
  | costing source todo costs => cases hchoice
  | decided decision =>
    obtain ⟨r, hr, hdecision⟩ := h
    refine List.mem_map.mpr ⟨r, hr, ?_⟩
    rw [choiceOn, ← hdecision]
    exact Option.some.inj hchoice

end Decider.Sound

namespace RegistrySystem

/-- The stored snapshot is that of a refresh, and every request is sound. -/
structure Sound (cfg : CacheAwareConfig) (s : RegistrySystem) : Prop where
  stored_mem : s.stored ∈ s.refreshes
  requests : ∀ q ∈ s.requests, q.Sound cfg s.refreshes

theorem newRegistry_sound (cfg : CacheAwareConfig) : newRegistry.Sound cfg where
  stored_mem := List.mem_singleton_self _
  requests := by simp [newRegistry]

/-- A step of the system keeps its requests sound if it reads entries of the refresh of the
reader's snapshot. -/
theorem Sound.step {cfg : CacheAwareConfig} {s t : RegistrySystem} {a : RegistryAction}
    (h : s.Sound cfg) (hown : ReadsOwnRefresh cfg s a) (hstep : step cfg s a = some t) :
    t.Sound cfg := by
  rcases step_cases hstep with ⟨polled, -, -, rfl⟩ | ⟨dir, -, -, rfl⟩ | ⟨features, -, rfl⟩ |
    ⟨i, act, q, q', rfl, hq, hact, rfl⟩
  · refine ⟨by simp, ?_⟩
    intro q hq
    exact (h.requests q hq).append _
  · exact ⟨h.stored_mem, h.requests⟩
  · refine ⟨h.stored_mem, List.forall_mem_append.mpr ⟨h.requests, ?_⟩⟩
    exact List.forall_mem_singleton.mpr trivial
  · refine ⟨h.stored_mem, (forall_mem_set_iff hq h.requests).mpr ?_⟩
    refine (h.requests q (List.mem_of_getElem? hq)).step h.stored_mem ?_ hact
    rintro source b todo costs rfl hphase
    exact hown q source b todo costs hq hphase

/-- In every interleaving of refreshes and requests in which each request reads directory
entries of the refresh of its snapshot, every choice is the choice on the snapshot and the
directory of one refresh. -/
theorem isolated_of_readsOwnRefresh (cfg : CacheAwareConfig) (as : List RegistryAction)
    (hmeet : StepsMeet (step cfg) (ReadsOwnRefresh cfg) newRegistry as) :
    Always (step cfg) (Isolated cfg) newRegistry as := by
  have hsound : Always (step cfg) (Sound cfg) newRegistry as :=
    always_of_stepsMeet (newRegistry_sound cfg) (fun _ _ _ hs hown ha => hs.step hown ha) hmeet
  intro before after he s hs q hq choice hchoice
  exact ((hsound before after he s hs).requests q hq).chosen_mem hchoice

/-- An observed backend with some requests queued. -/
def observedBackend (id : String) (queued : ℤ) : BackendState :=
  { idleBackend id with
    queueDepth := queued
    cacheObservationSupported := true
    cacheConfidence := 1 }

/-- A request of a thousand tokens with an explicit prefix. -/
def prefixRequest : RequestFeatures := ⟨true, 1000, 0, "k", 0, true⟩

/-- A refresh with the prefix cached on the second backend. -/
def warmPoll : List Polled :=
  [⟨observedBackend "a" 0, none⟩, ⟨observedBackend "b" 2, some (AList.singleton "k" 1000)⟩,
    ⟨observedBackend "c" 4, none⟩]

/-- A later refresh after the cache was reset. -/
def coldPoll : List Polled :=
  [⟨observedBackend "a" 4, none⟩, ⟨observedBackend "b" 4, none⟩, ⟨observedBackend "c" 0, none⟩]

/-- A request decides between two refreshes. -/
def undisturbedRun : List RegistryAction :=
  [.store warmPoll, .swap, .arrive prefixRequest, .decider 0 .readSnapshot, .decider 0 .evaluate,
    .decider 0 .evaluate, .decider 0 .evaluate, .decider 0 .choose]

/-- The undisturbed request reads its own refresh, and chooses the backend that has the
prefix. -/
theorem undisturbedRun_isolated :
    ((exec (step defaultCacheAwareConfig) newRegistry undisturbedRun).map fun s =>
        s.requests.map Decider.chosen) = some [some (some "b")] ∧
      Always (step defaultCacheAwareConfig) (Isolated defaultCacheAwareConfig) newRegistry
        undisturbedRun := by
  refine ⟨by decide +kernel, isolated_of_readsOwnRefresh _ _ ?_⟩
  refine stepsMeet_cons.mpr ⟨trivial, fun _ h₁ => ?_⟩
  cases h₁
  refine stepsMeet_cons.mpr ⟨trivial, fun _ h₂ => ?_⟩
  cases h₂
  refine stepsMeet_cons.mpr ⟨trivial, fun _ h₃ => ?_⟩
  cases h₃
  refine stepsMeet_cons.mpr ⟨trivial, fun _ h₄ => ?_⟩
  cases h₄
  iterate 3
    refine stepsMeet_cons.mpr ⟨?_, fun _ h₅ => ?_⟩
    · rintro q source b todo costs hq hphase -
      cases hq
      cases hphase
      rfl
    cases h₅
  exact stepsMeet_cons.mpr ⟨trivial, fun _ _ => stepsMeet_nil _ _ _⟩

/-- A refresh falls between reading the snapshot and the first cost. -/
def overtakenRun : List RegistryAction :=
  [.store warmPoll, .swap, .arrive prefixRequest, .decider 0 .readSnapshot, .store coldPoll,
    .swap, .decider 0 .evaluate, .decider 0 .evaluate, .decider 0 .evaluate, .decider 0 .choose]

/-- The request chooses the first backend, which no refresh makes it choose. -/
theorem overtakenRun_not_isolated :
    ((exec (step defaultCacheAwareConfig) newRegistry overtakenRun).map fun s =>
        (s.requests.map Decider.chosen,
          s.refreshes.map (choiceOn defaultCacheAwareConfig prefixRequest))) =
      some ([some (some "a")], [none, some "b", some "c"]) ∧
    ¬ Always (step defaultCacheAwareConfig) (Isolated defaultCacheAwareConfig) newRegistry
      overtakenRun := by
  refine ⟨by decide +kernel, fun halways => ?_⟩
  have hbad : ((exec (step defaultCacheAwareConfig) newRegistry overtakenRun).map fun s =>
      decide (s.Isolated defaultCacheAwareConfig)) = some false := by
    decide +kernel
  obtain ⟨s, hs, hnot⟩ := Option.map_eq_some_iff.mp hbad
  exact of_decide_eq_false hnot (halways overtakenRun [] (by simp) s hs)

end RegistrySystem

end GpuSidecar.Routing
