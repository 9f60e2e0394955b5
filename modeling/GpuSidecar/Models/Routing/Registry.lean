import Mathlib.Data.List.AList
import GpuSidecar.Core.Pool.Ledger
import GpuSidecar.Core.Run.Guarded
import GpuSidecar.Models.Routing.Policy

/-!
# The registry and its readers

The embedding of `Registry.refresh`, `Snapshot` and `LookupPrefixTokens` in
`internal/router/registry.go`, with the requests that run `CacheAwarePolicy` beside them.
A refresh first stores the snapshot and then swaps the cache directory. A request
reads the stored snapshot once, and the installed directory once for each eligible
backend. What polling a backend returns is an argument of the refresh.
-/

namespace GpuSidecar.Routing

/-- The matched tokens of the prefix keys that one backend published. -/
abbrev PrefixTokens := AList fun _ : String => ℤ

/-- The cache directory, by backend id. -/
abbrev Directory := AList fun _ : String => PrefixTokens

/-- The matched tokens of a backend and a prefix key; zero if there are none. -/
def Directory.lookupPrefixTokens (dir : Directory) (backendID prefixKeyHash : String) : ℤ :=
  if prefixKeyHash = "" then 0
  else match dir.lookup backendID with
    | some tokens => (tokens.lookup prefixKeyHash).getD 0
    | none => 0

/-- The policy's view of a directory. -/
def Directory.locator (dir : Directory) : Locator := some dir.lookupPrefixTokens

/-- What polling one backend returns: its state, and its directory if it published one. -/
structure Polled where
  state : BackendState
  tokens : Option PrefixTokens

/-- What one refresh produces. -/
structure Refresh where
  snapshot : BackendSnapshot
  directory : Directory

/-- The snapshot and the directory of a refresh. -/
def refreshOf (polled : List Polled) : Refresh where
  snapshot := ⟨polled.map Polled.state⟩
  directory := polled.foldl (fun dir p => match p.tokens with
    | some tokens => dir.insert p.state.id tokens
    | none => dir) ∅

/-- Where a request stands in `SelectBackend`. -/
inductive DeciderPhase where
  | arrived
  /-- It holds the snapshot of a refresh, of which it uses nothing else, and has the costs
  of some of the eligible backends. -/
  | costing (source : Refresh) (todo : List BackendState) (costs : List CandidateCost)
  | decided (decision : Option RouteDecision)

/-- A request being routed. -/
structure Decider where
  features : RequestFeatures
  phase : DeciderPhase

/-- The steps of a request. -/
inductive DeciderStep where
  | readSnapshot
  | evaluate
  | choose
  deriving DecidableEq, Repr

/-- The registry, its refresher and the requests. -/
structure RegistrySystem where
  /-- Every refresh that has stored its snapshot, and the empty registry; the program
  does not keep them. -/
  refreshes : List Refresh
  /-- The refresh whose snapshot is stored. -/
  stored : Refresh
  cacheDir : Directory
  /-- The directory that the refresher is about to install. -/
  pending : Option Directory
  requests : List Decider

/-- The steps of the system. -/
inductive RegistryAction where
  | store (polled : List Polled)
  | swap
  | arrive (features : RequestFeatures)
  | decider (i : ℕ) (step : DeciderStep)

/-- One step of a request, against the stored snapshot and the installed directory. -/
def Decider.step (cfg : CacheAwareConfig) (stored : Refresh) (cacheDir : Directory)
    (q : Decider) : DeciderStep → Option Decider
  | .readSnapshot =>
    match q.phase with
    | .arrived => some { q with phase := .costing stored (eligible stored.snapshot) [] }
    | _ => none
  | .evaluate =>
    match q.phase with
    | .costing source (b :: todo) costs =>
      some { q with
        phase := .costing source todo (costs ++ [cfg.cost cacheDir.locator q.features b]) }
    | _ => none
  | .choose =>
    match q.phase with
    | .costing _ [] costs => some { q with phase := .decided (cacheAwareDecision costs) }
    | _ => none

namespace RegistrySystem

/-- `NewRegistry`: an empty snapshot and an empty directory. -/
def newRegistry : RegistrySystem where
  refreshes := [refreshOf []]
  stored := refreshOf []
  cacheDir := ∅
  pending := none
  requests := []

/-- One step of the system; refreshes follow one another in the registry's loop. -/
def step (cfg : CacheAwareConfig) (s : RegistrySystem) : RegistryAction → Option RegistrySystem
  | .store polled =>
    match s.pending with
    | some _ => none
    | none => some
      { s with
        refreshes := s.refreshes ++ [refreshOf polled]
        stored := refreshOf polled
        pending := some (refreshOf polled).directory }
  | .swap => s.pending.map fun dir => { s with cacheDir := dir, pending := none }
  | .arrive features => some { s with requests := s.requests ++ [⟨features, .arrived⟩] }
  | .decider i act =>
    (s.requests[i]?.bind fun q => q.step cfg s.stored s.cacheDir act).map fun q =>
      { s with requests := s.requests.set i q }

/-- What one step can do. -/
theorem step_cases {cfg : CacheAwareConfig} {s t : RegistrySystem} {a : RegistryAction}
    (h : step cfg s a = some t) :
    (∃ polled, a = .store polled ∧ s.pending = none ∧
      t = { s with
        refreshes := s.refreshes ++ [refreshOf polled]
        stored := refreshOf polled
        pending := some (refreshOf polled).directory }) ∨
    (∃ dir, a = .swap ∧ s.pending = some dir ∧ t = { s with cacheDir := dir, pending := none }) ∨
    (∃ features, a = .arrive features ∧
      t = { s with requests := s.requests ++ [⟨features, .arrived⟩] }) ∨
    (∃ i act q q', a = .decider i act ∧ s.requests[i]? = some q ∧
      q.step cfg s.stored s.cacheDir act = some q' ∧
      t = { s with requests := s.requests.set i q' }) := by
  cases a with
  | store polled =>
    left
    cases hpending : s.pending with
    | some dir => simp [step, hpending] at h
    | none =>
      simp only [step, hpending, Option.some.injEq] at h
      exact ⟨polled, rfl, rfl, h.symm⟩
  | swap =>
    right; left
    obtain ⟨dir, hdir, ht⟩ := Option.map_eq_some_iff.mp h
    exact ⟨dir, rfl, hdir, ht.symm⟩
  | arrive features =>
    right; right; left
    exact ⟨features, rfl, (Option.some.inj h).symm⟩
  | decider i act =>
    right; right; right
    obtain ⟨q', hq', ht⟩ := Option.map_eq_some_iff.mp h
    obtain ⟨q, hq, hstep⟩ := Option.bind_eq_some_iff.mp hq'
    exact ⟨i, act, q, q', rfl, hq, hstep, ht.symm⟩

end RegistrySystem

/-- What one step of a request can do. -/
theorem Decider.step_cases {cfg : CacheAwareConfig} {stored : Refresh} {cacheDir : Directory}
    {q q' : Decider} {act : DeciderStep} (h : q.step cfg stored cacheDir act = some q') :
    (act = .readSnapshot ∧ q.phase = .arrived ∧
      q' = { q with phase := .costing stored (eligible stored.snapshot) [] }) ∨
    (∃ source b todo costs, act = .evaluate ∧ q.phase = .costing source (b :: todo) costs ∧
      q' = { q with
        phase := .costing source todo (costs ++ [cfg.cost cacheDir.locator q.features b]) }) ∨
    (∃ source costs, act = .choose ∧ q.phase = .costing source [] costs ∧
      q' = { q with phase := .decided (cacheAwareDecision costs) }) := by
  cases act with
  | readSnapshot =>
    left
    simp only [step] at h
    split at h
    · next hphase => exact ⟨rfl, hphase, (Option.some.inj h).symm⟩
    · cases h
  | evaluate =>
    right; left
    simp only [step] at h
    split at h
    · next source b todo costs hphase =>
        exact ⟨source, b, todo, costs, rfl, hphase, (Option.some.inj h).symm⟩
    · cases h
  | choose =>
    right; right
    simp only [step] at h
    split at h
    · next source costs hphase => exact ⟨source, costs, rfl, hphase, (Option.some.inj h).symm⟩
    · cases h

end GpuSidecar.Routing
