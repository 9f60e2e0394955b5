import GpuSidecar.Models.Routing.Trace

/-!
# Retries prefer alternatives

What one iteration of the attempt loop chooses under a routing policy, and which
iteration made each attempt of a request. A policy's choice is always found in its
snapshot. A choice that was tried before is replaced by the first eligible backend
that was not; the empty id stands for the absence of such a backend, so a backend
with the empty id is never taken as an alternative.
-/

namespace GpuSidecar.Routing

open Http Hops

/-- The first eligible backend that was not tried. -/
def firstUntried (snap : BackendSnapshot) (tried : List String) : Option BackendState :=
  (eligible snap).find? fun b => !tried.contains b.id

theorem pickAlternative_eq (snap : BackendSnapshot) (tried : List String) :
    pickAlternative snap tried = ((firstUntried snap tried).map BackendState.id).getD "" := by
  rw [pickAlternative, firstUntried]
  cases (eligible snap).find? fun b => !tried.contains b.id <;> rfl

/-- Without an untried backend every eligible one was tried. -/
theorem tried_of_firstUntried_eq_none {snap : BackendSnapshot} {tried : List String}
    (h : firstUntried snap tried = none) {b : BackendState} (hb : b ∈ eligible snap) :
    b.id ∈ tried := by
  have hother := List.find?_eq_none.mp h b hb
  simpa using hother

/-- The first untried backend is eligible and was not tried. -/
theorem firstUntried_spec {snap : BackendSnapshot} {tried : List String} {b : BackendState}
    (h : firstUntried snap tried = some b) : b ∈ eligible snap ∧ b.id ∉ tried := by
  refine ⟨List.mem_of_find?_eq_some h, ?_⟩
  have huntried := List.find?_some h
  simpa using huntried

/-- A decision for an untried backend is kept. -/
theorem avoidTried_of_untried {snap : BackendSnapshot} {tried : List String} {dec : RouteDecision}
    (h : dec.backendID ∉ tried) : avoidTried snap tried dec = dec := by
  have hcontains : ¬ tried.contains dec.backendID = true := by simpa using h
  rw [avoidTried, if_neg hcontains]

/-- A decision for a tried backend moves to the first untried one, unless its id is empty. -/
theorem avoidTried_of_tried {snap : BackendSnapshot} {tried : List String} {dec : RouteDecision}
    (h : dec.backendID ∈ tried) :
    (avoidTried snap tried dec).backendID =
      if pickAlternative snap tried = "" then dec.backendID else pickAlternative snap tried := by
  have hcontains : tried.contains dec.backendID = true := by simpa using h
  rw [avoidTried, if_pos hcontains]
  by_cases halt : pickAlternative snap tried = "" <;> simp [halt]

/-- With pairwise distinct ids an eligible backend is the one found by its id. -/
theorem backendByID_of_mem {snap : BackendSnapshot}
    (hids : (snap.backends.map BackendState.id).Nodup) {b : BackendState}
    (hb : b ∈ eligible snap) : backendByID snap b.id = some b := by
  have hmem : b ∈ snap.backends := (List.mem_filter.mp hb).1
  cases hfound : backendByID snap b.id with
  | none => exact absurd hfound (backendByID_ne_none ⟨b, hb, rfl⟩)
  | some b' =>
    have hid : b'.id = b.id := by simpa using List.find?_some hfound
    rw [List.inj_on_of_nodup_map hids (List.mem_of_find?_eq_some hfound) hmem hid]

namespace GatewayRun

/-- The snapshot that an iteration uses. -/
def snapshotAt (g : GatewayRun) (s : AttemptLoop) : BackendSnapshot := g.snapshot s.snapshotIndex

/-- The policy's own choice in an iteration. -/
def selects (g : GatewayRun) (s : AttemptLoop) : Option RouteDecision :=
  g.selectBackend s.attempt g.features (g.snapshotAt s)

/-- The choice is not found in the snapshot. -/
def Missing (g : GatewayRun) (s : AttemptLoop) : Prop :=
  ∃ dec, g.selects s = some dec ∧
    backendByID (g.snapshotAt s) (avoidTried (g.snapshotAt s) s.tried dec).backendID = none

/-- The iteration makes an attempt on an eligible backend, chosen by the policy or in its
place. -/
def Makes (g : GatewayRun) (s : AttemptLoop) (a : Attempt) : Prop :=
  ∃ dec b, g.selects s = some dec ∧ b ∈ eligible (g.snapshotAt s) ∧
    b.id = (avoidTried (g.snapshotAt s) s.tried dec).backendID ∧
    a = g.makeAttempt s b.id (b.id :: s.tried)

/-- The snapshots of a request have pairwise distinct ids. -/
def DistinctIDs (g : GatewayRun) : Prop :=
  ∀ n, ((g.snapshot n).backends.map BackendState.id).Nodup

section Policy

variable {g : GatewayRun} {p : Policy} (hp : g.DecidesBy p)

include hp

/-- A policy errs exactly if no backend is eligible. -/
theorem selects_eq_none_iff (s : AttemptLoop) :
    g.selects s = none ↔ eligible (g.snapshotAt s) = [] := by
  obtain ⟨env, henv⟩ := hp
  rw [selects, henv]
  constructor
  · intro hnone
    by_contra heligible
    obtain ⟨dec, hdec, -⟩ := p.selectBackend_mem (env s.attempt) g.features heligible
    rw [hdec] at hnone
    cases hnone
  · intro hempty
    rw [Policy.selectBackend, hempty]

/-- A choice, also an alternative one, is an eligible backend. -/
theorem choice_mem {s : AttemptLoop} {dec : RouteDecision} (hdec : g.selects s = some dec) :
    ∃ b ∈ eligible (g.snapshotAt s),
      b.id = (avoidTried (g.snapshotAt s) s.tried dec).backendID := by
  have heligible : eligible (g.snapshotAt s) ≠ [] := by
    intro hempty
    rw [(selects_eq_none_iff hp s).mpr hempty] at hdec
    cases hdec
  obtain ⟨env, henv⟩ := hp
  rw [selects, henv] at hdec
  obtain ⟨dec', hdec', hmem⟩ := p.selectBackend_mem (env s.attempt) g.features heligible
  rw [hdec'] at hdec
  cases hdec
  exact avoidTried_mem hmem s.tried

/-- The choice of a policy is never missing. -/
theorem not_missing (s : AttemptLoop) : ¬ g.Missing s := by
  rintro ⟨dec, hdec, hmissing⟩
  exact backendByID_ne_none (choice_mem hp hdec) hmissing

/-- What one iteration does: it gives up without an eligible backend, and otherwise makes an
attempt, which ends the loop if it is sent. -/
theorem tryOnce_makes (hids : g.DistinctIDs) (s : AttemptLoop) :
    (eligible (g.snapshotAt s) = [] ∧ ∃ t, g.tryOnce s = .error t ∧ t.attempts = s.attempts) ∨
    ∃ a, g.Makes s a ∧
      ((∃ t, g.tryOnce s = .error t ∧ t.attempts = s.attempts ++ [a]) ∨
        ∃ events, g.tryOnce s = .ok (s.retrying a events)) := by
  cases hdec : g.selects s with
  | none =>
    left
    refine ⟨(selects_eq_none_iff hp s).mp hdec, ?_⟩
    rw [selects, snapshotAt] at hdec
    simp only [tryOnce, hdec]
    exact ⟨_, rfl, rfl⟩
  | some dec =>
    right
    obtain ⟨b, hb, hid⟩ := choice_mem hp hdec
    have hfound := backendByID_of_mem (hids s.snapshotIndex) hb
    refine ⟨_, ⟨dec, b, hdec, hb, hid, rfl⟩, ?_⟩
    rw [selects, snapshotAt] at hdec
    rw [snapshotAt] at hid
    cases hsent : (g.makeAttempt s b.id (b.id :: s.tried)).result.sent with
    | true =>
      left
      have hsent' : (forward (g.client s.attempt) s.writer b.id g.reqID g.features.stream
          (g.reply s.attempt b.id)).sent = true := hsent
      simp only [tryOnce, hdec, ← hid, hfound, hsent']
      exact ⟨_, rfl, rfl⟩
    | false =>
      right
      have hsent' : (forward (g.client s.attempt) s.writer b.id g.reqID g.features.stream
          (g.reply s.attempt b.id)).sent = false := hsent
      simp only [tryOnce, hdec, ← hid, hfound, hsent']
      exact ⟨_, rfl⟩

end Policy

/-! ### The iterations of a request -/

/-- The loop variables at the start of each iteration, with a number of attempts left. -/
def iterations (g : GatewayRun) : ℕ → AttemptLoop → List AttemptLoop
  | 0, _ => []
  | n + 1, s => s :: match g.tryOnce s with
    | .error _ => []
    | .ok t => g.iterations n t

/-- The loop variables at the start of each iteration of the request. -/
def entered (g : GatewayRun) : List AttemptLoop :=
  match g.readErr with
  | some _ => []
  | none => g.iterations (g.maxRetries + 1).toNat g.begin

/-- The tried backends are those of the attempts, the last one first. -/
def RecordsTried (s : AttemptLoop) : Prop := s.tried = (s.attempts.map Attempt.backendID).reverse

/-- An attempt made in an iteration is recorded as tried. -/
theorem RecordsTried.retrying {g : GatewayRun} {s : AttemptLoop} (hs : RecordsTried s)
    {a : Attempt} (ha : g.Makes s a) (events : List RouterEvent) :
    RecordsTried (s.retrying a events) := by
  obtain ⟨dec, b, -, -, -, rfl⟩ := ha
  rw [RecordsTried] at hs
  simp [RecordsTried, AttemptLoop.retrying, makeAttempt, hs]

section Policy

variable {g : GatewayRun} {p : Policy} (hp : g.DecidesBy p) (hids : g.DistinctIDs)

include hp hids

/-- Every iteration starts with a record of what was tried. -/
theorem recordsTried_of_mem (n : ℕ) {s t : AttemptLoop} (hs : RecordsTried s)
    (ht : t ∈ g.iterations n s) : RecordsTried t := by
  induction n generalizing s with
  | zero => cases ht
  | succ n ih =>
    rw [iterations] at ht
    rcases List.mem_cons.mp ht with rfl | ht
    · exact hs
    · rcases tryOnce_makes hp hids s with
        ⟨-, _, hcase, -⟩ | ⟨a, ha, ⟨_, hcase, -⟩ | ⟨events, hcase⟩⟩
      · simp [hcase] at ht
      · simp [hcase] at ht
      · rw [hcase] at ht
        exact ih (hs.retrying ha events) ht

/-- Every attempt of the loop is made by the iteration that starts with the attempts before
it. -/
theorem exists_iteration (n : ℕ) (s : AttemptLoop) :
    ∃ made, (g.tryAll n s).attempts = s.attempts ++ made ∧ made.length ≤ n ∧
      ∀ before a after, made = before ++ a :: after →
        ∃ t ∈ g.iterations n s, t.attempts = s.attempts ++ before ∧ g.Makes t a := by
  induction n generalizing s with
  | zero => exact ⟨[], by simp [tryAll], le_rfl, by simp⟩
  | succ n ih =>
    rw [tryAll, iterations]
    rcases tryOnce_makes hp hids s with
      ⟨-, t, hcase, ht⟩ | ⟨a, ha, ⟨t, hcase, ht⟩ | ⟨events, hcase⟩⟩
    · rw [hcase]
      exact ⟨[], by simp [ht], Nat.zero_le _, by simp⟩
    · rw [hcase]
      refine ⟨[a], ht, by simp, ?_⟩
      intro before a' after hsplit
      cases before with
      | nil =>
        obtain ⟨rfl, -⟩ := List.cons.inj hsplit
        exact ⟨s, List.mem_cons_self, by simp, ha⟩
      | cons first before => simp at hsplit
    · rw [hcase]
      obtain ⟨made, hattempts, hlength, hmade⟩ := ih (s.retrying a events)
      refine ⟨a :: made, by simpa [AttemptLoop.retrying] using hattempts,
        by simpa using hlength, ?_⟩
      intro before a' after hsplit
      cases before with
      | nil =>
        obtain ⟨rfl, -⟩ := List.cons.inj hsplit
        exact ⟨s, List.mem_cons_self, by simp, ha⟩
      | cons first before =>
        obtain ⟨rfl, hrest⟩ := List.cons.inj hsplit
        obtain ⟨t, ht, hbefore, hmakes⟩ := hmade before a' after hrest
        refine ⟨t, List.mem_cons_of_mem s ht, ?_, hmakes⟩
        simpa [AttemptLoop.retrying] using hbefore

/-- The attempt of every iteration is recorded after the attempts before it. -/
theorem isPrefix_of_mem (n : ℕ) {s t : AttemptLoop} (ht : t ∈ g.iterations n s)
    (heligible : eligible (g.snapshotAt t) ≠ []) :
    ∃ a, g.Makes t a ∧ (t.attempts ++ [a]).IsPrefix (g.tryAll n s).attempts := by
  induction n generalizing s with
  | zero => cases ht
  | succ n ih =>
    rw [iterations] at ht
    rw [tryAll]
    rcases List.mem_cons.mp ht with rfl | ht
    · rcases tryOnce_makes hp hids t with ⟨hempty, -⟩ | ⟨a, ha, ⟨u, hcase, hu⟩ | ⟨events, hcase⟩⟩
      · exact absurd hempty heligible
      · rw [hcase]
        exact ⟨a, ha, by simp [hu]⟩
      · rw [hcase]
        obtain ⟨made, hattempts, -⟩ := exists_iteration hp hids n (t.retrying a events)
        exact ⟨a, ha, made, hattempts.symm⟩
    · rcases tryOnce_makes hp hids s with
        ⟨-, _, hcase, -⟩ | ⟨a, ha, ⟨_, hcase, -⟩ | ⟨events, hcase⟩⟩
      · simp [hcase] at ht
      · simp [hcase] at ht
      · rw [hcase] at ht
        rw [hcase]
        exact ih ht

/-! ### The whole request -/

/-- Every iteration of a request starts with a record of what was tried. -/
theorem mem_tried_iff {s : AttemptLoop} (hs : s ∈ g.entered) (id : String) :
    id ∈ s.tried ↔ id ∈ s.attempts.map Attempt.backendID := by
  rw [entered] at hs
  split at hs
  · cases hs
  · have hrecords := recordsTried_of_mem hp hids _ (show RecordsTried g.begin from rfl) hs
    rw [RecordsTried] at hrecords
    rw [hrecords, List.mem_reverse]

/-- A request makes no more attempts than iterations are allowed. -/
theorem length_attempts_le : g.chatCompletions.attempts.length ≤ (g.maxRetries + 1).toNat := by
  rw [chatCompletions]
  cases g.readErr with
  | some err => exact Nat.zero_le _
  | none =>
    obtain ⟨made, hattempts, hlength, -⟩ :=
      exists_iteration hp hids (g.maxRetries + 1).toNat g.begin
    rw [hattempts]
    exact hlength

/-- Every attempt of a request is made by the iteration that starts with the attempts before
it. -/
theorem exists_entered {before after : List Attempt} {a : Attempt}
    (h : g.chatCompletions.attempts = before ++ a :: after) :
    ∃ s ∈ g.entered, s.attempts = before ∧ g.Makes s a := by
  rw [chatCompletions] at h
  cases hread : g.readErr with
  | some err => simp [hread] at h
  | none =>
    have hentered : g.entered = g.iterations (g.maxRetries + 1).toNat g.begin := by
      simp [entered, hread]
    obtain ⟨made, hattempts, -, hmade⟩ :=
      exists_iteration hp hids (g.maxRetries + 1).toNat g.begin
    rw [hread] at h
    rw [hentered]
    exact hmade before a after (hattempts.symm.trans h)

/-- Every iteration of a request with an eligible backend makes the attempt after those
before it. -/
theorem attempts_eq_of_entered {s : AttemptLoop} (hs : s ∈ g.entered)
    (heligible : eligible (g.snapshotAt s) ≠ []) :
    ∃ a after, g.Makes s a ∧ g.chatCompletions.attempts = s.attempts ++ a :: after := by
  rw [entered] at hs
  cases hread : g.readErr with
  | some err => simp [hread] at hs
  | none =>
    rw [hread] at hs
    obtain ⟨a, ha, after, hafter⟩ := isPrefix_of_mem hp hids _ hs heligible
    refine ⟨a, after, ha, ?_⟩
    rw [chatCompletions, hread]
    simpa using hafter.symm

end Policy

/-! ### The discipline of retries -/

/-- At most one attempt more than there are retries, each on an eligible backend of its
snapshot, and a backend again only after all eligible ones. -/
structure Disciplined (g : GatewayRun) : Prop where
  bounded : (g.chatCompletions.attempts.length : ℤ) ≤ g.maxRetries + 1
  chosen : ∀ a ∈ g.chatCompletions.attempts, ∃ b ∈ eligible (g.snapshot a.snapshotIndex),
    backendByID (g.snapshot a.snapshotIndex) a.backendID = some b
  found : ∀ s ∈ g.entered, ¬ g.Missing s
  again : ∀ before a after, g.chatCompletions.attempts = before ++ a :: after →
    a.backendID ∈ before.map Attempt.backendID →
      ∀ b ∈ eligible (g.snapshot a.snapshotIndex), b.id ∈ before.map Attempt.backendID

/-- If the policy chooses a tried backend, the first untried one has an id that is not
empty. -/
def NamesAlternative (g : GatewayRun) (s : AttemptLoop) : Prop :=
  ∀ dec b, g.selects s = some dec → dec.backendID ∈ s.tried →
    firstUntried (g.snapshotAt s) s.tried = some b → b.id ≠ ""

/-- An attempt is made with the snapshot of its iteration. -/
theorem Makes.snapshot_eq {g : GatewayRun} {s : AttemptLoop} {a : Attempt} (h : g.Makes s a) :
    g.snapshot a.snapshotIndex = g.snapshotAt s := by
  obtain ⟨_, _, -, -, -, rfl⟩ := h
  rfl

/-- Where the alternative has an id, a tried backend is attempted again only after all
eligible ones. -/
theorem Makes.tried_of_again {g : GatewayRun} {s : AttemptLoop} {a : Attempt} (h : g.Makes s a)
    (hnames : g.NamesAlternative s) (hagain : a.backendID ∈ s.tried) {b : BackendState}
    (hb : b ∈ eligible (g.snapshotAt s)) : b.id ∈ s.tried := by
  obtain ⟨dec, chosen, hdec, -, hid, rfl⟩ := h
  have hagain' : (avoidTried (g.snapshotAt s) s.tried dec).backendID ∈ s.tried := by
    rw [← hid]
    exact hagain
  by_cases htried : dec.backendID ∈ s.tried
  · cases hfirst : firstUntried (g.snapshotAt s) s.tried with
    | none => exact tried_of_firstUntried_eq_none hfirst hb
    | some other =>
      have hname := hnames dec other hdec htried hfirst
      rw [avoidTried_of_tried htried, pickAlternative_eq, hfirst] at hagain'
      simp only [Option.map_some, Option.getD_some, if_neg hname] at hagain'
      exact absurd hagain' (firstUntried_spec hfirst).2
  · rw [avoidTried_of_untried htried] at hagain'
    exact absurd hagain' htried

/-- Where the alternative has the empty id, the tried backend is attempted again. -/
theorem Makes.again_of_unnamed {g : GatewayRun} {s : AttemptLoop} {a : Attempt} (h : g.Makes s a)
    {dec : RouteDecision} {b : BackendState} (hdec : g.selects s = some dec)
    (htried : dec.backendID ∈ s.tried) (hfirst : firstUntried (g.snapshotAt s) s.tried = some b)
    (hname : b.id = "") : a.backendID ∈ s.tried := by
  obtain ⟨dec', chosen, hdec', -, hid, rfl⟩ := h
  rw [hdec] at hdec'
  cases hdec'
  rw [avoidTried_of_tried htried, pickAlternative_eq, hfirst] at hid
  simp only [Option.map_some, Option.getD_some, if_pos hname] at hid
  change chosen.id ∈ s.tried
  rwa [hid]

/-- Under every policy and every sequence of snapshots, a request keeps the discipline of
retries if and only if in no iteration the first untried backend has the empty id while
the policy chooses a tried one. -/
theorem disciplined_iff {g : GatewayRun} {p : Policy} (hp : g.DecidesBy p)
    (hids : g.DistinctIDs) (hretries : 0 ≤ g.maxRetries) :
    g.Disciplined ↔ ∀ s ∈ g.entered, g.NamesAlternative s := by
  constructor
  · intro h s hs dec b hdec htried hfirst hname
    obtain ⟨heligible, huntried⟩ := firstUntried_spec hfirst
    obtain ⟨a, after, ha, hsplit⟩ :=
      attempts_eq_of_entered hp hids hs (List.ne_nil_of_mem heligible)
    have hagain := ha.again_of_unnamed hdec htried hfirst hname
    rw [mem_tried_iff hp hids hs] at hagain huntried
    rw [← ha.snapshot_eq] at heligible
    exact huntried (h.again _ a after hsplit hagain b heligible)
  · intro h
    refine ⟨?_, ?_, fun s _ => not_missing hp s, ?_⟩
    · have hlength := length_attempts_le hp hids
      omega
    · intro a ha
      obtain ⟨before, after, hsplit⟩ := List.append_of_mem ha
      obtain ⟨s, -, -, dec, b, -, hb, -, rfl⟩ := exists_entered hp hids hsplit
      exact ⟨b, hb, backendByID_of_mem (hids s.snapshotIndex) hb⟩
    · intro before a after hsplit hagain b hb
      obtain ⟨s, hs, rfl, ha⟩ := exists_entered hp hids hsplit
      rw [ha.snapshot_eq] at hb
      rw [← mem_tried_iff hp hids hs] at hagain ⊢
      exact ha.tried_of_again (h s hs) hagain hb

/-- A request with one retry over two idle backends that cannot be reached. -/
def unreachableRun (first second : String) : GatewayRun where
  reqID := "req"
  readErr := none
  features := ⟨false, 0, 0, "", 0, false⟩
  maxRetries := 1
  snapshot := fun _ => ⟨[idleBackend first, idleBackend second]⟩
  selectBackend := fun _ => Policy.leastQueued.selectBackend ⟨0, none⟩
  reply := fun _ _ => .error "connection refused"
  client := fun _ => Downstream.steady

theorem unreachableRun_distinctIDs {first second : String} (h : first ≠ second) :
    (unreachableRun first second).DistinctIDs := by
  intro _
  change [first, second].Nodup
  simpa using h

/-- The retry goes to the second backend. -/
theorem unreachableRun_disciplined :
    (unreachableRun "a" "b").chatCompletions.attempts.map Attempt.backendID = ["a", "b"] ∧
      (unreachableRun "a" "b").Disciplined := by
  refine ⟨by decide +kernel, (disciplined_iff (p := .leastQueued) ⟨fun _ => ⟨0, none⟩,
    fun _ => rfl⟩ (unreachableRun_distinctIDs (by decide)) (by decide)).mpr ?_⟩
  intro s _ dec b _ _ hfirst
  have hmem : b ∈ [idleBackend "a", idleBackend "b"] :=
    (List.mem_filter.mp (firstUntried_spec hfirst).1).1
  rcases List.mem_pair.mp hmem with rfl | rfl <;> decide

/-- With an empty second id the retry goes to the first backend again, although the second
one was not tried. -/
theorem unreachableRun_unnamed_repeats :
    (unreachableRun "a" "").DecidesBy .leastQueued ∧ (unreachableRun "a" "").DistinctIDs ∧
      (unreachableRun "a" "").chatCompletions.attempts.map Attempt.backendID = ["a", "a"] ∧
      ¬ (unreachableRun "a" "").Disciplined := by
  have hmade : (unreachableRun "a" "").chatCompletions.attempts.map Attempt.backendID =
      ["a", "a"] := by
    decide +kernel
  refine ⟨⟨fun _ => ⟨0, none⟩, fun _ => rfl⟩, unreachableRun_distinctIDs (by decide), hmade, ?_⟩
  intro h
  obtain ⟨x, xs, hattempts, hx, hxs⟩ := List.map_eq_cons_iff.mp hmade
  obtain ⟨y, ys, rfl, hy, -⟩ := List.map_eq_cons_iff.mp hxs
  have heligible : idleBackend "" ∈
      eligible ((unreachableRun "a" "").snapshot y.snapshotIndex) := by
    change idleBackend "" ∈ eligible ⟨[idleBackend "a", idleBackend ""]⟩
    decide +kernel
  have htried := h.again [x] y ys hattempts (by simp [hx, hy]) _ heligible
  simp [hx, idleBackend] at htried

end GatewayRun

end GpuSidecar.Routing
