import Mathlib.Data.List.Induction

/-!
# Runs of guarded transition systems

Concurrent parties are modelled by one step function on their joint state: an
action names the party and the atomic step it takes, and the step is refused when
that party cannot take it. An interleaving is then a list of actions. Facts about
every interleaving follow by induction on its last action, and a condition on the
steps of a run is a condition on the state before each of its actions.
-/

namespace GpuSidecar.Run

variable {σ α : Type*}

/-- The state after a list of actions, if every one of them could be taken. -/
def exec (step : σ → α → Option σ) : σ → List α → Option σ
  | s, [] => some s
  | s, a :: as => (step s a).bind fun t => exec step t as

@[simp] theorem exec_nil (step : σ → α → Option σ) (s : σ) : exec step s [] = some s := rfl

/-- Running two lists in a row is running their concatenation. -/
theorem exec_append (step : σ → α → Option σ) (s : σ) (as bs : List α) :
    exec step s (as ++ bs) = (exec step s as).bind fun t => exec step t bs := by
  induction as generalizing s with
  | nil => rfl
  | cons a as ih =>
    simp only [List.cons_append, exec, Option.bind_assoc]
    congr 1
    funext t
    exact ih t

/-- The last action of a run is one step from the state that the others reach. -/
theorem exec_concat_eq_some {step : σ → α → Option σ} {s t : σ} {as : List α} {a : α} :
    exec step s (as ++ [a]) = some t ↔ ∃ r, exec step s as = some r ∧ step r a = some t := by
  rw [exec_append, Option.bind_eq_some_iff]
  refine exists_congr fun r => and_congr_right fun _ => ?_
  rw [exec, Option.bind_eq_some_iff]
  exact ⟨fun ⟨u, hu, h⟩ => by rwa [← Option.some.inj h], fun h => ⟨t, h, rfl⟩⟩

/-- Induction on the last action: a relation between the run so far and its state that
holds at the start and is kept by every step holds of every run. -/
theorem exec_induction {step : σ → α → Option σ} {init : σ} {P : List α → σ → Prop}
    (hinit : P [] init)
    (hstep : ∀ as s a t, exec step init as = some s → P as s → step s a = some t →
      P (as ++ [a]) t)
    {as : List α} {s : σ} (h : exec step init as = some s) : P as s := by
  induction as using List.reverseRecOn generalizing s with
  | nil =>
    rw [exec_nil, Option.some.injEq] at h
    rwa [← h]
  | append_singleton as a ih =>
    obtain ⟨r, hr, hlast⟩ := exec_concat_eq_some.mp h
    exact hstep as r a s hr (ih hr) hlast

/-- An invariant of the single steps holds in every state that a run reaches. -/
theorem exec_invariant {step : σ → α → Option σ} {init : σ} {P : σ → Prop} (hinit : P init)
    (hstep : ∀ s a t, P s → step s a = some t → P t)
    {as : List α} {s : σ} (h : exec step init as = some s) : P s :=
  exec_induction (P := fun _ => P) hinit (fun _ s a t _ hs ha => hstep s a t hs ha) h

/-- Steps that are never refused always run. -/
theorem exec_total (f : σ → α → σ) (s : σ) (as : List α) :
    exec (fun s a => some (f s a)) s as = some (as.foldl f s) := by
  induction as generalizing s with
  | nil => rfl
  | cons a as ih => exact ih (f s a)

/-- What no step changes, no run changes. -/
theorem foldl_unchanged {β : Type*} {f : σ → α → σ} {view : σ → β}
    (h : ∀ s a, view (f s a) = view s) (s : σ) (as : List α) : view (as.foldl f s) = view s := by
  induction as generalizing s with
  | nil => rfl
  | cons a as ih => rw [List.foldl_cons, ih, h]

/-- What the actions of a run show, in order; each one may show what the state before it
holds. -/
def observed {β : Type*} (step : σ → α → Option σ) (view : σ → α → List β) :
    σ → List α → List β
  | _, [] => []
  | s, a :: as =>
    match step s a with
    | none => []
    | some t => view s a ++ observed step view t as

/-- The last action of a run adds what it shows. -/
theorem observed_concat {β : Type*} {step : σ → α → Option σ} (view : σ → α → List β)
    {init s t : σ} {as : List α} {a : α} (hs : exec step init as = some s)
    (ha : step s a = some t) :
    observed step view init (as ++ [a]) = observed step view init as ++ view s a := by
  induction as generalizing init with
  | nil =>
    rw [exec_nil, Option.some.injEq] at hs
    subst hs
    simp [observed, ha]
  | cons b as ih =>
    rw [exec, Option.bind_eq_some_iff] at hs
    obtain ⟨r, hr, hs⟩ := hs
    simp only [List.cons_append, observed, hr, ih hs, List.append_assoc]

/-- Every step of the run meets a condition on its action and the state before it. -/
def StepsMeet (step : σ → α → Option σ) (cond : σ → α → Prop) (init : σ) (as : List α) : Prop :=
  ∀ before a after, as = before ++ a :: after → ∀ s, exec step init before = some s → cond s a

theorem stepsMeet_nil (step : σ → α → Option σ) (cond : σ → α → Prop) (init : σ) :
    StepsMeet step cond init [] := by
  intro before a after h
  simp at h

/-- The steps of a longer run are those of the shorter one and the last one. -/
theorem stepsMeet_concat {step : σ → α → Option σ} {cond : σ → α → Prop} {init s : σ}
    {as : List α} {a : α} (hs : exec step init as = some s) :
    StepsMeet step cond init (as ++ [a]) ↔ StepsMeet step cond init as ∧ cond s a := by
  constructor
  · intro h
    refine ⟨fun before b after he t ht => ?_, h as a [] rfl s hs⟩
    exact h before b (after ++ [a]) (by rw [he]; simp) t ht
  · rintro ⟨h, ha⟩ before b after he t ht
    rcases List.eq_nil_or_concat after with rfl | ⟨after', c, rfl⟩
    · obtain ⟨rfl, rfl⟩ := List.append_singleton_inj.mp he
      rw [hs, Option.some.injEq] at ht
      rwa [← ht]
    · have he' : as ++ [a] = (before ++ b :: after') ++ [c] := by simpa using he
      exact h before b after' (List.append_singleton_inj.mp he').1 t ht

/-- The steps of a run are its first one and those of the rest. -/
theorem stepsMeet_cons {step : σ → α → Option σ} {cond : σ → α → Prop} {init : σ} {a : α}
    {as : List α} :
    StepsMeet step cond init (a :: as) ↔
      cond init a ∧ ∀ t, step init a = some t → StepsMeet step cond t as := by
  constructor
  · intro h
    refine ⟨h [] a as rfl init rfl, fun t ht before b after he s hs => ?_⟩
    exact h (a :: before) b after (by rw [he]; rfl) s (by rw [exec, ht]; exact hs)
  · rintro ⟨ha, h⟩ before b after he s hs
    cases before with
    | nil =>
      obtain ⟨rfl, rfl⟩ := List.cons_eq_cons.mp he
      rw [exec_nil, Option.some.injEq] at hs
      rwa [← hs]
    | cons c before =>
      obtain ⟨rfl, rfl⟩ := List.cons_eq_cons.mp he
      rw [exec, Option.bind_eq_some_iff] at hs
      obtain ⟨t, ht, hs⟩ := hs
      exact h t ht before b after rfl s hs

/-- Every state that a run passes through, its last one included, satisfies `P`. -/
def Always (step : σ → α → Option σ) (P : σ → Prop) (init : σ) (as : List α) : Prop :=
  ∀ before after, as = before ++ after → ∀ s, exec step init before = some s → P s

/-- The states of a longer run are those of the shorter one and the last one. -/
theorem always_concat {step : σ → α → Option σ} {P : σ → Prop} {init s : σ} {as : List α} {a : α}
    (hs : exec step init (as ++ [a]) = some s) :
    Always step P init (as ++ [a]) ↔ Always step P init as ∧ P s := by
  constructor
  · intro h
    refine ⟨fun before after he t ht => ?_, h (as ++ [a]) [] (by simp) s hs⟩
    exact h before (after ++ [a]) (by rw [he]; simp) t ht
  · rintro ⟨h, hlast⟩ before after he t ht
    rcases List.eq_nil_or_concat after with rfl | ⟨after', c, rfl⟩
    · rw [List.append_nil] at he
      rw [← he, hs, Option.some.injEq] at ht
      rwa [← ht]
    · have he' : as ++ [a] = (before ++ after') ++ [c] := by simpa using he
      exact h before after' (List.append_singleton_inj.mp he').1 t ht

theorem always_nil {step : σ → α → Option σ} {P : σ → Prop} {init : σ} :
    Always step P init [] ↔ P init := by
  constructor
  · intro h
    exact h [] [] rfl init rfl
  · intro h before after he t ht
    obtain ⟨rfl, rfl⟩ := List.append_eq_nil_iff.mp he.symm
    rw [exec_nil, Option.some.injEq] at ht
    rwa [← ht]

/-- A property that holds at the start and is kept by the steps that meet a condition holds
in every state of a run all of whose steps meet it. -/
theorem always_of_stepsMeet {step : σ → α → Option σ} {cond : σ → α → Prop} {init : σ}
    {P : σ → Prop} (hinit : P init)
    (hstep : ∀ s a t, P s → cond s a → step s a = some t → P t)
    {as : List α} (hmeet : StepsMeet step cond init as) : Always step P init as := by
  intro before after he s hs
  refine exec_induction (P := fun bs r => ∀ cs, as = bs ++ cs → P r) ?_ ?_ hs after he
  · intro _ _
    exact hinit
  · intro bs r a t hr ih ha cs hcs
    have hsplit : as = bs ++ a :: cs := by rw [hcs, List.append_assoc]; rfl
    exact hstep r a t (ih _ hsplit) (hmeet bs a cs hsplit r hr) ha

/-- When, from the good states that an invariant allows, a step leads to a good state exactly
if it meets a condition, a run passes through good states only exactly if all its steps
meet the condition. -/
theorem always_iff_stepsMeet {step : σ → α → Option σ} {cond : σ → α → Prop} {init : σ}
    {I P : σ → Prop} (hI : I init) (hIstep : ∀ s a t, I s → step s a = some t → I t)
    (hP : P init)
    (hstep : ∀ s a t, I s → P s → step s a = some t → (P t ↔ cond s a))
    {as : List α} {s : σ} (h : exec step init as = some s) :
    Always step P init as ↔ StepsMeet step cond init as := by
  refine exec_induction
    (P := fun as _ => Always step P init as ↔ StepsMeet step cond init as) ?_ ?_ h
  · exact iff_of_true (always_nil.mpr hP) (stepsMeet_nil step cond init)
  · intro as r a t hr ih ha
    have ht : exec step init (as ++ [a]) = some t := exec_concat_eq_some.mpr ⟨r, hr, ha⟩
    rw [always_concat ht, stepsMeet_concat hr, ih]
    refine and_congr_right fun hmeet => ?_
    exact hstep r a t (exec_invariant hI hIstep hr) ((ih.mpr hmeet) as [] (by simp) r hr) ha

end GpuSidecar.Run
