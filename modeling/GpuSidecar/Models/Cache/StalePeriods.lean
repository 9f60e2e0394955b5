import GpuSidecar.Core.Run.Guarded
import GpuSidecar.Models.Cache.Readers

/-!
# Counting stale periods

Reading the metadata of an index that has gone stale after an event counts an
invalidation, every time it is read. An observer of the schedule keeps the number of stale
periods so far, which begin when the clock passes the stale limit and end at the next event,
the number of snapshots that found the index lapsed, and the metadata returned since the last
event or clock change. The counts stay together as long as every stale period is read once at
most; `Server.cacheMetrics` reads it twice in a single scrape. The clock stands still during a
call; only the first reading of a snapshot decides whether it counts.
-/

namespace GpuSidecar.Cache

open Run

/-- Whether the index is stale after having received an event. -/
def Index.lapsed (idx : Index) (now : ℤ) : Bool :=
  idx.isStaleLocked now && decide (idx.lastUpdate ≠ 0)

/-- The same call at another clock reading. -/
def IndexCall.readAt (now : ℤ) : IndexCall → IndexCall
  | .store _ order seq key parent matchedTokens blockSize =>
    .store now order seq key parent matchedTokens blockSize
  | .remove _ seq key => .remove now seq key
  | .clear _ seq => .clear now seq
  | .reset _ => .reset now

/-- A clock, the index that reads it, and an observer. -/
structure Watched where
  clock : ℤ
  index : Index
  /-- The stale periods that have begun. -/
  periods : ℕ
  /-- The snapshots so far that found the index lapsed. -/
  staleReads : ℕ
  /-- Whether a snapshot was taken in the present stale period. -/
  periodRead : Bool
  /-- The metadata returned since the last event or clock change, the latest first. -/
  taken : List SnapshotMeta

/-- The clock moves on, the feed or a restart calls the index, or a reader takes a snapshot. -/
inductive WatchAction where
  | advance (d : ℕ)
  | event (c : IndexCall)
  | snapshot

/-- The two snapshots of a metrics scrape: one to look at its type and one to encode. -/
def WatchAction.scrape : List WatchAction := [.snapshot, .snapshot]

namespace Watched

def init (cfg : IndexConfig) (start : ℤ) : Watched := ⟨start, newIndex cfg start, 0, 0, false, []⟩

def lapsed (s : Watched) : Bool := s.index.lapsed s.clock

/-- An action, before the observer looks at the clock again. -/
def move (s : Watched) : WatchAction → Watched
  | .advance d => { s with clock := s.clock + d, taken := if d = 0 then s.taken else [] }
  | .event c => { s with index := s.index.call (c.readAt s.clock), taken := [] }
  | .snapshot =>
    { s with
      index := (s.index.snapshotMeta s.clock).1
      staleReads := s.staleReads + if s.lapsed then 1 else 0
      periodRead := s.periodRead || s.lapsed
      taken := (s.index.snapshotMeta s.clock).2 :: s.taken }

/-- A stale period begins with the action. -/
def begins (s : Watched) (a : WatchAction) : Bool := !s.lapsed && (s.move a).lapsed

/-- An action; a period begins where the index was not lapsed before. -/
def act (s : Watched) (a : WatchAction) : Watched :=
  { s.move a with
    periods := s.periods + if s.begins a then 1 else 0
    periodRead := !s.begins a && (s.move a).periodRead }

def step (s : Watched) (a : WatchAction) : Option Watched := some (s.act a)

/-- Every stale period is counted at most once, and snapshots with nothing in between are
the same. -/
structure CountedOnce (s : Watched) : Prop where
  bound : s.index.staleInvalidated ≤ s.periods
  same : ∀ m ∈ s.taken, ∀ m' ∈ s.taken, m = m'

/-- A snapshot finds a lapsed index only while fewer of them have done so than stale periods
have begun, and only as the first one since the last event or clock change. -/
def WithinPeriods (s : Watched) (a : WatchAction) : Prop :=
  a = .snapshot → s.lapsed = true → s.staleReads < s.periods ∧ s.taken = []

/-- A snapshot of a lapsed index is the first one in its stale period. -/
def FirstOfPeriod (s : Watched) (a : WatchAction) : Prop :=
  a = .snapshot → s.lapsed = true → s.periodRead = false

end Watched

/-! ### What a snapshot changes -/

namespace Index

variable {idx : Index} {now : ℤ}

theorem snapshotMeta_of_lapsed (h : idx.lapsed now = true) :
    (idx.snapshotMeta now).1 = { idx with staleInvalidated := idx.staleInvalidated + 1 } ∧
      (idx.snapshotMeta now).2.staleInvalidations = idx.staleInvalidated + 1 := by
  have hstale : idx.isStaleLocked now = true ∧ idx.lastUpdate ≠ 0 := by
    simpa [lapsed] using h
  simp only [snapshotMeta, snapshotMetaAt, if_pos hstale, and_self]

theorem snapshotMeta_of_not_lapsed (h : idx.lapsed now = false) :
    (idx.snapshotMeta now).1 = idx ∧
      (idx.snapshotMeta now).2.staleInvalidations = idx.staleInvalidated := by
  have hstale : ¬ (idx.isStaleLocked now = true ∧ idx.lastUpdate ≠ 0) := by
    simpa [lapsed] using h
  simp only [snapshotMeta, snapshotMetaAt, if_neg hstale, and_self]

theorem lapsed_snapshotMeta (idx : Index) (now : ℤ) :
    (idx.snapshotMeta now).1.lapsed now = idx.lapsed now := by
  obtain ⟨n, hn⟩ := idx.snapshotMeta_fst now
  rw [hn]
  rfl

/-- No call of the feed counts an invalidation. -/
theorem call_staleInvalidated (idx : Index) (c : IndexCall) :
    (idx.call c).staleInvalidated = idx.staleInvalidated := by
  cases c with
  | store now order seq key parent tokens size =>
    rcases idx.applyStore_cases now order seq key parent tokens size with
      ⟨e, -, -, he⟩ | ⟨entries, dropped, he, -⟩
    · rw [call, he]
      rfl
    · rw [call, he]
      rfl
  | remove now seq key =>
    rw [call, applyRemove_eq]
    rfl
  | clear now seq =>
    rw [call, applyClear_eq]
    rfl
  | reset now => rfl

end Index

namespace Watched

/-- The metadata taken so far is that of the present state, unless the index has lapsed. -/
def Current (s : Watched) : Prop :=
  ∀ m ∈ s.taken, m.staleInvalidations ≤ s.index.staleInvalidated ∧
    (s.lapsed = false → m = (s.index.snapshotMeta s.clock).2)

theorem Current.act {s : Watched} (h : s.Current) (a : WatchAction) : (s.act a).Current := by
  cases a with
  | advance d =>
    by_cases hd : d = 0
    · subst hd
      simpa [Current, Watched.act, move, lapsed] using h
    · intro m hm
      simp [Watched.act, move, hd] at hm
  | event c =>
    intro m hm
    simp [Watched.act, move] at hm
  | snapshot =>
    have hlapsed : (s.act .snapshot).lapsed = s.lapsed := s.index.lapsed_snapshotMeta s.clock
    intro m hm
    rw [hlapsed]
    change m.staleInvalidations ≤ (s.index.snapshotMeta s.clock).1.staleInvalidated ∧
      (_ → m = ((s.index.snapshotMeta s.clock).1.snapshotMeta s.clock).2)
    rcases List.mem_cons.mp hm with rfl | hm
    · cases hs : s.lapsed with
      | true =>
        obtain ⟨hindex, hcount⟩ := Index.snapshotMeta_of_lapsed hs
        exact ⟨by rw [hcount, hindex], fun h => absurd h.symm Bool.false_ne_true⟩
      | false =>
        obtain ⟨hindex, hcount⟩ := Index.snapshotMeta_of_not_lapsed hs
        rw [hcount, hindex]
        exact ⟨le_rfl, fun _ => rfl⟩
    · obtain ⟨hle, heq⟩ := h m hm
      cases hs : s.lapsed with
      | true =>
        obtain ⟨hindex, -⟩ := Index.snapshotMeta_of_lapsed hs
        rw [hindex]
        exact ⟨hle.trans (Nat.le_succ _), fun h => absurd h.symm Bool.false_ne_true⟩
      | false =>
        obtain ⟨hindex, -⟩ := Index.snapshotMeta_of_not_lapsed hs
        rw [hindex]
        exact ⟨hle, fun _ => heq hs⟩

/-- An action other than a snapshot changes neither the count nor, but by forgetting it, the
metadata taken. -/
theorem CountedOnce.act_of_ne {s : Watched} (h : s.CountedOnce) {a : WatchAction}
    (ha : a ≠ .snapshot) : (s.act a).CountedOnce := by
  cases a with
  | snapshot => exact absurd rfl ha
  | advance d =>
    refine ⟨h.bound.trans (Nat.le_add_right _ _), ?_⟩
    change ∀ m ∈ (if d = 0 then s.taken else []), ∀ m' ∈ (if d = 0 then s.taken else []), m = m'
    split
    · exact h.same
    · exact List.forall_mem_nil _
  | event c =>
    refine ⟨?_, List.forall_mem_nil _⟩
    change (s.index.call (c.readAt s.clock)).staleInvalidated ≤ _
    rw [Index.call_staleInvalidated]
    exact h.bound.trans (Nat.le_add_right _ _)

/-- A snapshot of a lapsed index counts once more, and differs from those taken before. -/
theorem countedOnce_snapshot_lapsed {s : Watched} (hcurrent : s.Current) (hs : s.lapsed = true) :
    (s.act .snapshot).CountedOnce ↔
      s.index.staleInvalidated < s.periods ∧ s.taken = [] := by
  obtain ⟨hindex, hcount⟩ := Index.snapshotMeta_of_lapsed hs
  have hperiods : (s.act .snapshot).periods = s.periods := by simp [act, begins, hs]
  have hcounted : (s.act .snapshot).index.staleInvalidated = s.index.staleInvalidated + 1 :=
    congrArg Index.staleInvalidated hindex
  constructor
  · rintro ⟨hbound, hsame⟩
    rw [hcounted, hperiods] at hbound
    refine ⟨hbound, List.eq_nil_iff_forall_not_mem.mpr fun m hm => ?_⟩
    have hle := (hcurrent m hm).1
    have heq := hsame m (List.mem_cons_of_mem _ hm) _ List.mem_cons_self
    rw [heq, hcount] at hle
    exact Nat.not_succ_le_self _ hle
  · rintro ⟨hlt, hnone⟩
    refine ⟨by rwa [hcounted, hperiods], ?_⟩
    change ∀ m ∈ _ :: s.taken, ∀ m' ∈ _ :: s.taken, m = m'
    simp [hnone]

/-- A snapshot of an index that has not lapsed changes nothing. -/
theorem CountedOnce.snapshot_of_not_lapsed {s : Watched} (h : s.CountedOnce)
    (hcurrent : s.Current) (hs : s.lapsed = false) : (s.act .snapshot).CountedOnce := by
  obtain ⟨hindex, -⟩ := Index.snapshotMeta_of_not_lapsed hs
  refine ⟨?_, ?_⟩
  · change (s.index.snapshotMeta s.clock).1.staleInvalidated ≤ _
    rw [hindex]
    exact h.bound.trans (Nat.le_add_right _ _)
  · have hall : ∀ m ∈ (s.act .snapshot).taken, m = (s.index.snapshotMeta s.clock).2 := by
      intro m hm
      rcases List.mem_cons.mp hm with rfl | hm
      · rfl
      · exact (hcurrent m hm).2 hs
    intro m hm m' hm'
    rw [hall m hm, hall m' hm']

/-- The code's counter is the number of snapshots that found the index lapsed. -/
def Tallied (s : Watched) : Prop := s.index.staleInvalidated = s.staleReads

theorem Tallied.act {s : Watched} (h : s.Tallied) (a : WatchAction) : (s.act a).Tallied := by
  cases a with
  | advance d => exact h
  | event c => exact (Index.call_staleInvalidated ..).trans h
  | snapshot =>
    change (s.index.snapshotMeta s.clock).1.staleInvalidated =
      s.staleReads + if s.lapsed then 1 else 0
    rw [← show s.index.staleInvalidated = s.staleReads from h]
    cases hs : s.lapsed with
    | true => rw [(Index.snapshotMeta_of_lapsed hs).1]; rfl
    | false => rw [(Index.snapshotMeta_of_not_lapsed hs).1]; rfl

theorem countedOnce_act_iff {s : Watched} (hcurrent : s.Current) (htallied : s.Tallied)
    (h : s.CountedOnce) (a : WatchAction) : (s.act a).CountedOnce ↔ s.WithinPeriods a := by
  by_cases ha : a = .snapshot
  · subst ha
    rw [WithinPeriods, forall_prop_of_true rfl]
    cases hs : s.lapsed with
    | true =>
      rw [countedOnce_snapshot_lapsed hcurrent hs, forall_prop_of_true rfl,
        show s.index.staleInvalidated = s.staleReads from htallied]
    | false =>
      exact iff_of_true (h.snapshot_of_not_lapsed hcurrent hs) fun h => absurd h Bool.false_ne_true
  · exact iff_of_true (h.act_of_ne ha) fun h => absurd h ha

theorem always_countedOnce_iff (cfg : IndexConfig) (start : ℤ) (as : List WatchAction) :
    Always step CountedOnce (init cfg start) as ↔
      StepsMeet step WithinPeriods (init cfg start) as := by
  have hinit : (init cfg start).Current ∧ (init cfg start).Tallied := ⟨List.forall_mem_nil _, rfl⟩
  have hcounted : (init cfg start).CountedOnce := ⟨le_rfl, List.forall_mem_nil _⟩
  refine always_iff_stepsMeet (I := fun s => s.Current ∧ s.Tallied) hinit ?_ hcounted ?_
    (exec_total act (init cfg start) as)
  · rintro s a t ⟨hcurrent, htallied⟩ ⟨⟩
    exact ⟨hcurrent.act a, htallied.act a⟩
  · rintro s a t ⟨hcurrent, htallied⟩ hs ⟨⟩
    exact countedOnce_act_iff hcurrent htallied hs a

/-! ### One snapshot in each stale period -/

/-- What holds while no stale period is read twice: there are as many periods as stale
snapshots, with one to spare while the present period is unread, in which nothing was taken. -/
structure ReadOnce (s : Watched) : Prop where
  covered : s.staleReads ≤ s.periods
  spare : s.lapsed = true → s.periodRead = false → s.staleReads < s.periods
  untaken : s.lapsed = true → s.periodRead = false → s.taken = []

/-- A period begins with an event or a move of the clock, and nothing is taken in it yet. -/
theorem act_of_begins {s : Watched} {a : WatchAction} (ha : s.begins a = true) :
    (s.act a).staleReads = s.staleReads ∧ (s.act a).taken = [] := by
  have hlapsed : s.lapsed = false ∧ (s.move a).lapsed = true := by simpa [begins] using ha
  cases a with
  | advance d =>
    refine ⟨rfl, if_neg ?_⟩
    rintro rfl
    simp [move, lapsed] at hlapsed
  | event c => exact ⟨rfl, rfl⟩
  | snapshot =>
    have hsame : (s.move .snapshot).lapsed = s.lapsed := s.index.lapsed_snapshotMeta s.clock
    rw [hsame, hlapsed.1] at hlapsed
    exact absurd hlapsed.2 Bool.false_ne_true

theorem ReadOnce.act {s : Watched} (h : s.ReadOnce) {a : WatchAction} (ha : s.FirstOfPeriod a) :
    (s.act a).ReadOnce := by
  cases hbegins : s.begins a with
  | true =>
    obtain ⟨hreads, htaken⟩ := act_of_begins hbegins
    have hspare : (s.act a).staleReads < (s.act a).periods := by
      have hperiods : (s.act a).periods = s.periods + 1 := by simp [Watched.act, hbegins]
      rw [hreads, hperiods]
      exact Nat.lt_succ_of_le h.covered
    exact ⟨hspare.le, fun _ _ => hspare, fun _ _ => htaken⟩
  | false =>
    have hperiods : (s.act a).periods = s.periods := by simp [Watched.act, hbegins]
    have hread : (s.act a).periodRead = (s.move a).periodRead := by simp [Watched.act, hbegins]
    have hbefore : (s.act a).lapsed = true → s.lapsed = true := by
      intro hafter
      by_contra hs
      simp [begins, hs, show (s.move a).lapsed = true from hafter] at hbegins
    -- Within a period, or outside of one, only a snapshot changes what the observer keeps.
    cases a with
    | advance d =>
      refine ⟨hperiods ▸ h.covered, fun hlapsed hunread => ?_, fun hlapsed hunread => ?_⟩
      · exact hperiods ▸ h.spare (hbefore hlapsed) (hread ▸ hunread)
      · have hnone := h.untaken (hbefore hlapsed) (hread ▸ hunread)
        change (if d = 0 then s.taken else []) = []
        rw [hnone, ite_self]
    | event c =>
      refine ⟨hperiods ▸ h.covered, fun hlapsed hunread => ?_, fun _ _ => rfl⟩
      exact hperiods ▸ h.spare (hbefore hlapsed) (hread ▸ hunread)
    | snapshot =>
      have hunread : (s.act .snapshot).lapsed = true → (s.act .snapshot).periodRead = true := by
        intro hlapsed
        rw [hread]
        exact (congrArg (s.periodRead || ·) (hbefore hlapsed)).trans (Bool.or_true _)
      refine ⟨?_, fun hlapsed hfalse => ?_, fun hlapsed hfalse => ?_⟩
      · rw [hperiods]
        change s.staleReads + (if s.lapsed then 1 else 0) ≤ s.periods
        cases hs : s.lapsed with
        | true => exact h.spare hs (ha rfl hs)
        | false => exact h.covered
      · exact absurd ((hunread hlapsed).symm.trans hfalse) (by decide)
      · exact absurd ((hunread hlapsed).symm.trans hfalse) (by decide)

/-- For every interleaving of clock advances, calls and snapshots: each stale period is
counted at most once and repeated snapshots are the same, all along, if and only if a snapshot
finds a lapsed index only while fewer have done so than stale periods have begun, and no other
snapshot since the last event or clock change. In particular this is so if no stale period is
read twice. -/
theorem countedOnce_iff_withinPeriods (cfg : IndexConfig) (start : ℤ) (as : List WatchAction) :
    (Always step CountedOnce (init cfg start) as ↔
        StepsMeet step WithinPeriods (init cfg start) as) ∧
      (StepsMeet step FirstOfPeriod (init cfg start) as →
        Always step CountedOnce (init cfg start) as) := by
  refine ⟨always_countedOnce_iff cfg start as, fun hfirst => ?_⟩
  rw [always_countedOnce_iff]
  have hinit : (init cfg start).ReadOnce := by
    refine ⟨le_rfl, fun hlapsed _ => ?_, fun _ _ => rfl⟩
    simp [lapsed, Index.lapsed, init, newIndex] at hlapsed
  have hread : Always step ReadOnce (init cfg start) as := by
    refine always_of_stepsMeet hinit ?_ hfirst
    rintro s a t hs ha ⟨⟩
    exact hs.act ha
  intro before a after he s hs hsnapshot hlapsed
  have hunread := hfirst before a after he s hs hsnapshot hlapsed
  have hs' := hread before (a :: after) he s hs
  exact ⟨hs'.spare hlapsed hunread, hs'.untaken hlapsed hunread⟩

/-- A store, a pause beyond the stale limit and a scrape of the metrics. -/
def scrapedOnce : List WatchAction :=
  [.event (.store 0 (.stored _) 1 "a" "" 16 16), .advance 31000000000] ++ WatchAction.scrape

/-- One scrape counts one stale period twice, and its two snapshots differ. -/
theorem scrapedOnce_not_countedOnce :
    let s := scrapedOnce.foldl act (init defaultIndexConfig 1)
    s.periods = 1 ∧ s.index.staleInvalidated = 2 ∧
      s.taken.map SnapshotMeta.staleInvalidations = [2, 1] ∧
      ¬ Always step CountedOnce (init defaultIndexConfig 1) scrapedOnce := by
  intro s
  have hperiods : s.periods = 1 := by decide +kernel
  have hcounted : s.index.staleInvalidated = 2 := by decide +kernel
  refine ⟨hperiods, hcounted, by decide +kernel, fun h => ?_⟩
  have hbound := (h scrapedOnce [] (List.append_nil _).symm s (exec_total act _ _)).bound
  rw [hperiods, hcounted] at hbound
  exact absurd hbound (by decide)

end Watched

end GpuSidecar.Cache
