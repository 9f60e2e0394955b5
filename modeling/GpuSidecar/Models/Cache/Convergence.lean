import GpuSidecar.Models.Cache.Events
import Mathlib.Data.Finset.Max

/-!
# Redelivery and reordering of store and remove events

Presence follows delivery order: a key is present if and only if the event that was
delivered last for it is a store, whatever the sequence numbers say. The index
therefore converges to the verdict of the highest-numbered events exactly for those
delivery orders that end, key by key, with an event of the same kind.
-/

namespace GpuSidecar.Cache

/-- A store or remove event for one key, with its publisher's sequence number. -/
inductive KeyEvent where
  | store (seq : ℤ) (key parent : String) (matchedTokens blockSize : ℤ)
  | remove (seq : ℤ) (key : String)
  deriving DecidableEq, Repr

namespace KeyEvent

def key : KeyEvent → String
  | store _ key _ _ _ => key
  | remove _ key => key

def seq : KeyEvent → ℤ
  | store seq _ _ _ _ => seq
  | remove seq _ => seq

def isStore : KeyEvent → Bool
  | store _ _ _ _ _ => true
  | remove _ _ => false

/-- The call that delivers the event. -/
def deliver (now : ℤ) (order : EntryOrder) : KeyEvent → IndexCall
  | store seq key parent matchedTokens blockSize =>
    .store now order seq key parent matchedTokens blockSize
  | remove seq key => .remove now seq key

end KeyEvent

/-- One delivery of an event: the clock reading and the iteration order it meets. -/
structure Delivery where
  event : KeyEvent
  now : ℤ
  order : EntryOrder

/-- The events delivered, in order and with repetitions. -/
def delivered (ds : List Delivery) : List KeyEvent := ds.map Delivery.event

/-- The index after a list of deliveries to a new index. -/
def deliverAll (cfg : IndexConfig) (start : ℤ) (ds : List Delivery) : Index :=
  (newIndex cfg start).run (ds.map fun d => d.event.deliver d.now d.order)

/-- At most one event for each key and sequence number. -/
def AtMostOnce (events : List KeyEvent) : Prop :=
  ∀ e ∈ events, ∀ e' ∈ events, e.key = e'.key → e.seq = e'.seq → e = e'

/-- The event has the highest sequence number among those of its key. -/
def IsHighest (events : List KeyEvent) (key : String) (e : KeyEvent) : Prop :=
  e ∈ events ∧ e.key = key ∧ ∀ e' ∈ events, e'.key = key → e'.seq ≤ e.seq

/-- The event of a key that was delivered last. -/
def lastDelivered (events : List KeyEvent) (key : String) : Option KeyEvent :=
  (events.filter fun e => e.key = key).getLast?

theorem lastDelivered_concat (events : List KeyEvent) (e : KeyEvent) (key : String) :
    lastDelivered (events ++ [e]) key =
      if key = e.key then some e else lastDelivered events key := by
  by_cases h : key = e.key
  · simp [lastDelivered, List.filter_append, h]
  · simp [lastDelivered, List.filter_append, h, Ne.symm h]

theorem lastDelivered_mem {events : List KeyEvent} {key : String} {e : KeyEvent}
    (h : lastDelivered events key = some e) : e ∈ events ∧ e.key = key := by
  have hm := List.mem_of_getLast? h
  simpa using hm

/-- A key with an event has one delivered last. -/
theorem exists_lastDelivered {events : List KeyEvent} {key : String} {e : KeyEvent}
    (hm : e ∈ events) (hk : e.key = key) : ∃ l, lastDelivered events key = some l := by
  have hf : e ∈ events.filter fun e => e.key = key := by simp [hm, hk]
  exact ⟨_, List.getLast?_eq_some_getLast (List.ne_nil_of_mem hf)⟩

/-- A key with an event has a highest one. -/
theorem exists_isHighest {events : List KeyEvent} {key : String} {e : KeyEvent}
    (hm : e ∈ events) (hk : e.key = key) : ∃ h, IsHighest events key h := by
  have hne : ((events.filter fun e => e.key = key).toFinset).Nonempty := ⟨e, by simp [hm, hk]⟩
  obtain ⟨h, hmem, hmax⟩ := Finset.exists_max_image _ KeyEvent.seq hne
  simp only [List.mem_toFinset, List.mem_filter, decide_eq_true_eq] at hmem hmax
  exact ⟨h, hmem.1, hmem.2, fun e' he' hk' => hmax e' ⟨he', hk'⟩⟩

/-- With at most one event for each number, the highest event of a key is unique. -/
theorem IsHighest.unique {events : List KeyEvent} (hu : AtMostOnce events) {key : String}
    {a b : KeyEvent} (ha : IsHighest events key a) (hb : IsHighest events key b) : a = b :=
  hu a ha.1 b hb.1 (ha.2.1.trans hb.2.1.symm)
    (le_antisymm (hb.2.2 a ha.1 ha.2.1) (ha.2.2 b hb.1 hb.2.1))

/-- One delivery without eviction: the event's key takes its kind, other keys keep theirs. -/
theorem presentKey_deliver (idx : Index) (e : KeyEvent) (now : ℤ) (order : EntryOrder)
    (hkeep : (idx.call (e.deliver now order)).eventsDropped = idx.eventsDropped) (key : String) :
    (idx.call (e.deliver now order)).presentKey key =
      if key = e.key then e.isStore else idx.presentKey key := by
  cases e with
  | store seq k parent tokens size =>
    exact idx.presentKey_applyStore now order seq k parent tokens size hkeep key
  | remove seq k =>
    exact idx.presentKey_applyRemove now seq k key

/-- Without eviction, a key is present exactly if the event delivered last for it is a
store. -/
theorem presentKey_deliverAll (cfg : IndexConfig) (start : ℤ) (ds : List Delivery)
    (hkeep : (deliverAll cfg start ds).eventsDropped = 0) (key : String) :
    (deliverAll cfg start ds).presentKey key = true ↔
      ∃ e, lastDelivered (delivered ds) key = some e ∧ e.isStore = true := by
  induction ds using List.reverseRecOn with
  | nil => simp [deliverAll, delivered, lastDelivered, newIndex, Index.presentKey]
  | append_singleton ds d ih =>
    have hrun : deliverAll cfg start (ds ++ [d]) =
        (deliverAll cfg start ds).call (d.event.deliver d.now d.order) := by
      simp [deliverAll, Index.run_append]
    have hmono := (deliverAll cfg start ds).eventsDropped_le_call (d.event.deliver d.now d.order)
    rw [← hrun, hkeep] at hmono
    have hbefore : (deliverAll cfg start ds).eventsDropped = 0 := Nat.le_zero.mp hmono
    have hstep : ((deliverAll cfg start ds).call (d.event.deliver d.now d.order)).eventsDropped =
        (deliverAll cfg start ds).eventsDropped := by rw [← hrun, hkeep, hbefore]
    have hevents : delivered (ds ++ [d]) = delivered ds ++ [d.event] := by simp [delivered]
    rw [hrun, presentKey_deliver _ _ _ _ hstep, hevents, lastDelivered_concat]
    by_cases hk : key = d.event.key
    · simp [hk]
    · simp only [hk, if_false]
      exact ih hbefore

/-- The index ends with the verdict of the highest-numbered event of every key. -/
def Converges (cfg : IndexConfig) (start : ℤ) (ds : List Delivery) : Prop :=
  ∀ key, (deliverAll cfg start ds).presentKey key = true ↔
    ∃ e, IsHighest (delivered ds) key e ∧ e.isStore = true

/-- For every key, the event delivered last is of the same kind as the highest-numbered
one. -/
def EndsWithHighest (ds : List Delivery) : Prop :=
  ∀ key last, lastDelivered (delivered ds) key = some last →
    ∀ highest, IsHighest (delivered ds) key highest → last.isStore = highest.isStore

/-- For every set of events, every order and every number of redeliveries without an
eviction, the index converges if and only if every key's last delivery is of the same
kind as its highest-numbered event. -/
theorem converges_iff_endsWithHighest (cfg : IndexConfig) (start : ℤ) (ds : List Delivery)
    (hunique : AtMostOnce (delivered ds))
    (hkeep : (deliverAll cfg start ds).eventsDropped = 0) :
    Converges cfg start ds ↔ EndsWithHighest ds := by
  constructor
  · intro hconv key last hlast highest hhigh
    have hpresent := presentKey_deliverAll cfg start ds hkeep key
    rw [hconv key, hlast] at hpresent
    rw [Bool.eq_iff_iff]
    constructor
    · intro hstore
      obtain ⟨e, he, hes⟩ := hpresent.mpr ⟨last, rfl, hstore⟩
      rwa [hhigh.unique hunique he]
    · intro hstore
      obtain ⟨e, he, hes⟩ := hpresent.mp ⟨highest, hhigh, hstore⟩
      rwa [Option.some.inj he]
  · intro hends key
    rw [presentKey_deliverAll cfg start ds hkeep key]
    constructor
    · rintro ⟨last, hlast, hstore⟩
      obtain ⟨hm, hk⟩ := lastDelivered_mem hlast
      obtain ⟨highest, hhigh⟩ := exists_isHighest hm hk
      exact ⟨highest, hhigh, (hends key last hlast highest hhigh).symm.trans hstore⟩
    · rintro ⟨highest, hhigh, hstore⟩
      obtain ⟨last, hlast⟩ := exists_lastDelivered hhigh.1 hhigh.2.1
      exact ⟨last, hlast, (hends key last hlast highest hhigh).trans hstore⟩

/-- A store and the remove that supersedes it, and the two replayed together. -/
def replayedBatch : List Delivery :=
  [⟨.store 1 "k" "" 16 16, 1, .stored _⟩, ⟨.remove 2 "k", 2, .stored _⟩,
    ⟨.store 1 "k" "" 16 16, 3, .stored _⟩, ⟨.remove 2 "k", 4, .stored _⟩]

/-- The batch ends with the remove again, and the index with its verdict. -/
theorem replayedBatch_converges :
    AtMostOnce (delivered replayedBatch) ∧
      (deliverAll defaultIndexConfig 0 replayedBatch).eventsDropped = 0 ∧
      Converges defaultIndexConfig 0 replayedBatch := by
  have hu : AtMostOnce (delivered replayedBatch) := by
    simp [AtMostOnce, delivered, replayedBatch, KeyEvent.seq]
  have hkeep : (deliverAll defaultIndexConfig 0 replayedBatch).eventsDropped = 0 := by
    decide
  have hhigh : IsHighest (delivered replayedBatch) "k" (.remove 2 "k") := by
    simp [IsHighest, delivered, replayedBatch, KeyEvent.key, KeyEvent.seq]
  refine ⟨hu, hkeep, (converges_iff_endsWithHighest _ _ _ hu hkeep).mpr ?_⟩
  intro key last hlast highest hhighest
  have hkeys : ∀ e ∈ delivered replayedBatch, e.key = "k" := by
    simp [delivered, replayedBatch, KeyEvent.key]
  obtain ⟨hm, rfl⟩ := lastDelivered_mem hlast
  rw [hkeys last hm] at hlast hhighest
  have hremove : lastDelivered (delivered replayedBatch) "k" = some (.remove 2 "k") := by decide
  rw [hhighest.unique hu hhigh, Option.some_inj.mp (hlast.symm.trans hremove)]

/-- A store, the remove that supersedes it, and the store's batch replayed. -/
def replayedStore : List Delivery :=
  [⟨.store 1 "k" "" 16 16, 1, .stored _⟩, ⟨.remove 2 "k", 2, .stored _⟩,
    ⟨.store 1 "k" "" 16 16, 3, .stored _⟩]

/-- Replaying the superseded store makes the removed key present again. -/
theorem replayedStore_diverges :
    AtMostOnce (delivered replayedStore) ∧
      (deliverAll defaultIndexConfig 0 replayedStore).eventsDropped = 0 ∧
      ¬ Converges defaultIndexConfig 0 replayedStore := by
  have hu : AtMostOnce (delivered replayedStore) := by
    simp [AtMostOnce, delivered, replayedStore, KeyEvent.seq]
  have hkeep : (deliverAll defaultIndexConfig 0 replayedStore).eventsDropped = 0 := by
    decide
  have hhigh : IsHighest (delivered replayedStore) "k" (.remove 2 "k") := by
    simp [IsHighest, delivered, replayedStore, KeyEvent.key, KeyEvent.seq]
  refine ⟨hu, hkeep, fun hconv => ?_⟩
  obtain ⟨e, he, hstore⟩ := (hconv "k").mp (by decide)
  rw [he.unique hu hhigh] at hstore
  exact Bool.false_ne_true hstore

end GpuSidecar.Cache
