import GpuSidecar.Core.Json.Value
import GpuSidecar.Models.Cache.Explicit
import Mathlib.Data.List.Sort

/-!
# The published directory

The embedding of `Index.Directory`, of `Lookup`, `Snapshot` and `Directory` of the explicit
provider, and of the document that `/v1/cache` answers (`internal/cache/http_snapshot.go`).
A directory that is large enough holds exactly the keys that a lookup finds, and in every
state that observations lead to each key stands for a positive number of tokens.
-/

namespace GpuSidecar.Cache

open Map Run Time

/-- The matched tokens of published prefix keys. -/
abbrev KeyTokens := AList fun _ : String => ℤ

namespace Index

/-- Whether an entry is present and not expired. -/
def fresh (idx : Index) (now : ℤ) (e : IndexEntry) : Bool :=
  e.present && (decide (idx.cfg.entryTTL ≤ 0) || decide (sub now e.updatedAt ≤ idx.cfg.entryTTL))

/-- The fresh entries, in the order of a loop. -/
def freshEntries (idx : Index) (now : ℤ) (order : EntryOrder) :
    List (Sigma fun _ : String => IndexEntry) :=
  (order.visit idx.entries.entries).filter fun e => idx.fresh now e.2

/-- The fresh keys with their tokens; beyond the cap, the most recently updated ones. How the
sort leaves entries of the same time is part of the order. -/
def directoryAt (idx : Index) (clock : Readings) (order : EntryOrder) (max : ℤ) : KeyTokens :=
  if idx.isStaleLocked (clock 0) ∨ idx.lastUpdate = 0 then ∅
  else
    let max := if max ≤ 0 then idx.cfg.maxEntries else max
    let cand := idx.freshEntries (clock 1) order
    let chosen := if (idx.entries.keys.length : ℤ) ≤ max then cand
      else (cand.mergeSort fun a b => decide (b.2.updatedAt ≤ a.2.updatedAt)).take max.toNat
    writeAll (chosen.map fun e => (e.1, e.2.matchedTokens))

/-- The directory while the clock stands still. -/
def directory (idx : Index) (now : ℤ) (order : EntryOrder) (max : ℤ) : KeyTokens :=
  idx.directoryAt (fun _ => now) order max

end Index

/-! ### The explicit provider -/

/-- The input of a lookup. -/
structure PrefixQuery where
  prefixKeyHash : String
  prefixTokens : ℤ
  deriving DecidableEq, Repr

/-- The answer of a lookup. -/
structure MatchResult where
  supported : Bool
  matchSupported : Bool
  matchedPrefixTokens : ℤ
  confidence : ℚ
  snapshotAgeMs : ℤ
  reason : String
  deriving DecidableEq, Repr

/-- The provider's fields that observations do not use. -/
structure ProviderFeed where
  kvHeadroom : ℚ
  kvSupported : Bool
  started : Bool
  deriving DecidableEq, Repr

/-- The published metadata. -/
structure Snapshot extends SnapshotMeta where
  enabled : Bool
  provider : String
  supported : Bool
  matchSupported : Bool
  kvHeadroom : ℚ
  kvHeadroomSupported : Bool
  deriving DecidableEq, Repr

/-- The metadata with the directory. -/
structure PublicSnapshot where
  snapshot : Snapshot
  directory : KeyTokens

namespace ExplicitProvider

def lookup (p : ExplicitProvider) (now : ℤ) (q : PrefixQuery) : MatchResult :=
  if q.prefixKeyHash = "" then ⟨true, true, 0, 1, 0, "no_prefix_key"⟩
  else
    let (recorded, conf, ageMs) := p.index.lookupKey now q.prefixKeyHash
    if recorded = 0 then ⟨true, true, 0, conf, ageMs, "cold_prefix"⟩
    else if conf ≤ 0 then ⟨true, true, 0, 0, ageMs, "stale_record"⟩
    else ⟨true, true, if recorded < q.prefixTokens then recorded else q.prefixTokens, conf, ageMs,
      "warm_prefix"⟩

def snapshot (p : ExplicitProvider) (feed : ProviderFeed) (now : ℤ) :
    ExplicitProvider × Snapshot :=
  let (index, s) := p.index.snapshotMeta now
  ({ p with index := index },
    { toSnapshotMeta := { s with
        ready := s.ready || feed.started
        snapshotAgeMs := if s.snapshotAgeMs < 0 then 0 else s.snapshotAgeMs
        updatedAt := if s.updatedAt = 0 then now else s.updatedAt }
      enabled := true
      provider := "explicit"
      supported := true
      matchSupported := true
      kvHeadroom := feed.kvHeadroom
      kvHeadroomSupported := feed.kvSupported })

def directory (p : ExplicitProvider) (now : ℤ) (order : EntryOrder) (max : ℤ) : KeyTokens :=
  p.index.directory now order max

/-- The body of `/v1/cache`: `Snapshot` and then `Directory`, with no call and no tick of the
clock in between. -/
def buildPublicSnapshot (p : ExplicitProvider) (feed : ProviderFeed) (now : ℤ) (order : EntryOrder)
    (dirMax : ℤ) : ExplicitProvider × PublicSnapshot :=
  let (p, s) := p.snapshot feed now
  (p, ⟨s, p.directory now order dirMax⟩)

end ExplicitProvider

/-- The document of a snapshot; an empty directory is left out. -/
def PublicSnapshot.toJson (s : PublicSnapshot) : Json.Object :=
  [("enabled", .bool s.snapshot.enabled), ("provider", .str s.snapshot.provider),
    ("supported", .bool s.snapshot.supported), ("match_supported", .bool s.snapshot.matchSupported),
    ("ready", .bool s.snapshot.ready), ("confidence", .num s.snapshot.confidence),
    ("snapshot_age_ms", .num s.snapshot.snapshotAgeMs),
    ("last_event_sequence", .num s.snapshot.lastEventSequence),
    ("cache_reset_epoch", .num s.snapshot.cacheResetEpoch),
    ("index_entries", .num s.snapshot.indexEntries),
    ("index_max_entries", .num s.snapshot.indexMaxEntries),
    ("kv_headroom", .num s.snapshot.kvHeadroom),
    ("kv_headroom_supported", .bool s.snapshot.kvHeadroomSupported),
    ("events_received_total", .num s.snapshot.eventsReceivedTotal),
    ("events_dropped_total", .num s.snapshot.eventsDroppedTotal),
    ("sequence_gaps_total", .num s.snapshot.sequenceGapsTotal),
    ("stale_invalidations_total", .num s.snapshot.staleInvalidations),
    ("duplicate_events_total", .num s.snapshot.duplicateEventsTotal),
    ("out_of_order_events_total", .num s.snapshot.outOfOrderEventsTotal),
    ("resets_total", .num s.snapshot.resetsTotal)] ++
  if s.directory.entries.isEmpty then []
  else [("directory", .obj (s.directory.entries.map fun e => (e.1, .num e.2)))]

/-! ### The directory and the index -/

namespace Index

variable (idx : Index) (now : ℤ)

/-- A lookup finds the tokens of a fresh entry. -/
theorem lookupKeyLocked_eq (key : String) :
    idx.lookupKeyLocked now key =
      match idx.entries.lookup key with
      | some e => if idx.fresh now e then (e.matchedTokens, true) else (0, false)
      | none => (0, false) := by
  rw [lookupKeyLocked]
  cases idx.entries.lookup key with
  | none => rfl
  | some e =>
    by_cases hpresent : e.present = true
    · by_cases hexpired : 0 < idx.cfg.entryTTL ∧ idx.cfg.entryTTL < sub now e.updatedAt
      · have hfresh : idx.fresh now e = false := by
          simp only [fresh, hpresent, Bool.true_and, Bool.or_eq_false_iff, decide_eq_false_iff_not]
          omega
        simp [hpresent, hexpired, hfresh]
      · have hfresh : idx.fresh now e = true := by
          simp only [fresh, hpresent, Bool.true_and, Bool.or_eq_true, decide_eq_true_eq]
          omega
        simp [hpresent, hexpired, hfresh]
    · have hfresh : idx.fresh now e = false := by simp [fresh, hpresent]
      simp [hpresent, hfresh]

variable (order : EntryOrder)

theorem nodup_freshEntries : ((idx.freshEntries now order).map Sigma.fst).Nodup := by
  have hkeys : ((order.visit idx.entries.entries).map Sigma.fst).Nodup :=
    ((order.perm idx.entries.entries).map Sigma.fst).nodup_iff.mpr idx.entries.nodupKeys
  exact hkeys.sublist (List.filter_sublist.map Sigma.fst)

theorem mem_freshEntries {key : String} {e : IndexEntry} :
    (⟨key, e⟩ : Sigma fun _ : String => IndexEntry) ∈ idx.freshEntries now order ↔
      idx.entries.lookup key = some e ∧ idx.fresh now e = true := by
  rw [freshEntries, List.mem_filter, (order.perm _).mem_iff, ← AList.mem_lookup_iff,
    Option.mem_def]

/-- What is written for the fresh entries can be read back. -/
theorem lookup_freshEntries {key : String} {tokens : ℤ} :
    (writeAll ((idx.freshEntries now order).map fun e => (e.1, e.2.matchedTokens))).lookup key =
        some tokens ↔
      ∃ e, idx.entries.lookup key = some e ∧ idx.fresh now e = true ∧
        e.matchedTokens = tokens := by
  have hnodup : (((idx.freshEntries now order).map fun e => (e.1, e.2.matchedTokens)).map
      Prod.fst).Nodup := by
    rw [List.map_map]
    exact idx.nodup_freshEntries now order
  rw [lookup_writeAll hnodup, List.mem_map]
  constructor
  · rintro ⟨⟨k, e⟩, he, hkey⟩
    obtain ⟨hlookup, hfresh⟩ := (idx.mem_freshEntries now order).mp he
    obtain ⟨rfl, rfl⟩ := Prod.ext_iff.mp hkey
    exact ⟨e, hlookup, hfresh, rfl⟩
  · rintro ⟨e, hlookup, hfresh, rfl⟩
    exact ⟨⟨key, e⟩, (idx.mem_freshEntries now order).mpr ⟨hlookup, hfresh⟩, rfl⟩

/-- A directory that is large enough holds the fresh entries of a trusted index. -/
theorem lookup_directory {max : ℤ} (hmax : (idx.entries.keys.length : ℤ) ≤ max) {key : String}
    {tokens : ℤ} :
    (idx.directory now order max).lookup key = some tokens ↔
      (idx.isStaleLocked now = false ∧ idx.lastUpdate ≠ 0) ∧
        ∃ e, idx.entries.lookup key = some e ∧ idx.fresh now e = true ∧
          e.matchedTokens = tokens := by
  by_cases htrust : idx.isStaleLocked now = true ∨ idx.lastUpdate = 0
  · rw [directory, directoryAt, if_pos htrust]
    refine iff_of_false (by simp) ?_
    rintro ⟨⟨hstale, hzero⟩, -⟩
    simp [hstale, hzero] at htrust
  · have htrust' : idx.isStaleLocked now = false ∧ idx.lastUpdate ≠ 0 := by simpa using htrust
    rw [directory, directoryAt, if_neg htrust, and_iff_right htrust',
      ← idx.lookup_freshEntries now order]
    by_cases hpos : max ≤ 0
    · -- only an empty index has at most that many entries
      have hempty : idx.freshEntries now order = [] := by
        have hnil : idx.entries.entries = [] := by
          have hlen : idx.entries.keys.length = 0 := by omega
          rwa [AList.keys, List.keys, List.length_map, List.length_eq_zero_iff] at hlen
        rw [freshEntries, hnil, (order.perm []).eq_nil, List.filter_nil]
      simp [hempty]
    · rw [if_neg hpos]
      simp only [if_pos hmax]

/-! ### What observations record -/

/-- Eviction leaves the other entries as they are. -/
theorem lookup_of_evictLoop {excess : ℕ} {idx : Index} {key : String} {e : IndexEntry}
    (h : (evictLoop order excess idx).entries.lookup key = some e) :
    idx.entries.lookup key = some e := by
  induction excess generalizing idx with
  | zero => exact h
  | succ excess ih =>
    rw [evictLoop] at h
    split at h
    · exact h
    · have hkept : (idx.entries.erase (scanOldest (order.visit idx.entries.entries)).1).lookup key =
          some e := ih h
      by_cases hkey : key = (scanOldest (order.visit idx.entries.entries)).1
      · rw [← hkey, AList.lookup_erase] at hkept
        cases hkept
      · rwa [AList.lookup_erase_ne hkey] at hkept

/-- Every entry stands under a name and for a positive number of tokens. -/
def Recorded (idx : Index) : Prop :=
  ∀ key e, idx.entries.lookup key = some e → key ≠ "" ∧ 0 < e.matchedTokens

variable {idx}

theorem Recorded.insert (h : idx.Recorded) {key : String} (hkey : key ≠ "") {e : IndexEntry}
    (he : 0 < e.matchedTokens) {k : String} {e' : IndexEntry}
    (hlookup : (idx.entries.insert key e).lookup k = some e') : k ≠ "" ∧ 0 < e'.matchedTokens := by
  by_cases hk : k = key
  · subst hk
    rw [AList.lookup_insert, Option.some_inj] at hlookup
    exact ⟨hkey, hlookup ▸ he⟩
  · rw [AList.lookup_insert_ne hk] at hlookup
    exact h k e' hlookup

theorem Recorded.applyStore (h : idx.Recorded) (seq : ℤ) {key : String} (hkey : key ≠ "")
    (parent : String) {tokens : ℤ} (htokens : 0 < tokens) (blockSize : ℤ) :
    (idx.applyStore now order seq key parent tokens blockSize).Recorded := by
  intro k e' hlookup
  cases hl : idx.entries.lookup key with
  | none =>
    rw [idx.applyStore_new now order seq hl] at hlookup
    exact h.insert hkey (e := storedEntry none now seq key parent tokens blockSize) htokens
      (lookup_of_evictLoop order hlookup)
  | some e =>
    rcases idx.applyStore_known now order seq hl parent tokens blockSize with
      ⟨-, hdup⟩ | hwrite
    · rw [hdup] at hlookup
      exact h k e' hlookup
    · rw [hwrite] at hlookup
      have hstored : (storedEntry (some e) now seq key parent tokens blockSize).matchedTokens =
          tokens := if_pos htokens
      exact h.insert hkey (hstored.symm ▸ htokens) hlookup

end Index

namespace ExplicitSystem

/-- Every recorded or pending observation names a key and a positive number of tokens. -/
structure Recorded (s : ExplicitSystem) : Prop where
  index : s.provider.index.Recorded
  pending : ∀ o ∈ s.pending, o.keyHash ≠ "" ∧ 0 < o.tokens

theorem Recorded.step {s t : ExplicitSystem} (h : s.Recorded) {a : ExplicitAction}
    (hstep : s.step a = some t) : t.Recorded := by
  cases a with
  | observe keyHash tokens =>
    by_cases hskip : keyHash = "" ∨ tokens ≤ 0
    · simp only [ExplicitSystem.step, ExplicitProvider.takeSeq, if_pos hskip,
        Option.some_inj] at hstep
      exact hstep ▸ h
    · simp only [ExplicitSystem.step, ExplicitProvider.takeSeq, if_neg hskip,
        Option.some_inj] at hstep
      rw [← hstep]
      refine ⟨h.index, fun o ho => ?_⟩
      rcases List.mem_append.mp ho with ho | ho
      · exact h.pending o ho
      · rw [List.mem_singleton] at ho
        rw [ho]
        exact ⟨fun hkey => hskip (Or.inl hkey), Int.not_le.mp fun hle => hskip (Or.inr hle)⟩
  | apply i now order =>
    cases ho : s.pending[i]? with
    | none => simp [ExplicitSystem.step, ho] at hstep
    | some o =>
      simp only [ExplicitSystem.step, ho, Option.some_inj] at hstep
      obtain ⟨hkey, htokens⟩ := h.pending o (List.mem_of_getElem? ho)
      rw [← hstep]
      exact ⟨h.index.applyStore now order o.seq hkey "" htokens 0,
        fun o' ho' => h.pending o' (List.mem_of_mem_eraseIdx ho')⟩
  | restart now =>
    simp only [ExplicitSystem.step, Option.some_inj] at hstep
    rw [← hstep]
    refine ⟨fun key e hlookup => ?_, h.pending⟩
    cases hlookup

/-- Whatever the interleaving of observations and restarts, what is recorded is positive. -/
theorem recorded_run {cfg : IndexConfig} {start : ℤ} {as : List ExplicitAction} {s : ExplicitSystem}
    (h : exec ExplicitSystem.step (init cfg start) as = some s) : s.Recorded := by
  refine exec_invariant ?_ (fun _ _ _ hs hstep => hs.step hstep) h
  refine ⟨fun key e hlookup => ?_, fun o ho => ?_⟩
  · cases hlookup
  · cases ho

end ExplicitSystem

/-! ### Lookups and the directory -/

namespace ExplicitProvider

variable {p : ExplicitProvider}

/-- A lookup finds nothing but keys of a directory that is large enough, and of these the claimed
tokens, at most those recorded, as long as there is any confidence. -/
theorem lookup_matchedPrefixTokens (h : p.index.Recorded) (now : ℤ) (order : EntryOrder)
    {dirMax : ℤ} (hmax : (p.index.entries.keys.length : ℤ) ≤ dirMax) (key : String) (t : ℤ) :
    (p.lookup now ⟨key, t⟩).matchedPrefixTokens =
      match (p.directory now order dirMax).lookup key with
      | none => 0
      | some tokens =>
        if p.index.confidenceLocked now ≤ 0 then 0 else if tokens < t then tokens else t := by
  have hdir : ∀ tokens, (p.directory now order dirMax).lookup key = some tokens ↔ _ :=
    fun tokens => p.index.lookup_directory now order hmax
  cases hfound : (p.directory now order dirMax).lookup key with
  | some tokens =>
    obtain ⟨⟨hstale, hzero⟩, e, hlookup, hfresh, rfl⟩ := (hdir tokens).mp hfound
    obtain ⟨hkey, hpos⟩ := h key e hlookup
    have hkeyed : p.index.lookupKey now key =
        (e.matchedTokens, p.index.confidenceLocked now, p.index.ageMsLocked now) := by
      simp [Index.lookupKey, Index.lookupKeyAt, Index.confidenceLocked, hstale,
        Index.lookupKeyLocked_eq, hlookup, hfresh]
    simp only [lookup, hkeyed, if_neg hkey, if_neg (Int.ne_of_gt hpos)]
    split <;> rfl
  | none =>
    by_cases hkey : key = ""
    · rw [lookup, if_pos hkey]
    · have hnothing : (p.index.lookupKey now key).1 = 0 ∨ (p.index.lookupKey now key).2.1 ≤ 0 := by
        by_cases hstale : p.index.isStaleLocked now = true
        · simp [Index.lookupKey, Index.lookupKeyAt, hstale]
        by_cases hzero : p.index.lastUpdate = 0
        · right
          rw [p.index.lookupKey_confidence, Index.confidenceLocked, Index.confidenceLockedAt,
            if_pos (Or.inl hzero)]
        · left
          cases hlookup : p.index.entries.lookup key with
          | none =>
            simp [Index.lookupKey, Index.lookupKeyAt, hstale, Index.lookupKeyLocked_eq, hlookup]
          | some e =>
            cases hfresh : p.index.fresh now e with
            | false =>
              simp [Index.lookupKey, Index.lookupKeyAt, hstale, Index.lookupKeyLocked_eq,
                hlookup, hfresh]
            | true =>
              have hlisted := (hdir e.matchedTokens).mpr
                ⟨⟨Bool.eq_false_iff.mpr hstale, hzero⟩, e, hlookup, hfresh, rfl⟩
              cases hfound.symm.trans hlisted
      simp only [lookup, if_neg hkey]
      by_cases hcold : (p.index.lookupKey now key).1 = 0
      · rw [if_pos hcold]
      · rw [if_neg hcold, if_pos (hnothing.resolve_left hcold)]

/-- The published body holds the confidence and the directory of the index. -/
theorem buildPublicSnapshot_eq (p : ExplicitProvider) (feed : ProviderFeed) (now : ℤ)
    (order : EntryOrder) (dirMax : ℤ) :
    (p.buildPublicSnapshot feed now order dirMax).2.snapshot.confidence =
        p.index.confidenceLocked now ∧
      (p.buildPublicSnapshot feed now order dirMax).2.directory = p.directory now order dirMax := by
  refine ⟨p.index.snapshotMeta_confidence now, ?_⟩
  simp only [buildPublicSnapshot, snapshot, Index.snapshotMeta, Index.snapshotMetaAt]
  split <;> rfl

end ExplicitProvider

namespace PublicSnapshot

variable (s : PublicSnapshot)

theorem nodup_toJson : (s.toJson.map Prod.fst).Nodup := by
  rw [toJson, List.map_append]
  split
  · simp
  · simp

theorem member_supported : Json.member s.toJson "supported" = .bool s.snapshot.supported := by
  apply Json.member_of_mem s.nodup_toJson
  simp [toJson]

theorem member_confidence : Json.member s.toJson "confidence" = .num s.snapshot.confidence := by
  apply Json.member_of_mem s.nodup_toJson
  simp [toJson]

/-- The directory of the document, if it has one, lists the entries of the directory. -/
theorem member_directory (h : s.directory.entries ≠ []) :
    Json.member s.toJson "directory" =
      .obj (s.directory.entries.map fun e => (e.1, .num e.2)) := by
  apply Json.member_of_mem s.nodup_toJson
  simp [toJson, h]

theorem member_directory_empty (h : s.directory.entries = []) :
    Json.member s.toJson "directory" = .null := by
  simp [toJson, h, Json.member, Json.member?]

end PublicSnapshot

end GpuSidecar.Cache
