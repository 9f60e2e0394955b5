import GpuSidecar.Core.List.Count
import GpuSidecar.Models.Engine.Adapters

/-!
# Which processes are on a device

The adapter for AMD devices counts the rows of the process table whose list of device
indices contains the text of its own index. A word without white space occurs in such a
list exactly if it occurs in one of its entries, so a row is counted for every device whose
index is part of the text of a listed one: a process on device 10 also counts for devices
1 and 0.
-/

namespace GpuSidecar.Engine

open Text Counting

/-- The decimal text of a device index. -/
structure Decimal (id : Chars) : Prop where
  ne_nil : id ≠ []
  digit : ∀ c ∈ id, c.isDigit = true

theorem isSpace_of_isDigit {c : Char} (h : c.isDigit = true) : isSpace c = false := by
  have hrange : 48 ≤ c.toNat ∧ c.toNat ≤ 57 := by
    simpa [Char.isDigit, UInt32.le_iff_toNat_le] using h
  have hall : ∀ n : Fin 58, 48 ≤ n.val → isSpace (Char.ofNat n) = false := by decide
  have hc := hall ⟨c.toNat, Nat.lt_succ_of_le hrange.2⟩ hrange.1
  rwa [Char.ofNat_toNat] at hc

/-- The values of the process rows of a table. -/
def pidRows (m : List (Chars × List (Chars × Chars))) : List Chars :=
  (((m.lookup "system".toList).getD []).filter fun row => "PID".toList.isPrefixOf row.1).map
    Prod.snd

/-- The device indices that a row lists. -/
def gpuIDs (v : Chars) : List Chars :=
  match v.splitOn ',' with
  | _ :: gpus :: _ => fields gpus
  | _ => []

/-- The test of the adapter whether a row belongs to a device. -/
def attributed (id v : Chars) : Bool :=
  match v.splitOn ',' with
  | _ :: gpus :: _ => decide (trimSpace gpus = id ∨ id <:+: trimSpace gpus)
  | _ => false

theorem amdProcs_eq (lib : Library) (deviceID : String) {r : CommandResult}
    (hr : r.failed = false) {m : List (Chars × List (Chars × Chars))}
    (hm : lib.unmarshal r.stdout = some m) :
    amdProcs lib deviceID r = .sup ((pidRows m).countP (attributed deviceID.toList) : ℕ) := by
  simp only [amdProcs, hr, hm, pidRows, Bool.false_eq_true, if_false]
  cases m.lookup "system".toList with
  | none => rfl
  | some sys =>
    rw [Option.getD_some, List.countP_map, List.countP_filter]
    refine congrArg (fun n : ℕ => Field.sup (n : ℤ)) (List.countP_congr fun row _ => ?_)
    rw [Bool.and_comm]
    rfl

theorem attributed_iff {id : Chars} (hid : Decimal id) (v : Chars) :
    attributed id v = true ↔ ∃ f ∈ gpuIDs v, id <:+: f := by
  unfold attributed gpuIDs
  split
  · rename_i gpus _ _
    rw [decide_eq_true_iff, ← fields_trimSpace, ← infix_iff_exists_fields hid.ne_nil
      fun c hc => isSpace_of_isDigit (hid.digit c hc)]
    constructor
    · rintro (h | h)
      · exact h ▸ List.infix_rfl
      · exact h
    · exact Or.inr
  · simp

/-- The counts are exact: every device has as many processes as rows list it, and over all
devices there are as many as pairs of a device and a row that lists it. -/
structure AttributionExact (lib : Library) (r : CommandResult) (rows : List Chars)
    (devices : List String) : Prop where
  counted : ∀ id ∈ devices,
    amdProcs lib id r = .sup (rows.countP fun v => decide (id.toList ∈ gpuIDs v) : ℕ)
  total : (devices.map fun id => (amdProcs lib id r).value).sum =
    ((devices ×ˢ rows).countP fun pair => decide (pair.1.toList ∈ gpuIDs pair.2) : ℕ)

/-- The count of a device is exact if and only if no row lists an index that contains its own
without listing it. -/
theorem amdProcs_eq_iff (lib : Library) {id : String} (hid : Decimal id.toList)
    {r : CommandResult} (hr : r.failed = false) {m : List (Chars × List (Chars × Chars))}
    (hm : lib.unmarshal r.stdout = some m) :
    amdProcs lib id r = .sup ((pidRows m).countP fun v => decide (id.toList ∈ gpuIDs v) : ℕ) ↔
      ∀ v ∈ pidRows m, (∃ f ∈ gpuIDs v, id.toList <:+: f) → id.toList ∈ gpuIDs v := by
  have hlisted : ∀ v ∈ pidRows m, decide (id.toList ∈ gpuIDs v) = true →
      attributed id.toList v = true := by
    intro v _ hv
    exact (attributed_iff hid v).mpr ⟨_, of_decide_eq_true hv, List.infix_rfl⟩
  rw [amdProcs_eq lib id hr hm, Field.sup, Field.sup, Field.mk.injEq, Nat.cast_inj,
    and_iff_left rfl, countP_eq_countP_iff hlisted]
  simp only [attributed_iff hid, decide_eq_true_iff]

/-- The counts are exact if and only if no row lists an index that contains the index of a
device which the row does not list. -/
theorem attribution_exact_iff (lib : Library) {r : CommandResult} (hr : r.failed = false)
    {m : List (Chars × List (Chars × Chars))} (hm : lib.unmarshal r.stdout = some m)
    {devices : List String} (hdecimal : ∀ id ∈ devices, Decimal id.toList) :
    AttributionExact lib r (pidRows m) devices ↔
      ∀ id ∈ devices, ∀ v ∈ pidRows m,
        (∃ f ∈ gpuIDs v, id.toList <:+: f) → id.toList ∈ gpuIDs v := by
  constructor
  · intro h id hid
    exact (amdProcs_eq_iff lib (hdecimal id hid) hr hm).mp (h.counted id hid)
  · intro h
    have hexact := fun id hid => (amdProcs_eq_iff lib (hdecimal id hid) hr hm).mpr (h id hid)
    refine ⟨hexact, ?_⟩
    have hvalue : devices.map (fun id => (amdProcs lib id r).value) = devices.map fun id =>
        (((pidRows m).countP fun v => decide (id.toList ∈ gpuIDs v) : ℕ) : ℤ) :=
      List.map_congr_left fun id hid => congrArg Field.value (hexact id hid)
    rw [hvalue, countP_product, Nat.cast_list_sum, List.map_map]
    rfl

/-- A library whose reader of JSON returns a process table. -/
def tableLibrary (sys : List (Chars × Chars)) : Library where
  parseFloat := fun _ => none
  parseUint := fun _ => none
  uint64 := fun _ => 0
  toLower := id
  unmarshal := fun _ => some [("system".toList, sys)]

/-- A command that succeeds. -/
def succeeded : CommandResult := ⟨[], [], 0, false, false⟩

/-- Two processes on single-digit devices, one of them on both. -/
def smallTable : List (Chars × Chars) :=
  [("PID100".toList, "train, 0 1, 512, 0, 0".toList), ("PID200".toList, "serve, 1, 8, 0, 0".toList)]

theorem smallTable_exact :
    AttributionExact (tableLibrary smallTable) succeeded
      (pidRows [("system".toList, smallTable)]) ["0", "1"] := by
  have hdigits : ∀ id ∈ ["0", "1"], id.toList ≠ [] ∧ id.toList.all Char.isDigit = true := by
    decide +kernel
  refine (attribution_exact_iff (tableLibrary smallTable) rfl rfl ?_).mpr (by decide +kernel)
  intro id hid
  exact ⟨(hdigits id hid).1, List.all_eq_true.mp (hdigits id hid).2⟩

/-- A process on device 10 alone counts for device 1 as well. -/
theorem twoDigits_inexact :
    let sys := [("PID100".toList, "train, 10, 512, 0, 0".toList)]
    amdProcs (tableLibrary sys) "1" succeeded = .sup 1 ∧
      ((pidRows [("system".toList, sys)]).countP fun v => decide ("1".toList ∈ gpuIDs v)) = 0 ∧
      ¬ AttributionExact (tableLibrary sys) succeeded (pidRows [("system".toList, sys)])
        ["1", "10"] := by
  intro sys
  refine ⟨by decide +kernel, by decide +kernel, fun h => ?_⟩
  have hcounted := h.counted "1" List.mem_cons_self
  revert hcounted
  decide +kernel

end GpuSidecar.Engine
