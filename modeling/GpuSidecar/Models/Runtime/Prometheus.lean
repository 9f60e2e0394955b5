import GpuSidecar.Core.List.Reorder
import GpuSidecar.Core.Text.Scan
import Mathlib.Data.Rat.Init
import Mathlib.Logic.Function.Basic

/-!
# The parser of runtime metrics

The embedding of `internal/runtime/vllm/prometheus_parser.go`. Reading a number is the
standard library's and is an argument of the parser; numbers are exact rationals unless
another type of numbers is named. A label map is the function of its lookups.
-/

namespace GpuSidecar.Runtime

open Text

abbrev Labels := Chars → Option Chars

/-- One parsed metric line. -/
structure PromSample (α : Type := ℚ) where
  name : Chars
  labels : Labels
  value : α

/-- The variables of the loop over the characters of a label list. -/
structure LabelScan where
  labels : Labels
  key : Chars
  val : Chars
  inVal : Bool
  inQuote : Bool

namespace LabelScan

/-- The state in front of a label. -/
def fresh (labels : Labels) : LabelScan := ⟨labels, [], [], false, false⟩

/-- Stores the label read so far unless its name is blank. -/
def flush (s : LabelScan) : LabelScan :=
  let k := trimSpace s.key
  { s with
    labels := if k = [] then s.labels else Function.update s.labels k (some s.val)
    key := []
    val := []
    inVal := false }

/-- Every quote toggles, whatever stands before it. -/
def next (s : LabelScan) (c : Char) : LabelScan :=
  if c = '"' then { s with inQuote := !s.inQuote }
  else if c = '=' ∧ s.inQuote = false ∧ s.inVal = false then { s with inVal := true }
  else if c = ',' ∧ s.inQuote = false then s.flush
  else if s.inVal then { s with val := s.val ++ [c] }
  else { s with key := s.key ++ [c] }

end LabelScan

def parseLabels (s : Chars) : Labels :=
  (s.foldl LabelScan.next (.fresh fun _ => none)).flush.labels

/-- The labels at the start of the text behind a metric name, and the text behind them. -/
def splitLabels (rest : Chars) : Option (Labels × Chars) :=
  match rest with
  | '{' :: inner =>
    -- the first closing brace ends the labels, whether or not a value is open
    if '}' ∈ inner then
      some (parseLabels (inner.takeWhile (· ≠ '}')),
        trimSpace (inner.dropWhile (· ≠ '}')).tail)
    else none
  | rest => some (fun _ => none, rest)

variable {α : Type}

/-- The value is the first field of what is left; a timestamp behind it is ignored. -/
def readValue (parseFloat : Chars → Option α) (name : Chars) (labels : Labels) (rest : Chars) :
    Option (PromSample α) :=
  match fields rest with
  | [] => none
  | f :: _ => (parseFloat f).map fun v => ⟨name, labels, v⟩

def parseLine (parseFloat : Chars → Option α) (line : Chars) : Option (PromSample α) :=
  let name := trimSpace (line.takeWhile fun c => c ≠ '{' ∧ c ≠ ' ')
  let rest := trimSpace (line.dropWhile fun c => c ≠ '{' ∧ c ≠ ' ')
  if name = [] then none
  else (splitLabels rest).bind fun (labels, rest) => readValue parseFloat name labels rest

/-- One line of the scanner; blank lines and comments are skipped. -/
def parseScanned (parseFloat : Chars → Option α) (raw : Chars) : Option (PromSample α) :=
  let line := trimSpace raw
  if line = [] ∨ line.head? = some '#' then none else parseLine parseFloat line

/-- The size of the scanner's buffer. -/
def maxLine : ℕ := 4 * 1024 * 1024

def parsePrometheus (parseFloat : Chars → Option α) (text : Chars) : List (PromSample α) :=
  (scanLines maxLine text).filterMap (parseScanned parseFloat)

/-- The samples of a text in any order are those of another text. -/
theorem exists_text_of_perm {parseFloat : Chars → Option α} {text : Chars}
    {samples : List (PromSample α)} (h : samples.Perm (parsePrometheus parseFloat text)) :
    ∃ text', parsePrometheus parseFloat text' = samples := by
  rw [parsePrometheus, scanLines, List.filterMap_map] at h
  obtain ⟨ls, hperm, hview, -⟩ := Reorder.exists_perm_filterMap h
  refine ⟨ls.flatMap fun l => l ++ ['\n'], ?_⟩
  rw [parsePrometheus, scanLines_flatMap fun l hl => hperm.mem_iff.mp hl, List.filterMap_map, hview]

/-! ### The label scanner -/

namespace LabelScan

variable {s : LabelScan}

/-- A quoted value is copied up to its closing quote. -/
theorem foldl_next_value {v : Chars} (hv : '"' ∉ v) (hval : s.inVal = true)
    (hquote : s.inQuote = true) : v.foldl next s = { s with val := s.val ++ v } := by
  induction v generalizing s with
  | nil => simp
  | cons c v ih =>
    obtain ⟨hc, hv⟩ := List.ne_and_not_mem_of_not_mem_cons hv
    have hnext : s.next c = { s with val := s.val ++ [c] } := by
      simp [next, Ne.symm hc, hval, hquote]
    rw [List.foldl_cons, hnext, ih (s := { s with val := s.val ++ [c] }) hv hval hquote]
    simp

/-- A name is copied up to the equals sign. -/
theorem foldl_next_key {k : Chars} (hk : ∀ c ∈ k, c ≠ '"' ∧ c ≠ '=' ∧ c ≠ ',')
    (hval : s.inVal = false) : k.foldl next s = { s with key := s.key ++ k } := by
  induction k generalizing s with
  | nil => simp
  | cons c k ih =>
    obtain ⟨⟨hquote, hequals, hcomma⟩, hk⟩ := List.forall_mem_cons.mp hk
    have hnext : s.next c = { s with key := s.key ++ [c] } := by
      simp [next, hquote, hequals, hcomma, hval]
    rw [List.foldl_cons, hnext, ih (s := { s with key := s.key ++ [c] }) hk hval]
    simp

/-- Everything stored or about to be stored was read, and is no quote. -/
structure Read (seen : Chars) (s : LabelScan) : Prop where
  val : ∀ c ∈ s.val, c ∈ seen ∧ c ≠ '"'
  stored : ∀ k v, s.labels k = some v → ∀ c ∈ v, c ∈ seen ∧ c ≠ '"'

theorem Read.flush {seen : Chars} (h : s.Read seen) : s.flush.Read seen where
  val := by simp [LabelScan.flush]
  stored := by
    intro k v hv
    by_cases hkey : trimSpace s.key = []
    · simp only [LabelScan.flush, hkey, if_true] at hv
      exact h.stored k v hv
    · simp only [LabelScan.flush, hkey, if_false, Function.update_apply] at hv
      split at hv
      · cases hv
        exact h.val
      · exact h.stored k v hv

theorem Read.mono {seen seen' : Chars} (h : s.Read seen) (hsub : seen ⊆ seen') : s.Read seen' where
  val c hc := ⟨hsub (h.val c hc).1, (h.val c hc).2⟩
  stored k v hv c hc := ⟨hsub (h.stored k v hv c hc).1, (h.stored k v hv c hc).2⟩

theorem Read.next {seen : Chars} (h : s.Read seen) (c : Char) : (s.next c).Read (seen ++ [c]) := by
  have h' : s.Read (seen ++ [c]) := h.mono (List.subset_append_left _ _)
  unfold LabelScan.next
  split_ifs with hquote _ _ _
  · exact ⟨h'.val, h'.stored⟩
  · exact ⟨h'.val, h'.stored⟩
  · exact h'.flush
  · refine ⟨?_, h'.stored⟩
    intro d hd
    rcases List.mem_append.mp hd with hd | hd
    · exact h'.val d hd
    · rw [List.mem_singleton.mp hd]
      exact ⟨by simp, hquote⟩
  · exact ⟨h'.val, h'.stored⟩

theorem Read.foldl {seen : Chars} (h : s.Read seen) (text : Chars) :
    (text.foldl LabelScan.next s).Read (seen ++ text) := by
  induction text generalizing s seen with
  | nil => simpa using h
  | cons c text ih => simpa using ih (h.next c)

end LabelScan

/-- The characters of a parsed label value come from the text, and none is a quote. -/
theorem parseLabels_mem {text k v : Chars} (h : parseLabels text k = some v) :
    ∀ c ∈ v, c ∈ text ∧ c ≠ '"' := by
  have hstart : (LabelScan.fresh fun _ => none).Read [] := ⟨by simp [LabelScan.fresh], nofun⟩
  exact (hstart.foldl text).flush.stored k v h

theorem labels_of_readValue {parseFloat : Chars → Option α} {name rest : Chars} {labels : Labels}
    {s : PromSample α} (h : readValue parseFloat name labels rest = some s) :
    s.labels = labels := by
  unfold readValue at h
  cases hfields : fields rest with
  | nil => simp [hfields] at h
  | cons f fs =>
    rw [hfields] at h
    obtain ⟨v, -, rfl⟩ := Option.map_eq_some_iff.mp h
    rfl

end GpuSidecar.Runtime
