import GpuSidecar.Models.Runtime.Prometheus
import Mathlib.Data.List.Nodup

/-!
# Reading back the text exposition format

A metrics endpoint renders a sample as its name, its labels with quoted and escaped
values, a decimal and possibly a timestamp. The parser takes the first closing brace for
the end of the labels, toggles at every quote and never unescapes. It therefore reads back
exactly the samples none of whose label values holds a closing brace or one of the
characters that are escaped, and a whole text exactly if all its samples are of that kind
and stand before the first line that does not fit into the scanner's buffer.
-/

namespace GpuSidecar.Runtime

open Text

/-! ### The format -/

def labelStart (c : Char) : Bool := c.isAlpha || c == '_'

def labelChar (c : Char) : Bool := labelStart c || c.isDigit

def nameStart (c : Char) : Bool := labelStart c || c == ':'

def nameChar (c : Char) : Bool := nameStart c || c.isDigit

def decimalChar (c : Char) : Bool := c.isDigit || ['+', '-', '.', 'e', 'E'].contains c

/-- A nonempty text of the given characters. -/
def spelled (start char : Char → Bool) : Chars → Bool
  | [] => false
  | c :: cs => start c && cs.all char

/-- The escape of a character in a label value. -/
def escape (c : Char) : Chars :=
  if c = '\\' then ['\\', '\\']
  else if c = '"' then ['\\', '"']
  else if c = '\n' then ['\\', 'n']
  else [c]

def escaped (value : Chars) : Chars := value.flatMap escape

def renderLabel (label : Chars × Chars) : Chars :=
  label.1 ++ '=' :: '"' :: (escaped label.2 ++ ['"'])

def renderLabels (labels : List (Chars × Chars)) : Chars :=
  [','].intercalate (labels.map renderLabel)

/-- Adds a label to a map. -/
def store (m : Labels) (label : Chars × Chars) : Labels :=
  Function.update m label.1 (some label.2)

/-- A sample as an endpoint exposes it, with a decimal that the parser's library reads back. -/
structure Exposed (parseFloat : Chars → Option ℚ) where
  name : Chars
  labels : List (Chars × Chars)
  decimal : Chars
  timestamp : Option Chars
  value : ℚ
  isName : spelled nameStart nameChar name = true
  isLabel : ∀ label ∈ labels, spelled labelStart labelChar label.1 = true
  distinct : (labels.map Prod.fst).Nodup
  isDecimal : spelled decimalChar decimalChar decimal = true
  isTimestamp : ∀ t ∈ timestamp, spelled decimalChar decimalChar t = true
  reads : parseFloat decimal = some value

namespace Exposed

variable {parseFloat : Chars → Option ℚ} (e : Exposed parseFloat)

/-- The sample that should be read. -/
def sample : PromSample := ⟨e.name, e.labels.foldl store fun _ => none, e.value⟩

def valueText : Chars :=
  e.decimal ++ match e.timestamp with
    | none => []
    | some t => ' ' :: t

/-- What follows the opening brace. -/
def labelText : Chars := renderLabels e.labels ++ '}' :: ' ' :: e.valueText

/-- The line of the sample. -/
def render : Chars :=
  e.name ++ if e.labels = [] then ' ' :: e.valueText else '{' :: e.labelText

/-- No label value holds a closing brace or a character that is escaped. -/
def Plain : Prop := ∀ label ∈ e.labels, ∀ c ∈ label.2, c ∉ ['\\', '"', '\n', '}']

end Exposed

/-- A line of the format. -/
inductive ExpositionLine (parseFloat : Chars → Option ℚ) where
  | sample (e : Exposed parseFloat)
  | comment (indent text : Chars) (hindent : ∀ c ∈ indent, isSpace c = true ∧ c ≠ '\n')
      (htext : '\n' ∉ text)
  | blank (spaces : Chars) (hspaces : ∀ c ∈ spaces, isSpace c = true ∧ c ≠ '\n')

namespace ExpositionLine

variable {parseFloat : Chars → Option ℚ}

def render : ExpositionLine parseFloat → Chars
  | sample e => e.render
  | comment indent text _ _ => indent ++ '#' :: text
  | blank spaces _ => spaces

/-- The sample of a line. -/
def sample? : ExpositionLine parseFloat → Option PromSample
  | sample e => some e.sample
  | _ => none

/-- Whether the line fits into the scanner's buffer. -/
def fits (l : ExpositionLine parseFloat) : Bool := byteLength l.render < maxLine

end ExpositionLine

def renderText {parseFloat : Chars → Option ℚ} (ls : List (ExpositionLine parseFloat)) : Chars :=
  (ls.map ExpositionLine.render).flatMap fun l => l ++ ['\n']

/-! ### Words -/

/-- The characters of names, decimals and timestamps. -/
def wordChar (c : Char) : Bool := c.isAlphanum || ['_', ':', '+', '-', '.'].contains c

/-- A character that neither the scanner nor the parser treats specially. -/
def inert (c : Char) : Bool :=
  !isSpace c && !(['{', '}', '"', '=', ',', '#'].contains c)

theorem toNat_lt_of_wordChar {c : Char} (h : wordChar c = true) : c.toNat < 128 := by
  by_contra hge
  have habove : ∀ d : Char, d.toNat < 128 → ¬ c.val ≤ d.val := by
    intro d hd hle
    exact hge (Nat.lt_of_le_of_lt (UInt32.le_iff_toNat_le.mp hle) hd)
  have hupper : c.isUpper = false := decide_eq_false fun h => habove 'Z' (by decide) h.2
  have hlower : c.isLower = false := by
    change (decide ('a'.val ≤ c.val) && decide (c.val ≤ 'z'.val)) = false
    rw [decide_eq_false (habove 'z' (by decide)), Bool.and_false]
  have hdigit : c.isDigit = false := by
    change (decide ('0'.val ≤ c.val) && decide (c.val ≤ '9'.val)) = false
    rw [decide_eq_false (habove '9' (by decide)), Bool.and_false]
  have halnum : c.isAlphanum = false := by
    change ((c.isUpper || c.isLower) || c.isDigit) = false
    rw [hupper, hlower, hdigit]
    rfl
  have hmem : ['_', ':', '+', '-', '.'].contains c = true := by simpa [wordChar, halnum] using h
  simp only [List.contains_iff_mem, List.mem_cons, List.not_mem_nil, or_false] at hmem
  rcases hmem with rfl | rfl | rfl | rfl | rfl <;> exact hge (by decide)

theorem inert_of_wordChar {c : Char} (h : wordChar c = true) : inert c = true := by
  have hall : ∀ n : Fin 128, wordChar (Char.ofNat n) = true → inert (Char.ofNat n) = true := by
    decide
  have hc := hall ⟨c.toNat, toNat_lt_of_wordChar h⟩
  simp only [Char.ofNat_toNat] at hc
  exact hc h

/-- A nonempty text of inert characters. -/
structure Word (s : Chars) : Prop where
  ne_nil : s ≠ []
  chars : ∀ c ∈ s, inert c = true

theorem word_of_spelled {start char : Char → Bool}
    (hstart : ∀ c, start c = true → wordChar c = true)
    (hchar : ∀ c, char c = true → wordChar c = true) {s : Chars} (h : spelled start char s = true) :
    Word s := by
  cases s with
  | nil => cases h
  | cons c cs =>
    simp only [spelled, Bool.and_eq_true, List.all_eq_true] at h
    refine ⟨List.cons_ne_nil c cs, ?_⟩
    intro d hd
    apply inert_of_wordChar
    rcases List.mem_cons.mp hd with rfl | hd
    · exact hstart d h.1
    · exact hchar d (h.2 d hd)

theorem wordChar_of_labelChar {c : Char} (h : labelChar c = true) : wordChar c = true := by
  simp only [labelChar, labelStart, wordChar, Char.isAlphanum, Bool.or_eq_true, beq_iff_eq] at h ⊢
  rcases h with (h | rfl) | h
  · exact Or.inl (Or.inl h)
  · exact Or.inr rfl
  · exact Or.inl (Or.inr h)

theorem wordChar_of_nameChar {c : Char} (h : nameChar c = true) : wordChar c = true := by
  simp only [nameChar, nameStart, Bool.or_eq_true, beq_iff_eq] at h
  rcases h with (h | rfl) | h
  · exact wordChar_of_labelChar (by simp [labelChar, h])
  · rfl
  · exact wordChar_of_labelChar (by simp [labelChar, h])

theorem wordChar_of_decimalChar {c : Char} (h : decimalChar c = true) : wordChar c = true := by
  simp only [decimalChar, Bool.or_eq_true, List.contains_iff_mem, List.mem_cons, List.not_mem_nil,
    or_false] at h
  rcases h with h | rfl | rfl | rfl | rfl | rfl
  · exact wordChar_of_labelChar (by simp [labelChar, h])
  all_goals rfl

namespace Word

variable {s : Chars}

theorem ne_of_mem (h : Word s) {c d : Char} (hc : c ∈ s) (hd : inert d = false) : c ≠ d := by
  rintro rfl
  rw [h.chars c hc] at hd
  cases hd

theorem space (h : Word s) {c : Char} (hc : c ∈ s) : isSpace c = false := by
  have hinert := h.chars c hc
  simp only [inert, Bool.and_eq_true, Bool.not_eq_true'] at hinert
  exact hinert.1

theorem trimmed (h : Word s) : Trimmed s := trimmed_of_forall fun _ hc => h.space hc

end Word

/-! ### Escapes -/

theorem escape_of_ne {c : Char} (h : c ∉ ['\\', '"', '\n']) : escape c = [c] := by
  simp only [List.mem_cons, List.not_mem_nil, or_false, not_or] at h
  simp [escape, h]

theorem escaped_of_plain {v : Chars} (h : ∀ c ∈ v, c ∉ ['\\', '"', '\n']) : escaped v = v := by
  induction v with
  | nil => rfl
  | cons c v ih =>
    obtain ⟨hc, hv⟩ := List.forall_mem_cons.mp h
    rw [escaped, List.flatMap_cons, escape_of_ne hc]
    exact congrArg (c :: ·) (ih hv)

/-- A character of an escaped value is one of the value's own or belongs to an escape. -/
theorem mem_escaped {v : Chars} {c : Char} (h : c ∈ escaped v) :
    c ∈ v ∧ c ≠ '\n' ∨ c = '\\' ∨ c = 'n' := by
  obtain ⟨d, hd, hc⟩ := List.mem_flatMap.mp h
  unfold escape at hc
  split_ifs at hc with hslash hquote hline
  · simp_all
  · simp only [List.mem_cons, List.not_mem_nil, or_false] at hc
    rcases hc with rfl | rfl
    · simp
    · exact Or.inl ⟨hquote ▸ hd, by decide⟩
  · simp_all
  · rw [List.mem_singleton] at hc
    subst hc
    exact Or.inl ⟨hd, hline⟩

theorem length_le_escaped (v : Chars) : v.length ≤ (escaped v).length := by
  induction v with
  | nil => rfl
  | cons c v ih =>
    have hc : 1 ≤ (escape c).length := by
      unfold escape
      split_ifs <;> simp
    rw [escaped, List.flatMap_cons, List.length_append, List.length_cons]
    exact Nat.add_comm 1 v.length ▸ Nat.add_le_add hc ih

/-- A backslash is doubled. -/
theorem not_mem_of_escaped_eq {v : Chars} (h : escaped v = v) : '\\' ∉ v := by
  intro hmem
  obtain ⟨a, b, rfl⟩ := List.append_of_mem hmem
  have hlength := congrArg List.length h
  have ha := length_le_escaped a
  have hb := length_le_escaped b
  simp only [escaped, List.flatMap_append, List.flatMap_cons, List.length_append] at hlength ha hb
  have hslash : (escape '\\').length = 2 := rfl
  simp only [List.length_cons, hslash] at hlength
  omega

/-! ### Label maps -/

theorem foldl_store_of_not_mem {labels : List (Chars × Chars)} {k : Chars}
    (h : k ∉ labels.map Prod.fst) (m : Labels) : labels.foldl store m k = m k := by
  induction labels generalizing m with
  | nil => rfl
  | cons label labels ih =>
    rw [List.map_cons] at h
    obtain ⟨hne, hrest⟩ := List.ne_and_not_mem_of_not_mem_cons h
    rw [List.foldl_cons, ih hrest, store, Function.update_of_ne hne]

/-- A map of distinct labels holds each of them. -/
theorem foldl_store_of_mem {labels : List (Chars × Chars)} (hnodup : (labels.map Prod.fst).Nodup)
    {k v : Chars} (h : (k, v) ∈ labels) (m : Labels) : labels.foldl store m k = some v := by
  induction labels generalizing m with
  | nil => cases h
  | cons label labels ih =>
    rw [List.map_cons, List.nodup_cons] at hnodup
    rw [List.foldl_cons]
    rcases List.mem_cons.mp h with rfl | h
    · rw [foldl_store_of_not_mem hnodup.1, store, Function.update_self]
    · exact ih hnodup.2 h _

/-- The scanner in front of the comma or the end that follows a label. -/
theorem foldl_next_renderLabel {k v : Chars} (hk : Word k) (hv : '"' ∉ v) (m : Labels) :
    (renderLabel (k, v)).foldl LabelScan.next (.fresh m) = ⟨m, k, escaped v, true, false⟩ := by
  have hkey : ∀ c ∈ k, c ≠ '"' ∧ c ≠ '=' ∧ c ≠ ',' := fun c hc =>
    ⟨hk.ne_of_mem hc (by decide), hk.ne_of_mem hc (by decide), hk.ne_of_mem hc (by decide)⟩
  have hvalue : '"' ∉ escaped v := by
    intro hmem
    rcases mem_escaped hmem with h | h | h
    · exact hv h.1
    · cases h
    · cases h
  have hopen : LabelScan.next (LabelScan.next { LabelScan.fresh m with key := k } '=') '"' =
      ⟨m, k, [], true, true⟩ := by
    simp [LabelScan.next, LabelScan.fresh]
  rw [renderLabel, List.foldl_append, LabelScan.foldl_next_key hkey rfl, List.foldl_cons,
    List.foldl_cons, List.foldl_append]
  change List.foldl _ ((escaped v).foldl _ (LabelScan.next (LabelScan.next
    { LabelScan.fresh m with key := k } '=') '"')) _ = _
  rw [hopen, LabelScan.foldl_next_value hvalue rfl rfl]
  simp [LabelScan.next]

theorem flush_label {k : Chars} (hk : Word k) (m : Labels) (v : Chars) :
    LabelScan.flush ⟨m, k, v, true, false⟩ = .fresh (store m (k, v)) := by
  simp [LabelScan.flush, LabelScan.fresh, store, hk.trimmed.trimSpace_eq, hk.ne_nil]

/-- If no value holds a quote, the scanner reads the values as they were escaped. -/
theorem parseLabels_renderLabels {labels : List (Chars × Chars)} (hne : labels ≠ [])
    (hk : ∀ label ∈ labels, Word label.1) (hv : ∀ label ∈ labels, '"' ∉ label.2) :
    parseLabels (renderLabels labels) =
      (labels.map fun label => (label.1, escaped label.2)).foldl store fun _ => none := by
  unfold parseLabels
  generalize (fun _ => none : Labels) = m
  induction labels generalizing m with
  | nil => exact absurd rfl hne
  | cons label labels ih =>
    obtain ⟨hkey, hk⟩ := List.forall_mem_cons.mp hk
    obtain ⟨hvalue, hv⟩ := List.forall_mem_cons.mp hv
    cases labels with
    | nil =>
      rw [renderLabels, List.map_singleton, List.intercalate_singleton,
        foldl_next_renderLabel hkey hvalue, flush_label hkey]
      rfl
    | cons label' labels =>
      have hcomma : LabelScan.next ⟨m, label.1, escaped label.2, true, false⟩ ',' =
          .fresh (store m (label.1, escaped label.2)) := by
        rw [← flush_label hkey]
        simp [LabelScan.next]
      have hrender : renderLabels (label :: label' :: labels) =
          renderLabel label ++ ',' :: renderLabels (label' :: labels) := by
        simp [renderLabels, List.intercalate_cons_cons]
      rw [hrender, List.foldl_append, foldl_next_renderLabel hkey hvalue, List.foldl_cons, hcomma,
        ih (List.cons_ne_nil _ _) hk hv]
      rfl

theorem mem_renderLabels {labels : List (Chars × Chars)} {c : Char}
    (h : c ∈ renderLabels labels) :
    c ∈ ['=', '"', ','] ∨ ∃ label ∈ labels, c ∈ label.1 ∨ c ∈ escaped label.2 := by
  have hlabel : ∀ label : Chars × Chars, c ∈ renderLabel label →
      c ∈ ['=', '"', ','] ∨ c ∈ label.1 ∨ c ∈ escaped label.2 := by
    intro label hc
    simp only [renderLabel, List.mem_append, List.mem_cons, List.not_mem_nil, or_false] at hc ⊢
    tauto
  induction labels with
  | nil => simp [renderLabels] at h
  | cons label labels ih =>
    cases labels with
    | nil =>
      rw [renderLabels, List.map_singleton, List.intercalate_singleton] at h
      exact (hlabel label h).imp_right fun h => ⟨label, List.mem_singleton_self label, h⟩
    | cons label' labels =>
      have hrender : renderLabels (label :: label' :: labels) =
          renderLabel label ++ ',' :: renderLabels (label' :: labels) := by
        simp [renderLabels, List.intercalate_cons_cons]
      rw [hrender, List.mem_append, List.mem_cons] at h
      rcases h with h | rfl | h
      · exact (hlabel label h).imp_right fun h => ⟨label, List.mem_cons_self, h⟩
      · exact Or.inl (by simp)
      · exact (ih h).imp_right fun ⟨l, hl, hc⟩ => ⟨l, List.mem_cons_of_mem _ hl, hc⟩

/-! ### One line -/

theorem splitLabels_of_head {c : Char} (hc : c ≠ '{') (cs : Chars) :
    splitLabels (c :: cs) = some (fun _ => none, c :: cs) := by
  unfold splitLabels
  split
  · rename_i heq
    cases heq
    exact absurd rfl hc
  · rfl

namespace Exposed

variable {parseFloat : Chars → Option ℚ} (e : Exposed parseFloat)

theorem word_name : Word e.name :=
  word_of_spelled (fun c hc => wordChar_of_nameChar (by simp [nameChar, hc]))
    (fun _ => wordChar_of_nameChar) e.isName

theorem word_label {label : Chars × Chars} (h : label ∈ e.labels) : Word label.1 :=
  word_of_spelled (fun c hc => wordChar_of_labelChar (by simp [labelChar, hc]))
    (fun _ => wordChar_of_labelChar) (e.isLabel label h)

theorem word_decimal : Word e.decimal :=
  word_of_spelled (fun _ => wordChar_of_decimalChar) (fun _ => wordChar_of_decimalChar) e.isDecimal

theorem word_timestamp {t : Chars} (h : e.timestamp = some t) : Word t :=
  word_of_spelled (fun _ => wordChar_of_decimalChar) (fun _ => wordChar_of_decimalChar)
    (e.isTimestamp t h)

theorem valueText_ne_nil : e.valueText ≠ [] := by simp [valueText, e.word_decimal.ne_nil]

theorem trimmed_valueText : Trimmed e.valueText := by
  unfold valueText
  cases ht : e.timestamp with
  | none => simpa using e.word_decimal.trimmed
  | some t =>
    have ht' := e.word_timestamp ht
    exact e.word_decimal.trimmed.around ht'.trimmed e.word_decimal.ne_nil ht'.ne_nil [' ']

/-- The decimal is the first field. -/
theorem fields_valueText : ∃ more, fields e.valueText = e.decimal :: more := by
  have hdecimal := e.word_decimal
  unfold valueText
  cases e.timestamp with
  | none =>
    exact ⟨[], by simpa using fields_of_forall hdecimal.ne_nil fun _ hc => hdecimal.space hc⟩
  | some t => exact ⟨_, fields_append_space hdecimal.ne_nil (fun _ hc => hdecimal.space hc) t⟩

/-- The text behind a blank is the value. -/
theorem trimSpace_valueText : trimSpace (' ' :: e.valueText) = e.valueText := by
  have hspace : ∀ c ∈ [' '], isSpace c = true := List.forall_mem_singleton.mpr (by decide)
  have htrim := trimSpace_append (t := e.valueText) hspace
  exact htrim.trans e.trimmed_valueText.trimSpace_eq

theorem trimmed_labelText : Trimmed ('{' :: e.labelText) := by
  have hbrace : Trimmed ['{'] := trimmed_of_forall (List.forall_mem_singleton.mpr (by decide))
  have h := hbrace.around e.trimmed_valueText (List.cons_ne_nil _ _) e.valueText_ne_nil
    (renderLabels e.labels ++ ['}', ' '])
  simpa [labelText] using h

/-- The name is cut off, and the rest is read on its own. -/
theorem parseLine_render :
    parseLine parseFloat e.render =
      (splitLabels (if e.labels = [] then e.valueText else '{' :: e.labelText)).bind
        fun (labels, rest) => readValue parseFloat e.name labels rest := by
  have hname : ∀ c ∈ e.name, decide (c ≠ '{' ∧ c ≠ ' ') = true := by
    intro c hc
    simp only [decide_eq_true_eq]
    exact ⟨e.word_name.ne_of_mem hc (by decide), e.word_name.ne_of_mem hc (by decide)⟩
  unfold parseLine render
  rw [List.takeWhile_append_of_pos hname, List.dropWhile_append_of_pos hname]
  by_cases hlabels : e.labels = []
  · simp [hlabels, e.word_name.trimmed.trimSpace_eq, e.word_name.ne_nil, e.trimSpace_valueText]
  · simp [hlabels, e.word_name.trimmed.trimSpace_eq, e.word_name.ne_nil,
      e.trimmed_labelText.trimSpace_eq]

theorem readValue_valueText (labels : Labels) :
    readValue parseFloat e.name labels e.valueText = some ⟨e.name, labels, e.value⟩ := by
  obtain ⟨more, hmore⟩ := e.fields_valueText
  simp [readValue, hmore, e.reads]

/-- A sample without labels is read back. -/
theorem parseLine_unlabelled (hlabels : e.labels = []) :
    parseLine parseFloat e.render = some e.sample := by
  obtain ⟨c, cs, hvalue⟩ := List.exists_cons_of_ne_nil e.valueText_ne_nil
  have hc : c ≠ '{' := by
    have hhead : c ∈ e.decimal := by
      obtain ⟨d, ds, hdecimal⟩ := List.exists_cons_of_ne_nil e.word_decimal.ne_nil
      rw [valueText, hdecimal, List.cons_append, List.cons_eq_cons] at hvalue
      rw [← hvalue.1, hdecimal]
      exact List.mem_cons_self
    exact e.word_decimal.ne_of_mem hhead (by decide)
  rw [parseLine_render, if_pos hlabels, hvalue, splitLabels_of_head hc, ← hvalue]
  exact (e.readValue_valueText _).trans (by rw [sample, hlabels]; rfl)

/-- The labels are read up to the first closing brace. -/
theorem labels_of_parseLine (hlabels : e.labels ≠ []) {s : PromSample}
    (h : parseLine parseFloat e.render = some s) :
    s.labels = parseLabels (e.labelText.takeWhile (· ≠ '}')) := by
  have hbrace : '}' ∈ e.labelText := by simp [labelText]
  rw [parseLine_render, if_neg hlabels, splitLabels, if_pos hbrace, Option.bind_some] at h
  exact labels_of_readValue h

/-- If no value holds a closing brace or a quote, the values are read as they were escaped. -/
theorem parseLine_labelled (hlabels : e.labels ≠ [])
    (hvalues : ∀ label ∈ e.labels, '}' ∉ label.2 ∧ '"' ∉ label.2) :
    parseLine parseFloat e.render = some ⟨e.name,
      (e.labels.map fun label => (label.1, escaped label.2)).foldl store fun _ => none,
      e.value⟩ := by
  have hbrace : '}' ∉ renderLabels e.labels := by
    intro hmem
    rcases mem_renderLabels hmem with h | ⟨label, hlabel, h | h⟩
    · simp at h
    · exact (e.word_label hlabel).ne_of_mem h (by decide) rfl
    · rcases mem_escaped h with h | h | h
      · exact (hvalues label hlabel).1 h.1
      · cases h
      · cases h
  have hkeep : ∀ c ∈ renderLabels e.labels, decide (c ≠ '}') = true := by
    intro c hc
    simpa using ne_of_mem_of_not_mem hc hbrace
  have hcut : e.labelText.takeWhile (· ≠ '}') = renderLabels e.labels := by
    rw [labelText, List.takeWhile_append_of_pos hkeep]
    simp
  have hrest : (e.labelText.dropWhile (· ≠ '}')).tail = ' ' :: e.valueText := by
    rw [labelText, List.dropWhile_append_of_pos hkeep]
    simp
  have hmem : '}' ∈ e.labelText := by simp [labelText]
  rw [parseLine_render, if_neg hlabels, splitLabels, if_pos hmem, hcut, hrest,
    e.trimSpace_valueText, parseLabels_renderLabels hlabels (fun _ h => e.word_label h)
      fun label h => (hvalues label h).2]
  exact e.readValue_valueText _

/-- No line holds a newline. -/
theorem newline_not_mem_render : '\n' ∉ e.render := by
  have hvalue : '\n' ∉ e.valueText := by
    unfold valueText
    intro h
    cases ht : e.timestamp with
    | none =>
      simp only [ht, List.append_nil] at h
      exact e.word_decimal.ne_of_mem h (by decide) rfl
    | some t =>
      simp only [ht, List.mem_append, List.mem_cons] at h
      rcases h with h | h | h
      · exact e.word_decimal.ne_of_mem h (by decide) rfl
      · cases h
      · exact (e.word_timestamp ht).ne_of_mem h (by decide) rfl
  have hlabels : '\n' ∉ renderLabels e.labels := by
    intro h
    rcases mem_renderLabels h with h | ⟨label, hlabel, h | h⟩
    · simp at h
    · exact (e.word_label hlabel).ne_of_mem h (by decide) rfl
    · rcases mem_escaped h with h | h | h
      · exact h.2 rfl
      · cases h
      · cases h
  have hname : '\n' ∉ e.name := fun h => e.word_name.ne_of_mem h (by decide) rfl
  unfold render labelText
  split_ifs <;> simp [hname, hvalue, hlabels]

/-- A line is read back exactly if its sample is plain. -/
theorem parseLine_iff : parseLine parseFloat e.render = some e.sample ↔ e.Plain := by
  by_cases hlabels : e.labels = []
  · refine iff_of_true (e.parseLine_unlabelled hlabels) ?_
    intro label hlabel
    rw [hlabels] at hlabel
    cases hlabel
  constructor
  · intro h label hlabel
    have hread : ∀ l ∈ e.labels,
        parseLabels (e.labelText.takeWhile (· ≠ '}')) l.1 = some l.2 := by
      intro l hl
      rw [← e.labels_of_parseLine hlabels h]
      exact foldl_store_of_mem e.distinct hl _
    -- what was read came from before the first closing brace of one line, quotes apart
    have hvalues : ∀ l ∈ e.labels, ∀ c ∈ l.2, c ≠ '}' ∧ c ≠ '"' ∧ c ≠ '\n' := by
      intro l hl c hc
      obtain ⟨hmem, hquote⟩ := parseLabels_mem (hread l hl) c hc
      refine ⟨by simpa using List.mem_takeWhile_imp hmem, hquote, ?_⟩
      rintro rfl
      apply e.newline_not_mem_render
      have hmem' := (List.takeWhile_sublist _).mem hmem
      simp [render, hlabels, hmem']
    have hparse := e.parseLine_labelled hlabels fun l hl =>
      ⟨fun hc => (hvalues l hl _ hc).1 rfl, fun hc => (hvalues l hl _ hc).2.1 rfl⟩
    rw [h, Option.some_inj, sample, PromSample.mk.injEq] at hparse
    have hescaped : escaped label.2 = label.2 := by
      have hdistinct : ((e.labels.map fun l => (l.1, escaped l.2)).map Prod.fst).Nodup := by
        simpa [Function.comp_def] using e.distinct
      have hmem : (label.1, escaped label.2) ∈ e.labels.map fun l => (l.1, escaped l.2) :=
        List.mem_map.mpr ⟨label, hlabel, rfl⟩
      have hmap := congrFun hparse.2.1 label.1
      rw [foldl_store_of_mem e.distinct hlabel, foldl_store_of_mem hdistinct hmem] at hmap
      exact (Option.some_inj.mp hmap).symm
    intro c hc hmem
    simp only [List.mem_cons, List.not_mem_nil, or_false] at hmem
    obtain ⟨hbrace, hquote, hline⟩ := hvalues label hlabel c hc
    rcases hmem with rfl | rfl | rfl | rfl
    · exact not_mem_of_escaped_eq hescaped hc
    · exact hquote rfl
    · exact hline rfl
    · exact hbrace rfl
  · intro h
    have hvalues : ∀ l ∈ e.labels, '}' ∉ l.2 ∧ '"' ∉ l.2 := fun l hl =>
      ⟨fun hc => h l hl _ hc (by simp), fun hc => h l hl _ hc (by simp)⟩
    have hescaped : (e.labels.map fun label => (label.1, escaped label.2)) = e.labels := by
      refine (List.map_congr_left fun l hl => ?_).trans (List.map_id e.labels)
      have hplain : ∀ c ∈ l.2, c ∉ ['\\', '"', '\n'] := by
        intro c hc hmem
        refine h l hl c hc ?_
        simp only [List.mem_cons, List.not_mem_nil, or_false] at hmem ⊢
        tauto
      rw [escaped_of_plain hplain]
      rfl
    rw [e.parseLine_labelled hlabels hvalues, hescaped]
    rfl

theorem trimmed_render : Trimmed e.render := by
  have h := e.word_name.trimmed.around e.trimmed_valueText e.word_name.ne_nil e.valueText_ne_nil
  unfold render labelText
  split_ifs
  · exact h [' ']
  · have h' := h ('{' :: (renderLabels e.labels ++ ['}', ' ']))
    simpa using h'

end Exposed

/-! ### Whole texts -/

namespace ExpositionLine

variable {parseFloat : Chars → Option ℚ}

theorem newline_not_mem_render (l : ExpositionLine parseFloat) : '\n' ∉ l.render := by
  cases l with
  | sample e => exact e.newline_not_mem_render
  | comment indent text hindent htext =>
    intro h
    simp only [render, List.mem_append, List.mem_cons] at h
    rcases h with h | h | h
    · exact (hindent _ h).2 rfl
    · cases h
    · exact htext h
  | blank spaces hspaces => exact fun h => (hspaces _ h).2 rfl

/-- What the parser reads from a line. -/
def read (l : ExpositionLine parseFloat) : Option PromSample :=
  parseScanned parseFloat (dropCR l.render)

theorem read_sample (e : Exposed parseFloat) :
    (sample e).read = parseLine parseFloat e.render := by
  have hname : e.render.head? ≠ some '#' := by
    obtain ⟨c, cs, hname⟩ := List.exists_cons_of_ne_nil e.word_name.ne_nil
    have hc : c ≠ '#' := e.word_name.ne_of_mem (hname ▸ List.mem_cons_self) (by decide)
    simpa [Exposed.render, hname] using hc
  have hne : e.render ≠ [] := by simp [Exposed.render, e.word_name.ne_nil]
  unfold read parseScanned
  rw [render, e.trimmed_render.dropCR_eq, e.trimmed_render.trimSpace_eq,
    if_neg (by simp [hname, hne])]

/-- Comments and blank lines give nothing. -/
theorem read_of_sample?_eq_none {l : ExpositionLine parseFloat} (h : l.sample? = none) :
    l.read = none := by
  unfold read parseScanned
  cases l with
  | sample e => cases h
  | comment indent text hindent htext =>
    obtain ⟨text', htext'⟩ := dropCR_append (c := '#') (by decide) indent text
    rw [render, htext', trimSpace_append fun c hc => (hindent c hc).1]
    exact if_pos (Or.inr (head?_trimSpace (by decide) text'))
  | blank spaces hspaces =>
    refine if_pos (Or.inl (trimSpace_eq_nil_iff.mpr ?_))
    exact fun c hc => (hspaces c (mem_of_mem_dropCR hc)).1

/-- The scanner hands on the lines in front of the first one that does not fit. -/
theorem parsePrometheus_renderText (ls : List (ExpositionLine parseFloat)) :
    parsePrometheus parseFloat (renderText ls) = (ls.takeWhile fits).filterMap read := by
  have hlines : Text.lines (renderText ls) = ls.map render := by
    apply lines_flatMap
    intro r hr
    obtain ⟨l, -, rfl⟩ := List.mem_map.mp hr
    exact l.newline_not_mem_render
  rw [parsePrometheus, scanLines, hlines, List.takeWhile_map, List.map_map, List.filterMap_map]
  rfl

end ExpositionLine

open ExpositionLine in
/-- A line is read back exactly if no label value of its sample holds a closing brace or an
escaped character, and a text exactly if that holds for all its samples and none stands at
or behind a line that does not fit into the buffer. -/
theorem exposition_roundTrip_iff (parseFloat : Chars → Option ℚ) :
    (∀ e : Exposed parseFloat, parseLine parseFloat e.render = some e.sample ↔ e.Plain) ∧
      ∀ ls : List (ExpositionLine parseFloat),
        parsePrometheus parseFloat (renderText ls) = ls.filterMap sample? ↔
          (∀ e, sample e ∈ ls → e.Plain) ∧ ∀ l ∈ ls.dropWhile fits, l.sample? = none := by
  refine ⟨fun e => e.parseLine_iff, fun ls => ?_⟩
  have hread : ∀ l ∈ ls.takeWhile fits, l.sample? = none → l.read = none :=
    fun l _ => read_of_sample?_eq_none
  have hsplit : ls.filterMap sample? =
      (ls.takeWhile fits).filterMap sample? ++ (ls.dropWhile fits).filterMap sample? := by
    rw [← List.filterMap_append, List.takeWhile_append_dropWhile]
  rw [parsePrometheus_renderText, hsplit, filterMap_eq_append_iff hread,
    List.filterMap_eq_nil_iff, and_comm]
  refine and_congr_left fun hdropped => ?_
  constructor
  · intro h e he
    rw [← List.takeWhile_append_dropWhile (p := fits) (l := ls), List.mem_append] at he
    rcases he with he | he
    · exact e.parseLine_iff.mp ((read_sample e).symm.trans (h _ he))
    · cases hdropped _ he
  · intro h l hl
    cases l with
    | sample e =>
      have he : sample e ∈ ls := (List.takeWhile_sublist fits).mem hl
      exact (read_sample e).trans (e.parseLine_iff.mpr (h e he))
    | comment => exact read_of_sample?_eq_none rfl
    | blank => exact read_of_sample?_eq_none rfl

/-- A library that reads the decimal `1`. -/
def readsOne (s : Chars) : Option ℚ := if s = ['1'] then some 1 else none

/-- A running request of a model whose name holds a closing brace. -/
def bracedModel : Exposed readsOne where
  name := ['r']
  labels := [(['m'], ['a', '}'])]
  decimal := ['1']
  timestamp := none
  value := 1
  isName := by decide
  isLabel := by decide
  distinct := by decide
  isDecimal := by decide
  isTimestamp := by decide
  reads := rfl

/-- The line is dropped, alone and in a text. -/
theorem bracedModel_dropped :
    parseLine readsOne bracedModel.render ≠ some bracedModel.sample ∧
      parsePrometheus readsOne (renderText [.sample bracedModel]) ≠ [bracedModel.sample] := by
  have hline : parseLine readsOne bracedModel.render = none := by decide
  refine ⟨by simp [hline], ?_⟩
  have htext : parsePrometheus readsOne (renderText [.sample bracedModel]) = [] := by decide
  simp [htext]

end GpuSidecar.Runtime
