import Mathlib.Algebra.GroupWithZero.Nat
import Mathlib.Data.List.DropRight
import Mathlib.Data.List.TakeWhile

/-!
# Scanning text

A text is the list of characters that its UTF-8 encoding decodes to. White space is that
of Unicode; trimming and splitting at it, and reading a text line by line with a bound on
the size of a line, are those of Go's `strings` and `bufio` packages.
-/

namespace GpuSidecar.Text

abbrev Chars := List Char

/-- White space (`unicode.IsSpace`). -/
def isSpace (c : Char) : Bool :=
  [0x9, 0xA, 0xB, 0xC, 0xD, 0x20, 0x85, 0xA0, 0x1680, 0x2028, 0x2029, 0x202F, 0x205F,
    0x3000].contains c.toNat || decide (0x2000 ≤ c.toNat ∧ c.toNat ≤ 0x200A)

def trimSpace (s : Chars) : Chars := (s.dropWhile isSpace).rdropWhile isSpace

/-- The maximal runs without white space. -/
def fields (s : Chars) : List Chars := (s.splitOnP isSpace).filter fun f => !f.isEmpty

/-- The size of the UTF-8 encoding. -/
def byteLength (s : Chars) : ℕ := (s.map Char.utf8Size).sum

/-- A line without its carriage return. -/
def dropCR (s : Chars) : Chars := if s.getLast? = some '\r' then s.dropLast else s

/-- The lines of a text; the text after the last newline is a line unless it is empty. -/
def lines (s : Chars) : List Chars :=
  let pieces := s.splitOn '\n'
  if pieces.getLast? = some [] then pieces.dropLast else pieces

/-- The lines that a scanner returns whose buffer holds a given number of bytes: it stops for
good at a line that fills the buffer. -/
def scanLines (limit : ℕ) (s : Chars) : List Chars :=
  ((lines s).takeWhile fun line => byteLength line < limit).map dropCR

/-! ### Trimming and splitting -/

theorem trimSpace_eq_nil_iff {s : Chars} : trimSpace s = [] ↔ ∀ c ∈ s, isSpace c = true := by
  rw [trimSpace, List.rdropWhile_eq_nil_iff]
  constructor
  · intro h
    rw [← List.takeWhile_append_dropWhile (p := isSpace) (l := s)]
    intro c hc
    rcases List.mem_append.mp hc with hc | hc
    · exact List.mem_takeWhile_imp hc
    · exact h c hc
  · intro h c hc
    exact h c ((List.dropWhile_sublist isSpace).mem hc)

/-- A text without white space at either end. -/
structure Trimmed (s : Chars) : Prop where
  head : ∀ c ∈ s.head?, isSpace c = false
  last : ∀ c ∈ s.getLast?, isSpace c = false

theorem Trimmed.trimSpace_eq {s : Chars} (h : Trimmed s) : trimSpace s = s := by
  have hhead : s.dropWhile isSpace = s := by
    cases s with
    | nil => rfl
    | cons c cs => rw [List.dropWhile_cons_of_neg (by simp [h.head c rfl])]
  rw [trimSpace, hhead, List.rdropWhile_eq_self_iff]
  intro hs
  simp [h.last _ (List.getLast?_eq_some_getLast hs)]

theorem trimmed_of_forall {s : Chars} (h : ∀ c ∈ s, isSpace c = false) : Trimmed s :=
  ⟨fun c hc => h c (List.mem_of_mem_head? hc), fun c hc => h c (List.mem_of_mem_getLast? hc)⟩

/-- Only the ends of a text decide whether it is trimmed. -/
theorem Trimmed.around {a b : Chars} (ha : Trimmed a) (hb : Trimmed b) (hane : a ≠ [])
    (hbne : b ≠ []) (m : Chars) : Trimmed (a ++ (m ++ b)) where
  head := by
    rw [List.head?_append_of_ne_nil _ hane]
    exact ha.head
  last := by
    rw [← List.append_assoc, List.getLast?_append_of_ne_nil _ hbne]
    exact hb.last

/-- Leading white space does not matter. -/
theorem trimSpace_append {s t : Chars} (hs : ∀ c ∈ s, isSpace c = true) :
    trimSpace (s ++ t) = trimSpace t := by
  rw [trimSpace, trimSpace, List.dropWhile_append_of_pos hs]

/-- A visible first character stays. -/
theorem head?_trimSpace {c : Char} (hc : isSpace c = false) (s : Chars) :
    (trimSpace (c :: s)).head? = some c := by
  rw [trimSpace, List.dropWhile_cons_of_neg (by simp [hc])]
  have hne : (c :: s).rdropWhile isSpace ≠ [] := by
    rw [Ne, List.rdropWhile_eq_nil_iff]
    intro h
    rw [h c List.mem_cons_self] at hc
    cases hc
  obtain ⟨d, ds, hd⟩ := List.exists_cons_of_ne_nil hne
  have hprefix := List.rdropWhile_prefix isSpace (l := c :: s)
  rw [hd, List.cons_prefix_cons] at hprefix
  rw [hd, hprefix.1, List.head?_cons]

/-- A text without white space is its only field. -/
theorem fields_of_forall {s : Chars} (hs : s ≠ []) (h : ∀ c ∈ s, isSpace c = false) :
    fields s = [s] := by
  rw [fields, List.splitOnP_eq_singleton h]
  simp [hs]

/-- White space keeps the fields before and behind it apart. -/
theorem fields_append_cons {c : Char} (hc : isSpace c = true) (s t : Chars) :
    fields (s ++ c :: t) = fields s ++ fields t := by
  rw [fields, List.splitOnP_append_cons _ _ hc, List.filter_append]
  rfl

theorem fields_spaces_append {s : Chars} (hs : ∀ c ∈ s, isSpace c = true) (t : Chars) :
    fields (s ++ t) = fields t := by
  induction s with
  | nil => rfl
  | cons c s ih =>
    obtain ⟨hc, hs⟩ := List.forall_mem_cons.mp hs
    exact (fields_append_cons hc [] (s ++ t)).trans (ih hs)

theorem fields_append_spaces {t : Chars} (ht : ∀ c ∈ t, isSpace c = true) (s : Chars) :
    fields (s ++ t) = fields s := by
  cases t with
  | nil => rw [List.append_nil]
  | cons c t =>
    obtain ⟨hc, ht⟩ := List.forall_mem_cons.mp ht
    have hnil := fields_spaces_append ht []
    rw [List.append_nil] at hnil
    rw [fields_append_cons hc, hnil]
    exact List.append_nil _

/-- Trimming does not change the fields. -/
theorem fields_trimSpace (s : Chars) : fields (trimSpace s) = fields s := by
  have hhead : fields (s.dropWhile isSpace) = fields s := by
    rw [← fields_spaces_append (fun c => List.mem_takeWhile_imp) (s.dropWhile isSpace),
      List.takeWhile_append_dropWhile]
  rw [trimSpace, ← hhead, ← fields_append_spaces (fun c => List.mem_rtakeWhile_imp)
    ((s.dropWhile isSpace).rdropWhile isSpace), List.rdropWhile_append_rtakeWhile]

/-- The first field ends at the first space. -/
theorem fields_append_space {s : Chars} (hs : s ≠ []) (h : ∀ c ∈ s, isSpace c = false)
    (t : Chars) : fields (s ++ ' ' :: t) = s :: fields t := by
  rw [fields_append_cons (by decide), fields_of_forall hs h, List.singleton_append]

/-! ### Searching for a word -/

/-- A character that a word does not contain keeps its occurrences apart. -/
theorem infix_append_cons_iff {α : Type*} {w : List α} {c : α} (hw : w ≠ []) (hc : c ∉ w)
    (s t : List α) : w <:+: s ++ c :: t ↔ w <:+: s ∨ w <:+: t := by
  constructor
  · intro h
    induction s with
    | nil =>
      rcases List.infix_cons_iff.mp h with h | h
      · obtain ⟨a, w, rfl⟩ := List.exists_cons_of_ne_nil hw
        rw [(List.cons_prefix_cons.mp h).1] at hc
        exact absurd List.mem_cons_self hc
      · exact Or.inr h
    | cons a s ih =>
      rcases List.infix_cons_iff.mp h with h | h
      · -- a prefix of the whole that ends behind the character would contain it
        left
        have hsep : (a :: s) ++ [c] <+: a :: (s ++ c :: t) := ⟨t, by simp⟩
        rcases List.prefix_or_prefix_of_prefix h hsep with h | h
        · rcases List.prefix_concat_iff.mp h with rfl | h
          · exact absurd (by simp) hc
          · exact h.isInfix
        · exact absurd (h.subset (by simp)) hc
      · exact (ih h).imp_left fun hs => hs.trans (List.suffix_cons a s).isInfix
  · rintro (h | h)
    · exact h.trans (List.prefix_append s (c :: t)).isInfix
    · exact h.trans ((List.suffix_cons c t).trans (List.suffix_append s (c :: t))).isInfix

/-- A word without white space occurs in a text if and only if it occurs in one of its
fields. -/
theorem infix_iff_exists_fields {w : Chars} (hw : w ≠ []) (hspace : ∀ c ∈ w, isSpace c = false)
    (s : Chars) : w <:+: s ↔ ∃ f ∈ fields s, w <:+: f := by
  have hword : ∀ {s : Chars}, (∀ c ∈ s, isSpace c = false) →
      (w <:+: s ↔ ∃ f ∈ fields s, w <:+: f) := by
    intro s hs
    by_cases hnil : s = []
    · subst hnil
      simp [fields, hw]
    · simp [fields_of_forall hnil hs]
  -- the characters up to the next white space are kept in front
  suffices h : ∀ (t s : Chars), (∀ c ∈ s, isSpace c = false) →
      (w <:+: s ++ t ↔ ∃ f ∈ fields (s ++ t), w <:+: f) from h s [] (by simp)
  intro t
  induction t with
  | nil =>
    intro s hs
    rw [List.append_nil]
    exact hword hs
  | cons c t ih =>
    intro s hs
    cases hc : isSpace c with
    | true =>
      have hnot : c ∉ w := fun hmem => by
        rw [hspace c hmem] at hc
        cases hc
      rw [infix_append_cons_iff hw hnot, fields_append_cons hc, hword hs]
      have hrest := ih [] (by simp)
      rw [List.nil_append] at hrest
      simp only [List.mem_append, or_and_right, exists_or, hrest]
    | false =>
      have hmore := ih (s ++ [c]) (List.forall_mem_append.mpr ⟨hs, by simpa using hc⟩)
      rwa [List.append_assoc, List.singleton_append] at hmore

/-! ### Reading lines -/

/-- Lines that are each ended by a newline are read back. -/
theorem lines_flatMap {ls : List Chars} (h : ∀ l ∈ ls, '\n' ∉ l) :
    lines (ls.flatMap fun l => l ++ ['\n']) = ls := by
  have hsplit : (ls.flatMap fun l => l ++ ['\n']).splitOn '\n' = ls ++ [[]] := by
    induction ls with
    | nil => rfl
    | cons l ls ih =>
      obtain ⟨hl, hls⟩ := List.forall_mem_cons.mp h
      rw [List.flatMap_cons, List.append_assoc, List.singleton_append,
        List.splitOn_append_cons_self_of_not_mem hl, ih hls, List.cons_append]
  rw [lines, hsplit]
  simp

theorem not_mem_of_mem_splitOn {α : Type*} [DecidableEq α] {a : α} {s l : List α}
    (h : l ∈ s.splitOn a) : a ∉ l := by
  induction hn : s.length using Nat.strong_induction_on generalizing s with
  | h n ih =>
    by_cases ha : a ∈ s
    · obtain ⟨before, after, rfl, hbefore⟩ := List.eq_append_cons_of_mem ha
      rw [List.splitOn_append_cons_self_of_not_mem hbefore, List.mem_cons] at h
      rcases h with rfl | h
      · exact hbefore
      · exact ih after.length (by rw [← hn, List.length_append, List.length_cons]; omega) h rfl
    · rw [List.splitOn_eq_singleton ha, List.mem_singleton] at h
      exact h ▸ ha

theorem not_mem_of_mem_lines {s l : Chars} (h : l ∈ lines s) : '\n' ∉ l := by
  refine not_mem_of_mem_splitOn (s := s) ?_
  simp only [lines] at h
  split at h
  · exact (List.dropLast_sublist _).mem h
  · exact h

/-- Lines of a text that a scanner gets to can be put in any order, and some of them left out. -/
theorem scanLines_flatMap {limit : ℕ} {s : Chars} {ls : List Chars}
    (h : ∀ l ∈ ls, l ∈ (lines s).takeWhile fun line => byteLength line < limit) :
    scanLines limit (ls.flatMap fun l => l ++ ['\n']) = ls.map dropCR := by
  have hlines : lines (ls.flatMap fun l => l ++ ['\n']) = ls :=
    lines_flatMap fun l hl => not_mem_of_mem_lines ((List.takeWhile_sublist _).mem (h l hl))
  rw [scanLines, hlines, List.takeWhile_eq_self_iff.mpr fun l hl => List.mem_takeWhile_imp (h l hl)]

theorem Trimmed.dropCR_eq {s : Chars} (h : Trimmed s) : dropCR s = s := by
  refine if_neg fun hlast => ?_
  cases h.last '\r' hlast

theorem mem_of_mem_dropCR {s : Chars} {c : Char} (h : c ∈ dropCR s) : c ∈ s := by
  unfold dropCR at h
  split at h
  · exact (List.dropLast_sublist s).mem h
  · exact h

/-- Only the text behind a visible character loses its carriage return. -/
theorem dropCR_append {c : Char} (hc : isSpace c = false) (s t : Chars) :
    ∃ t', dropCR (s ++ c :: t) = s ++ c :: t' := by
  unfold dropCR
  split
  · rename_i hlast
    cases t with
    | nil =>
      rw [List.getLast?_append_of_ne_nil _ (List.cons_ne_nil c []), List.getLast?_singleton,
        Option.some_inj] at hlast
      rw [hlast] at hc
      cases hc
    | cons d t =>
      exact ⟨(d :: t).dropLast, by simp [List.dropLast_append_of_ne_nil]⟩
  · exact ⟨t, rfl⟩

/-! ### Reading items from lines -/

section

variable {α β : Type*} {f g : α → Option β} {xs : List α}

theorem length_filterMap_le (h : ∀ x ∈ xs, g x = none → f x = none) :
    (xs.filterMap f).length ≤ (xs.filterMap g).length := by
  induction xs with
  | nil => rfl
  | cons x xs ih =>
    obtain ⟨hx, hxs⟩ := List.forall_mem_cons.mp h
    cases hg : g x with
    | none => simpa [List.filterMap_cons, hg, hx hg] using ih hxs
    | some b => cases hf : f x <;> simp only [List.filterMap_cons, hg, hf, List.length_cons] <;>
        have := ih hxs <;> omega

/-- If only lines that should give an item give one, all items are found and no others exactly
if every line gives the item it should. -/
theorem filterMap_eq_append_iff (h : ∀ x ∈ xs, g x = none → f x = none) {ys : List β} :
    xs.filterMap f = xs.filterMap g ++ ys ↔ ys = [] ∧ ∀ x ∈ xs, f x = g x := by
  induction xs with
  | nil => simp [eq_comm]
  | cons x xs ih =>
    obtain ⟨hx, hxs⟩ := List.forall_mem_cons.mp h
    cases hg : g x with
    | none => simp [hg, hx hg, ih hxs]
    | some b =>
      cases hf : f x with
      | none =>
        refine iff_of_false ?_ (by simp [hg, hf])
        intro heq
        have hle := length_filterMap_le hxs
        have hlength := congrArg List.length heq
        simp only [List.filterMap_cons, hg, hf, List.cons_append, List.length_cons,
          List.length_append] at hlength
        omega
      | some a =>
        simp only [List.filterMap_cons, hg, hf, List.cons_append, List.cons.injEq, ih hxs,
          List.forall_mem_cons, Option.some_inj]
        tauto

end

end GpuSidecar.Text
