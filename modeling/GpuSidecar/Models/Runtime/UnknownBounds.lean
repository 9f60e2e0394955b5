import GpuSidecar.Core.Number.Extended
import GpuSidecar.Models.Runtime.Quantile

/-!
# Buckets whose bound is not a number

A bound that is not a number is below no other one, and none is below it. The exchange sort
leaves its bucket where it is and sorts the others around it, so what the search finds can
depend on the order of the lines. This file says for which histograms it does not, and for
which every order leads to a finite bound.
-/

namespace GpuSidecar.Runtime

open Number

/-! ### Lists that are in order -/

section

variable {α : Type} [LT α] [DecidableLT α]

theorem sweep_of_least {b : Bucket α} {cs : List (Bucket α)} (h : ∀ c ∈ cs, ¬ c.le < b.le) :
    sweep b cs = (b, cs) := by
  induction cs with
  | nil => rfl
  | cons c cs ih =>
    obtain ⟨hc, hcs⟩ := List.forall_mem_cons.mp h
    rw [sweep, if_neg hc, ih hcs]

theorem sortByBound_of_ascending {bs : List (Bucket α)} (h : Ascending bs) :
    sortByBound bs = bs := by
  induction bs with
  | nil => rw [sortByBound]
  | cons b bs ih =>
    obtain ⟨hb, hbs⟩ := List.pairwise_cons.mp h
    rw [sortByBound, sweep_of_least hb, ih hbs]

end

/-- Buckets without a known bound may stand anywhere in a list that is in order. -/
theorem Ascending.insert_nan {before after : List (Bucket Extended)}
    (h : Ascending (before ++ after)) {nans : List (Bucket Extended)}
    (hnans : ∀ b ∈ nans, b.le = .nan) : Ascending (before ++ nans ++ after) := by
  obtain ⟨hbefore, hafter, hacross⟩ := List.pairwise_append.mp h
  have hself : nans.Pairwise fun a b => ¬ b.le < a.le :=
    List.pairwise_of_forall_mem_list fun a ha b _ => by
      rw [hnans a ha]
      exact Extended.not_lt_nan b.le
  refine List.pairwise_append.mpr ⟨List.pairwise_append.mpr ⟨hbefore, hself, ?_⟩, hafter, ?_⟩
  · intro a _ b hb
    rw [hnans b hb]
    exact Extended.not_nan_lt a.le
  · intro a ha b hb
    rcases List.mem_append.mp ha with ha | ha
    · exact hacross a ha b hb
    · rw [hnans a ha]
      exact Extended.not_lt_nan b.le

/-! ### The search -/

section

variable {α : Type} [Zero α] [LT α] [LE α] [DecidableLT α] [DecidableLE α] [RatCast α]

/-- The bound that a search for a bucket answers with. -/
def boundFound (p : Bucket α → Bool) (bs : List (Bucket α)) : α :=
  match (sortByBound bs).find? p with
  | none => lastBound bs
  | some b => if infBound ≤ b.le then lastBound bs else b.le

end

variable {p : Bucket Extended → Bool} {bs bs' : List (Bucket Extended)}

/-- The last bound is that of the last bucket, and is below no other one. -/
theorem exists_last (hne : bs ≠ []) :
    ∃ l ∈ bs, lastBound bs = l.le ∧ ∀ c ∈ bs, ¬ l.le < c.le := by
  have hperm := sortByBound_perm bs
  have hsorted : sortByBound bs ≠ [] := fun hnil => hne (List.nil_perm.mp (hnil ▸ hperm))
  obtain ⟨l, hl⟩ := Option.ne_none_iff_exists'.mp (mt List.getLast?_eq_none_iff.mp hsorted)
  refine ⟨l, hperm.mem_iff.mp (List.mem_of_getLast? hl), by rw [lastBound, hl]; rfl, ?_⟩
  intro c hc
  obtain ⟨before, hsplit⟩ := List.getLast?_eq_some_iff.mp hl
  have hasc := ascending_sortByBound bs
  rw [← hperm.mem_iff, hsplit, List.mem_append, List.mem_singleton] at hc
  rw [hsplit] at hasc
  rcases hc with hc | rfl
  · exact (List.pairwise_append.mp hasc).2.2 c hc l (List.mem_singleton_self l)
  · exact irrefl _

/-- The bucket found has a bound that no other bucket searched for is below. -/
theorem hit_spec {b : Bucket Extended} (h : (sortByBound bs).find? p = some b) :
    b ∈ bs ∧ p b = true ∧ ∀ c ∈ bs, p c = true → ¬ c.le < b.le := by
  have hperm := sortByBound_perm bs
  obtain ⟨hp, before, after, hsplit, hbefore⟩ := List.find?_eq_some_iff_append.mp h
  refine ⟨hperm.mem_iff.mp (List.mem_of_find?_eq_some h), hp, fun c hc hpc => ?_⟩
  have hasc := ascending_sortByBound bs
  rw [hsplit] at hasc
  rw [← hperm.mem_iff, hsplit, List.mem_append, List.mem_cons] at hc
  rcases hc with hc | rfl | hc
  · have hnot := hbefore c hc
    rw [hpc] at hnot
    cases hnot
  · exact irrefl _
  · exact (List.pairwise_cons.mp (List.pairwise_append.mp hasc).2.1).1 c hc

theorem exists_hit {b : Bucket Extended} (hb : b ∈ bs) (hp : p b = true) :
    ∃ c, (sortByBound bs).find? p = some c := by
  refine Option.ne_none_iff_exists'.mp fun hnone => ?_
  exact List.find?_eq_none.mp hnone b ((sortByBound_perm bs).mem_iff.mpr hb) hp

theorem infBound_ne_nan : (infBound : Extended) ≠ .nan := Extended.noConfusion

theorem boundFound_of_hit {b : Bucket Extended} (h : (sortByBound bs).find? p = some b) :
    boundFound p bs = if infBound ≤ b.le then lastBound bs else b.le := by
  rw [boundFound, h]

/-- A bound below the stand-in for infinity is the answer itself. -/
theorem boundFound_of_lt {b : Bucket Extended} (h : (sortByBound bs).find? p = some b)
    (hlt : b.le < infBound) : boundFound p bs = b.le := by
  obtain ⟨hb, hinf⟩ := Extended.ne_nan_of_lt hlt
  rw [boundFound_of_hit h, if_neg fun hle => (Extended.not_lt_iff_le hinf hb).mpr hle hlt]

theorem boundFound_of_nan {b : Bucket Extended} (h : (sortByBound bs).find? p = some b)
    (hnan : b.le = .nan) : boundFound p bs = .nan := by
  rw [boundFound_of_hit h, hnan, if_neg (Extended.not_le_nan _)]

/-- If all bounds searched for are known and none is below the stand-in for infinity, the last
bound is the answer. -/
theorem boundFound_eq_lastBound
    (h : ∀ b ∈ bs, p b = true → b.le ≠ .nan ∧ ¬ b.le < infBound) :
    boundFound p bs = lastBound bs := by
  rw [boundFound]
  cases hhit : (sortByBound bs).find? p with
  | none => rfl
  | some b =>
    obtain ⟨hb, hp, -⟩ := hit_spec hhit
    obtain ⟨hknown, hlt⟩ := h b hb hp
    exact if_pos ((Extended.not_lt_iff_le infBound_ne_nan hknown).mp hlt)

/-- A known bound that is found is below the stand-in for infinity if another one is. -/
theorem hit_lt {b c : Bucket Extended} (h : (sortByBound bs).find? p = some b)
    (hb : b.le ≠ .nan) (hc : c ∈ bs) (hp : p c = true) (hlt : c.le < infBound) :
    b.le < infBound :=
  Extended.lt_of_not_lt_of_lt hb ((hit_spec h).2.2 c hc hp) hlt

/-! ### Orders that bring a bucket forward -/

/-- The buckets without a known bound. -/
def unknown (bs : List (Bucket Extended)) : List (Bucket Extended) :=
  bs.filter fun b => decide (b.le = .nan)

/-- The buckets with a known bound, in order. -/
def ordered (bs : List (Bucket Extended)) : List (Bucket Extended) :=
  sortByBound (bs.filter fun b => !decide (b.le = .nan))

theorem mem_unknown {b : Bucket Extended} : b ∈ unknown bs ↔ b ∈ bs ∧ b.le = .nan := by
  rw [unknown, List.mem_filter, decide_eq_true_eq]

theorem mem_ordered {b : Bucket Extended} : b ∈ ordered bs ↔ b ∈ bs ∧ b.le ≠ .nan := by
  rw [ordered, (sortByBound_perm _).mem_iff, List.mem_filter, Bool.not_eq_true',
    decide_eq_false_iff_not]

theorem unknown_append_ordered_perm (bs : List (Bucket Extended)) :
    (unknown bs ++ ordered bs).Perm bs :=
  ((sortByBound_perm _).append_left _).trans (List.filter_append_perm _ bs)

theorem ordered_append_unknown_perm (bs : List (Bucket Extended)) :
    (ordered bs ++ unknown bs).Perm bs :=
  List.perm_append_comm.trans (unknown_append_ordered_perm bs)

theorem sortByBound_unknown_ordered (bs : List (Bucket Extended)) :
    sortByBound (unknown bs ++ ordered bs) = unknown bs ++ ordered bs := by
  have hasc : Ascending ([] ++ ordered bs) := ascending_sortByBound _
  exact sortByBound_of_ascending (hasc.insert_nan fun b hb => (mem_unknown.mp hb).2)

theorem sortByBound_ordered_unknown (bs : List (Bucket Extended)) :
    sortByBound (ordered bs ++ unknown bs) = ordered bs ++ unknown bs := by
  have hasc : Ascending (ordered bs ++ []) := by
    rw [List.append_nil]
    exact ascending_sortByBound _
  have hmixed : Ascending (ordered bs ++ unknown bs ++ []) :=
    hasc.insert_nan fun b hb => (mem_unknown.mp hb).2
  rw [List.append_nil] at hmixed
  exact sortByBound_of_ascending hmixed

/-- A bucket without a known bound that is searched for is found if it stands in front. -/
theorem exists_order_nan {b : Bucket Extended} (hb : b ∈ bs) (hp : p b = true)
    (hnan : b.le = .nan) : ∃ bs', bs'.Perm bs ∧ boundFound p bs' = .nan := by
  refine ⟨unknown bs ++ ordered bs, unknown_append_ordered_perm bs, ?_⟩
  have hfound : ((unknown bs).find? p).isSome = true :=
    List.find?_isSome.mpr ⟨b, mem_unknown.mpr ⟨hb, hnan⟩, hp⟩
  obtain ⟨c, hc⟩ := Option.isSome_iff_exists.mp hfound
  have hhit : (sortByBound (unknown bs ++ ordered bs)).find? p = some c := by
    rw [sortByBound_unknown_ordered, List.find?_append, hc]
    rfl
  exact boundFound_of_nan hhit (mem_unknown.mp (List.mem_of_find?_eq_some hc)).2

/-- A bucket with a known bound is found, or one with a bound not above it, if the buckets
without a known bound stand behind. -/
theorem exists_order_known {b : Bucket Extended} (hb : b ∈ bs) (hp : p b = true)
    (hknown : b.le ≠ .nan) :
    ∃ bs' c, bs'.Perm bs ∧ (sortByBound bs').find? p = some c ∧ c.le ≠ .nan := by
  have hfound : ((ordered bs).find? p).isSome = true :=
    List.find?_isSome.mpr ⟨b, mem_ordered.mpr ⟨hb, hknown⟩, hp⟩
  obtain ⟨c, hc⟩ := Option.isSome_iff_exists.mp hfound
  refine ⟨ordered bs ++ unknown bs, c, ordered_append_unknown_perm bs, ?_,
    (mem_ordered.mp (List.mem_of_find?_eq_some hc)).2⟩
  rw [sortByBound_ordered_unknown, List.find?_append, hc]
  rfl

/-- A bucket without a known bound can stand last. -/
theorem exists_order_last_nan {b : Bucket Extended} (hb : b ∈ bs) (hnan : b.le = .nan) :
    ∃ bs', bs'.Perm bs ∧ lastBound bs' = .nan := by
  refine ⟨ordered bs ++ unknown bs, ordered_append_unknown_perm bs, ?_⟩
  have hne : unknown bs ≠ [] := List.ne_nil_of_mem (mem_unknown.mpr ⟨hb, hnan⟩)
  have hlast := List.getLast?_eq_some_getLast hne
  rw [lastBound, sortByBound_ordered_unknown, List.getLast?_append_of_ne_nil _ hne, hlast]
  exact (mem_unknown.mp (List.mem_of_getLast? hlast)).2

/-- A bucket with a known bound can stand last, none of the known ones above it. -/
theorem exists_order_last_known {b : Bucket Extended} (hb : b ∈ bs) (hknown : b.le ≠ .nan) :
    ∃ bs', bs'.Perm bs ∧ lastBound bs' ≠ .nan := by
  refine ⟨unknown bs ++ ordered bs, unknown_append_ordered_perm bs, ?_⟩
  have hne : ordered bs ≠ [] := List.ne_nil_of_mem (mem_ordered.mpr ⟨hb, hknown⟩)
  have hlast := List.getLast?_eq_some_getLast hne
  rw [lastBound, sortByBound_unknown_ordered, List.getLast?_append_of_ne_nil _ hne, hlast]
  exact (mem_ordered.mp (List.mem_of_getLast? hlast)).2

/-- A known bound stays in order between the bounds below it and the others. -/
theorem ascending_around (bs : List (Bucket Extended)) (b : Bucket Extended) :
    Ascending (((ordered bs).filter (fun c => decide (c.le < b.le)) ++ [b]) ++
      (ordered bs).filter fun c => !decide (c.le < b.le)) := by
  have hasc : Ascending (ordered bs) := ascending_sortByBound _
  have hbelow : ∀ c ∈ (ordered bs).filter (fun c => decide (c.le < b.le)), c.le < b.le :=
    fun c hc => of_decide_eq_true (List.mem_filter.mp hc).2
  have habove : ∀ c ∈ (ordered bs).filter (fun c => !decide (c.le < b.le)), ¬ c.le < b.le :=
    fun c hc hlt => by simp [hlt] at hc
  refine List.pairwise_append.mpr ⟨List.pairwise_append.mpr ⟨hasc.filter _,
    List.pairwise_singleton _ _, ?_⟩, hasc.filter _, ?_⟩
  · intro c hc d hd hlt
    rw [List.mem_singleton.mp hd] at hlt
    exact irrefl _ (Trans.trans hlt (hbelow c hc))
  · intro c hc d hd hlt
    rcases List.mem_append.mp hc with hc | hc
    · exact habove d hd (Trans.trans hlt (hbelow c hc))
    · rw [List.mem_singleton.mp hc] at hlt
      exact habove d hd hlt

/-- If another known bound is not below that of a bucket searched for, the buckets without a
known bound can stand between the two: then the answer is known. -/
theorem exists_order_between {before after : List (Bucket Extended)} {b c : Bucket Extended}
    (hp : p b = true) (hknown : b.le ≠ .nan) (hc : c ∈ before ++ after) (hcknown : c.le ≠ .nan)
    (hnot : ¬ c.le < b.le) :
    ∃ bs', bs'.Perm (before ++ b :: after) ∧ boundFound p bs' ≠ .nan := by
  let rest := before ++ after
  let low := (ordered rest).filter fun c => decide (c.le < b.le)
  let high := (ordered rest).filter fun c => !decide (c.le < b.le)
  have hsorted : sortByBound (low ++ [b] ++ unknown rest ++ high) =
      low ++ [b] ++ unknown rest ++ high :=
    sortByBound_of_ascending
      ((ascending_around rest b).insert_nan fun d hd => (mem_unknown.mp hd).2)
  have hperm : (low ++ [b] ++ unknown rest ++ high).Perm (before ++ b :: after) :=
    calc (low ++ [b] ++ unknown rest ++ high).Perm (b :: (low ++ (unknown rest ++ high))) := by
          simp
      _ |>.Perm (b :: (unknown rest ++ (low ++ high))) := by
          simpa using List.perm_append_comm_assoc low (unknown rest) high
      _ |>.Perm (b :: (unknown rest ++ ordered rest)) :=
          ((List.filter_append_perm _ _).append_left _).cons b
      _ |>.Perm (b :: rest) := (unknown_append_ordered_perm rest).cons b
      _ |>.Perm (before ++ b :: after) := List.perm_middle.symm
  have hlow : ∀ d ∈ low ++ [b], d.le ≠ .nan := by
    intro d hd
    rcases List.mem_append.mp hd with hd | hd
    · exact (mem_ordered.mp (List.mem_of_mem_filter hd)).2
    · rwa [List.mem_singleton.mp hd]
  have hhigh : high ≠ [] := List.ne_nil_of_mem (List.mem_filter.mpr
    ⟨mem_ordered.mpr ⟨hc, hcknown⟩, by simpa using hnot⟩)
  have hlast := List.getLast?_eq_some_getLast hhigh
  obtain ⟨d, hd⟩ := Option.isSome_iff_exists.mp (List.find?_isSome.mpr
    ⟨b, List.mem_append_right low (List.mem_singleton_self b), hp⟩)
  refine ⟨_, hperm, ?_⟩
  have hhit : (sortByBound (low ++ [b] ++ unknown rest ++ high)).find? p = some d := by
    rw [hsorted, List.append_assoc, List.find?_append, hd]
    rfl
  rw [boundFound_of_hit hhit]
  split_ifs with hle
  · rw [lastBound, hsorted, List.getLast?_append_of_ne_nil _ hhigh, hlast]
    exact (mem_ordered.mp (List.mem_of_mem_filter (List.mem_of_getLast? hlast))).2
  · exact hlow d (List.mem_of_find?_eq_some hd)

/-! ### Answers that do not depend on the order -/

/-- The order of the buckets does not matter: all bounds are known or none is; or only known
bounds are searched for, one of them below the stand-in for infinity; or a bucket without a
known bound is searched for, and every known bound searched for stands alone at the end and
is not below the stand-in. -/
def Settled (p : Bucket Extended → Bool) (bs : List (Bucket Extended)) : Prop :=
  (∀ b ∈ bs, b.le ≠ .nan) ∨ (∀ b ∈ bs, b.le = .nan) ∨
    ((∀ b ∈ bs, p b = true → b.le ≠ .nan) ∧ ∃ b ∈ bs, p b = true ∧ b.le < infBound) ∨
    ((∃ b ∈ bs, p b = true ∧ b.le = .nan) ∧
      ∀ before b after, bs = before ++ b :: after → p b = true → b.le ≠ .nan →
        ¬ b.le < infBound ∧ ∀ c ∈ before ++ after, c.le ≠ .nan → c.le < b.le)

/-- Of known bounds the same one is found in every order. -/
theorem boundFound_perm_of_known (hperm : bs'.Perm bs) (h : ∀ b ∈ bs, b.le ≠ .nan) :
    boundFound p bs' = boundFound p bs := by
  have h' : ∀ b ∈ bs', b.le ≠ .nan := fun b hb => h b (hperm.mem_iff.mp hb)
  have hlast : lastBound bs' = lastBound bs := by
    rcases eq_or_ne bs [] with rfl | hne
    · rw [List.perm_nil.mp hperm]
    · have hne' : bs' ≠ [] := fun hnil => hne (List.nil_perm.mp (hnil ▸ hperm))
      obtain ⟨l, hl, hlast, habove⟩ := exists_last hne
      obtain ⟨l', hl', hlast', habove'⟩ := exists_last hne'
      rw [hlast, hlast']
      exact Extended.eq_of_not_lt (h' l' hl') (h l hl) (habove' l (hperm.mem_iff.mpr hl))
        (habove l' (hperm.mem_iff.mp hl'))
  cases hhit : (sortByBound bs).find? p with
  | none =>
    have hnone : (sortByBound bs').find? p = none := by
      rw [List.find?_eq_none] at hhit ⊢
      intro b hb
      refine hhit b ((sortByBound_perm bs).mem_iff.mpr ?_)
      exact hperm.mem_iff.mp ((sortByBound_perm bs').mem_iff.mp hb)
    rw [boundFound, boundFound, hnone, hhit]
    exact hlast
  | some b =>
    obtain ⟨hb, hp, hleast⟩ := hit_spec hhit
    obtain ⟨b', hhit'⟩ := exists_hit (hperm.mem_iff.mpr hb) hp
    obtain ⟨hb', hp', hleast'⟩ := hit_spec hhit'
    have heq : b'.le = b.le := Extended.eq_of_not_lt (h' b' hb') (h b hb)
      (hleast b' (hperm.mem_iff.mp hb') hp') (hleast' b (hperm.mem_iff.mpr hb) hp)
    rw [boundFound_of_hit hhit, boundFound_of_hit hhit', heq, hlast]

/-- A search that ends below the stand-in for infinity finds the least bound. -/
theorem exists_least_hit (h : ∀ b ∈ bs, p b = true → b.le ≠ .nan)
    (hlt : ∃ b ∈ bs, p b = true ∧ b.le < infBound) :
    ∃ b ∈ bs, p b = true ∧ b.le < infBound ∧ boundFound p bs = b.le ∧
      ∀ c ∈ bs, p c = true → ¬ c.le < b.le := by
  obtain ⟨c, hc, hpc, hlt⟩ := hlt
  obtain ⟨b, hhit⟩ := exists_hit hc hpc
  obtain ⟨hb, hp, hleast⟩ := hit_spec hhit
  have hbelow := hit_lt hhit (h b hb hp) hc hpc hlt
  exact ⟨b, hb, hp, hbelow, boundFound_of_lt hhit hbelow, hleast⟩

/-- If every known bound searched for stands alone at the end, a bucket without a known bound
is found first or answers last. -/
theorem boundFound_eq_nan (hnan : ∃ b ∈ bs, p b = true ∧ b.le = .nan)
    (h : ∀ before b after, bs.Perm (before ++ b :: after) → p b = true → b.le ≠ .nan →
      ¬ b.le < infBound ∧ ∀ c ∈ before ++ after, c.le ≠ .nan → c.le < b.le) :
    boundFound p bs = .nan := by
  obtain ⟨n, hn, hpn, hnnan⟩ := hnan
  obtain ⟨b, hhit⟩ := exists_hit hn hpn
  by_cases hknown : b.le = .nan
  · exact boundFound_of_nan hhit hknown
  · -- nothing known is left behind the bucket found, but the other one searched for is
    obtain ⟨hp, before, after, hsplit, hbefore⟩ := List.find?_eq_some_iff_append.mp hhit
    have hperm : bs.Perm (before ++ b :: after) := hsplit ▸ (sortByBound_perm bs).symm
    obtain ⟨hinf, hbelow⟩ := h before b after hperm hp hknown
    rw [boundFound_of_hit hhit,
      if_pos ((Extended.not_lt_iff_le infBound_ne_nan hknown).mp hinf)]
    have hasc := ascending_sortByBound bs
    rw [hsplit] at hasc
    have hafter : ∀ c ∈ after, c.le = .nan := by
      intro c hc
      by_contra hcknown
      exact (List.pairwise_cons.mp (List.pairwise_append.mp hasc).2.1).1 c hc
        (hbelow c (List.mem_append_right before hc) hcknown)
    have hmem : n ∈ after := by
      rw [hperm.mem_iff, List.mem_append, List.mem_cons] at hn
      rcases hn with hn | rfl | hn
      · have hnot := hbefore n hn
        rw [hpn] at hnot
        cases hnot
      · exact absurd hnnan hknown
      · exact hn
    have hne : after ≠ [] := List.ne_nil_of_mem hmem
    have hlast := List.getLast?_eq_some_getLast hne
    rw [lastBound, hsplit, List.getLast?_append_of_ne_nil _ (List.cons_ne_nil b after),
      List.getLast?_cons, hlast]
    exact hafter _ (List.mem_of_getLast? hlast)

theorem boundFound_perm_of_settled (hperm : bs'.Perm bs) (h : Settled p bs) :
    boundFound p bs' = boundFound p bs := by
  rcases h with h | h | ⟨hknown, hlt⟩ | ⟨hnan, halone⟩
  · exact boundFound_perm_of_known hperm h
  · have hall : ∀ cs : List (Bucket Extended), cs.Perm bs → cs ≠ [] → boundFound p cs = .nan := by
      intro cs hcs hne
      have hnans : ∀ b ∈ cs, b.le = .nan := fun b hb => h b (hcs.mem_iff.mp hb)
      cases hhit : (sortByBound cs).find? p with
      | none =>
        obtain ⟨l, hl, hlast, -⟩ := exists_last hne
        rw [boundFound, hhit]
        exact hlast.trans (hnans l hl)
      | some b => exact boundFound_of_nan hhit (hnans b (hit_spec hhit).1)
    rcases eq_or_ne bs [] with rfl | hne
    · rw [List.perm_nil.mp hperm]
    · have hne' : bs' ≠ [] := fun hnil => hne (List.nil_perm.mp (hnil ▸ hperm))
      rw [hall bs' hperm hne', hall bs (List.Perm.refl bs) hne]
  · obtain ⟨b, hb, hp, -, hfound, hleast⟩ := exists_least_hit hknown hlt
    have hknown' : ∀ b ∈ bs', p b = true → b.le ≠ .nan :=
      fun b hb => hknown b (hperm.mem_iff.mp hb)
    obtain ⟨b', hb', hp', -, hfound', hleast'⟩ := exists_least_hit hknown' (by
      simpa only [hperm.mem_iff] using hlt)
    rw [hfound, hfound']
    exact Extended.eq_of_not_lt (hknown' b' hb' hp') (hknown b hb hp)
      (hleast b' (hperm.mem_iff.mp hb') hp') (hleast' b (hperm.mem_iff.mpr hb) hp)
  · have hall : ∀ cs : List (Bucket Extended), cs.Perm bs → boundFound p cs = .nan := by
      intro cs hcs
      refine boundFound_eq_nan (by simpa only [hcs.mem_iff] using hnan) ?_
      intro before b after hsplit hp hknown
      have hb : b ∈ bs := hcs.mem_iff.mp (hsplit.mem_iff.mpr (by simp))
      obtain ⟨before', after', hbs⟩ := List.append_of_mem hb
      obtain ⟨hinf, hbelow⟩ := halone before' b after' hbs hp hknown
      have hothers : (before ++ after).Perm (before' ++ after') := by
        have hcons : (b :: (before ++ after)).Perm (b :: (before' ++ after')) :=
          calc (b :: (before ++ after)).Perm (before ++ b :: after) := List.perm_middle.symm
            _ |>.Perm cs := hsplit.symm
            _ |>.Perm (before' ++ b :: after') := hbs ▸ hcs
            _ |>.Perm (b :: (before' ++ after')) := List.perm_middle
        exact hcons.cons_inv
      exact ⟨hinf, fun c hc => hbelow c (hothers.mem_iff.mp hc)⟩
    rw [hall bs' hperm, hall bs (List.Perm.refl bs)]

theorem settled_of_boundFound_perm
    (h : ∀ bs', bs'.Perm bs → boundFound p bs' = boundFound p bs) : Settled p bs := by
  by_cases hallKnown : ∀ b ∈ bs, b.le ≠ .nan
  · exact Or.inl hallKnown
  by_cases hallNan : ∀ b ∈ bs, b.le = .nan
  · exact Or.inr (Or.inl hallNan)
  push Not at hallKnown hallNan
  obtain ⟨n, hn, hnnan⟩ := hallKnown
  obtain ⟨k, hk, hkknown⟩ := hallNan
  right; right
  by_cases hhits : ∀ b ∈ bs, p b = true → b.le ≠ .nan
  · left
    refine ⟨hhits, ?_⟩
    by_contra hnone
    push Not at hnone
    -- then every order answers with its last bound, which is known in one and not in another
    have hlast : ∀ bs', bs'.Perm bs → lastBound bs' = boundFound p bs := by
      intro bs' hperm
      rw [← h bs' hperm]
      refine (boundFound_eq_lastBound fun b hb hp => ?_).symm
      exact ⟨hhits b (hperm.mem_iff.mp hb) hp, hnone b (hperm.mem_iff.mp hb) hp⟩
    obtain ⟨bs₁, hperm₁, hnan⟩ := exists_order_last_nan hn hnnan
    obtain ⟨bs₂, hperm₂, hknown⟩ := exists_order_last_known hk hkknown
    exact hknown ((hlast bs₂ hperm₂).trans ((hlast bs₁ hperm₁).symm.trans hnan))
  · right
    push Not at hhits
    obtain ⟨m, hm, hpm, hmnan⟩ := hhits
    refine ⟨⟨m, hm, hpm, hmnan⟩, ?_⟩
    have hall : ∀ bs', bs'.Perm bs → boundFound p bs' = .nan := by
      intro bs' hperm
      obtain ⟨bs₁, hperm₁, hnan⟩ := exists_order_nan hm hpm hmnan
      exact (h bs' hperm).trans ((h bs₁ hperm₁).symm.trans hnan)
    rintro before b after rfl hp hknown
    constructor
    · intro hlt
      have hb : b ∈ before ++ b :: after := by simp
      obtain ⟨bs', c, hperm, hhit, hcknown⟩ := exists_order_known hb hp hknown
      have hclt := hit_lt hhit hcknown (hperm.mem_iff.mpr hb) hp hlt
      exact hcknown ((boundFound_of_lt hhit hclt).symm.trans (hall bs' hperm))
    · intro c hc hcknown
      by_contra hnot
      obtain ⟨bs', hperm, hne⟩ := exists_order_between hp hknown hc hcknown hnot
      exact hne (hall bs' hperm)

/-- For every histogram, all orders of its buckets lead to one answer if and only if it is
settled. -/
theorem boundFound_perm_iff_settled :
    (∀ bs', bs'.Perm bs → boundFound p bs' = boundFound p bs) ↔ Settled p bs :=
  ⟨settled_of_boundFound_perm, fun h _ hperm => boundFound_perm_of_settled hperm h⟩

/-! ### Answers that are finite -/

/-- No bound that is searched for is below all numbers or unknown; and one of them is below the
stand-in for infinity, or else no bound at all is infinite above or unknown and one is
finite. -/
def FiniteBounds (p : Bucket Extended → Bool) (bs : List (Bucket Extended)) : Prop :=
  (∀ b ∈ bs, p b = true → b.le ≠ .nan ∧ b.le ≠ .infinite true) ∧
    ((∃ b ∈ bs, p b = true ∧ b.le < infBound) ∨
      ((∀ b ∈ bs, b.le ≠ .nan ∧ b.le ≠ .infinite false) ∧ ∃ b ∈ bs, b.le.isFinite = true))

/-- Bounds that are known and not infinite above, one of them finite, end with a finite one. -/
theorem lastBound_isFinite (h : ∀ b ∈ bs, b.le ≠ .nan ∧ b.le ≠ .infinite false)
    (hfinite : ∃ b ∈ bs, b.le.isFinite = true) : (lastBound bs).isFinite = true := by
  obtain ⟨f, hf, hfinite⟩ := hfinite
  obtain ⟨l, hl, hlast, habove⟩ := exists_last (List.ne_nil_of_mem hf)
  rw [hlast, Extended.isFinite_iff]
  refine ⟨(h l hl).1, fun hbot => habove f hf ?_, (h l hl).2⟩
  rw [hbot, ← Extended.finite_toRat hfinite]
  exact Extended.bot_lt_finite _

theorem boundFound_isFinite (h : FiniteBounds p bs) : (boundFound p bs).isFinite = true := by
  obtain ⟨hhits, hlt | ⟨hall, hfinite⟩⟩ := h
  · obtain ⟨b, hb, hp, hbelow, hfound, -⟩ :=
      exists_least_hit (fun b hb hp => (hhits b hb hp).1) hlt
    rw [hfound, Extended.isFinite_iff]
    refine ⟨(hhits b hb hp).1, (hhits b hb hp).2, fun htop => ?_⟩
    rw [htop] at hbelow
    exact Extended.not_top_lt _ hbelow
  · have hlast := lastBound_isFinite hall hfinite
    cases hhit : (sortByBound bs).find? p with
    | none =>
      rw [boundFound, hhit]
      exact hlast
    | some b =>
      obtain ⟨hb, hp, -⟩ := hit_spec hhit
      rw [boundFound_of_hit hhit]
      split_ifs
      · exact hlast
      · exact Extended.isFinite_iff.mpr ⟨(hall b hb).1, (hhits b hb hp).2, (hall b hb).2⟩

theorem finiteBounds_of_isFinite (hne : bs ≠ [])
    (h : ∀ bs', bs'.Perm bs → (boundFound p bs').isFinite = true) : FiniteBounds p bs := by
  have hhits : ∀ b ∈ bs, p b = true → b.le ≠ .nan ∧ b.le ≠ .infinite true := by
    intro b hb hp
    have hknown : b.le ≠ .nan := by
      intro hnan
      obtain ⟨bs', hperm, hfound⟩ := exists_order_nan hb hp hnan
      exact (Extended.isFinite_iff.mp (h bs' hperm)).1 hfound
    refine ⟨hknown, fun hbot => ?_⟩
    obtain ⟨bs', c, hperm, hhit, hcknown⟩ := exists_order_known hb hp hknown
    have hmem := hperm.mem_iff.mpr hb
    have hclt := hit_lt hhit hcknown hmem hp (by rw [hbot]; exact Extended.bot_lt_finite _)
    have hcbot : c.le = .infinite true := Extended.eq_bot_of_not_lt hcknown
      (hbot ▸ (hit_spec hhit).2.2 b hmem hp)
    have hfinite := h bs' hperm
    rw [boundFound_of_lt hhit hclt] at hfinite
    exact (Extended.isFinite_iff.mp hfinite).2.1 hcbot
  refine ⟨hhits, or_iff_not_imp_left.mpr fun hnone => ?_⟩
  push Not at hnone
  have hlast : ∀ bs' : List (Bucket Extended), bs'.Perm bs →
      (lastBound bs').isFinite = true := by
    intro bs' hperm
    rw [← boundFound_eq_lastBound fun b hb hp => ⟨(hhits b (hperm.mem_iff.mp hb) hp).1,
      hnone b (hperm.mem_iff.mp hb) hp⟩]
    exact h bs' hperm
  obtain ⟨l, hl, hlastEq, habove⟩ := exists_last hne
  have hlfinite : l.le.isFinite = true := hlastEq ▸ hlast bs (List.Perm.refl bs)
  refine ⟨fun b hb => ⟨fun hnan => ?_, fun htop => ?_⟩, l, hl, hlfinite⟩
  · obtain ⟨bs', hperm, hnanLast⟩ := exists_order_last_nan hb hnan
    exact (Extended.isFinite_iff.mp (hlast bs' hperm)).1 hnanLast
  · refine habove b hb ?_
    rw [htop, ← Extended.finite_toRat hlfinite]
    exact Extended.finite_lt_top _

/-- For every histogram, all orders of its buckets lead to a finite answer if and only if its
bounds allow it. -/
theorem boundFound_isFinite_iff (hne : bs ≠ []) :
    (∀ bs', bs'.Perm bs → (boundFound p bs').isFinite = true) ↔ FiniteBounds p bs := by
  refine ⟨finiteBounds_of_isFinite hne, fun h bs' hperm => boundFound_isFinite ?_⟩
  simpa only [FiniteBounds, hperm.mem_iff] using h

end GpuSidecar.Runtime
