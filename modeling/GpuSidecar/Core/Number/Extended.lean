import Mathlib.Algebra.Field.Rat
import Mathlib.Algebra.Order.Ring.Rat
import Mathlib.Order.WithBot

/-!
# Numbers that need not be finite

The values of a floating-point type up to rounding: the rationals, two infinities and
not-a-number. A comparison with not-a-number is false, and an operation with it, or one
that has no limit, gives it. Sums do not depend on the order of their summands. All numbers
but not-a-number are in a linear order, that of the rationals with two ends.
-/

namespace GpuSidecar.Number

inductive Extended where
  | finite (q : ℚ)
  | infinite (negative : Bool)
  | nan
  deriving DecidableEq, Repr

namespace Extended

def add : Extended → Extended → Extended
  | finite a, finite b => finite (a + b)
  | finite _, infinite s => infinite s
  | infinite s, finite _ => infinite s
  | infinite s, infinite t => if s = t then infinite s else nan
  | nan, _ => nan
  | _, nan => nan

def mul : Extended → Extended → Extended
  | finite a, finite b => finite (a * b)
  | finite a, infinite s => if a = 0 then nan else infinite (s ^^ decide (a < 0))
  | infinite s, finite a => if a = 0 then nan else infinite (s ^^ decide (a < 0))
  | infinite s, infinite t => infinite (s ^^ t)
  | nan, _ => nan
  | _, nan => nan

def lt : Extended → Extended → Bool
  | finite a, finite b => decide (a < b)
  | finite _, infinite s => !s
  | infinite s, finite _ => s
  | infinite s, infinite t => s && !t
  | nan, _ => false
  | _, nan => false

def le : Extended → Extended → Bool
  | finite a, finite b => decide (a ≤ b)
  | finite _, infinite s => !s
  | infinite s, finite _ => s
  | infinite s, infinite t => s || !t
  | nan, _ => false
  | _, nan => false

instance : Zero Extended := ⟨finite 0⟩
instance : Inhabited Extended := ⟨finite 0⟩
instance : RatCast Extended := ⟨finite⟩
instance : Add Extended := ⟨add⟩
instance : Mul Extended := ⟨mul⟩
instance : LT Extended := ⟨fun x y => lt x y = true⟩
instance : LE Extended := ⟨fun x y => le x y = true⟩
instance : DecidableLT Extended := fun x y => inferInstanceAs (Decidable (lt x y = true))
instance : DecidableLE Extended := fun x y => inferInstanceAs (Decidable (le x y = true))

def isFinite : Extended → Bool
  | finite _ => true
  | _ => false

/-- The rational of a finite number. -/
def toRat : Extended → ℚ
  | finite q => q
  | _ => 0

theorem finite_toRat {x : Extended} (h : x.isFinite = true) : finite x.toRat = x := by
  cases x with
  | finite q => rfl
  | infinite s => cases h
  | nan => cases h

theorem isFinite_iff {x : Extended} :
    x.isFinite = true ↔ x ≠ nan ∧ x ≠ infinite true ∧ x ≠ infinite false := by
  rcases x with q | (_ | _) | _ <;> simp [isFinite]

/-- The order of the summands does not matter. -/
theorem add_swap (x y z : Extended) : x + y + z = x + z + y := by
  rcases x with a | (_ | _) | _ <;> rcases y with b | (_ | _) | _ <;>
    rcases z with c | (_ | _) | _ <;> try rfl
  exact congrArg finite (add_right_comm a b c)

/-! ### The order -/

theorem not_lt_nan (x : Extended) : ¬ x < nan := by
  cases x <;> exact Bool.false_ne_true

theorem not_nan_lt (x : Extended) : ¬ nan < x := Bool.false_ne_true

theorem not_le_nan (x : Extended) : ¬ x ≤ nan := by
  cases x <;> exact Bool.false_ne_true

theorem bot_lt_finite (q : ℚ) : infinite true < finite q := rfl

theorem finite_lt_top (q : ℚ) : finite q < infinite false := rfl

theorem not_top_lt (x : Extended) : ¬ infinite false < x := by
  cases x <;> exact Bool.false_ne_true

theorem eq_bot_of_not_lt {x : Extended} (hx : x ≠ nan) (h : ¬ infinite true < x) :
    x = infinite true := by
  rcases x with q | (_ | _) | _
  · exact absurd (bot_lt_finite q) h
  · exact absurd rfl h
  · rfl
  · exact absurd rfl hx

theorem ne_nan_of_lt {x y : Extended} (h : x < y) : x ≠ nan ∧ y ≠ nan := by
  constructor
  · rintro rfl
    exact not_nan_lt y h
  · rintro rfl
    exact not_lt_nan x h

/-- The place of a number on the line with its two ends. -/
def place : Extended → WithBot (WithTop ℚ)
  | finite q => ((q : WithTop ℚ) : WithBot (WithTop ℚ))
  | infinite true => ⊥
  | infinite false => ((⊤ : WithTop ℚ) : WithBot (WithTop ℚ))
  | nan => ⊥

theorem finite_lt {a b : ℚ} : finite a < finite b ↔ a < b := decide_eq_true_iff

theorem finite_le {a b : ℚ} : finite a ≤ finite b ↔ a ≤ b := decide_eq_true_iff

variable {x y z : Extended}

theorem lt_iff_place (hx : x ≠ nan) (hy : y ≠ nan) : x < y ↔ x.place < y.place := by
  have htop : ∀ a : ℚ, ((a : WithTop ℚ) : WithBot (WithTop ℚ)) < ((⊤ : WithTop ℚ) : WithBot _) :=
    fun a => WithBot.coe_lt_coe.mpr (WithTop.coe_lt_top a)
  cases x with
  | nan => exact absurd rfl hx
  | finite a =>
    cases y with
    | nan => exact absurd rfl hy
    | finite b => rw [finite_lt, place, place, WithBot.coe_lt_coe, WithTop.coe_lt_coe]
    | infinite t =>
      cases t with
      | false => exact iff_of_true rfl (htop a)
      | true => exact iff_of_false Bool.false_ne_true not_lt_bot
  | infinite s =>
    cases y with
    | nan => exact absurd rfl hy
    | finite b =>
      cases s with
      | false => exact iff_of_false Bool.false_ne_true (htop b).not_gt
      | true => exact iff_of_true rfl (WithBot.bot_lt_coe _)
    | infinite t =>
      cases s <;> cases t
      · exact iff_of_false Bool.false_ne_true (lt_irrefl _)
      · exact iff_of_false Bool.false_ne_true not_lt_bot
      · exact iff_of_true rfl (WithBot.bot_lt_coe _)
      · exact iff_of_false Bool.false_ne_true (lt_irrefl _)

/-- Of two numbers that can be compared, either is at most the other. -/
theorem not_lt_iff_le (hx : x ≠ nan) (hy : y ≠ nan) : ¬ y < x ↔ x ≤ y := by
  cases x with
  | nan => exact absurd rfl hx
  | finite a =>
    cases y with
    | nan => exact absurd rfl hy
    | finite b => rw [finite_lt, finite_le, not_lt]
    | infinite t =>
      cases t with
      | false => exact iff_of_true Bool.false_ne_true rfl
      | true => exact iff_of_false (fun h => h rfl) Bool.false_ne_true
  | infinite s =>
    cases y with
    | nan => exact absurd rfl hy
    | finite b =>
      cases s with
      | false => exact iff_of_false (fun h => h rfl) Bool.false_ne_true
      | true => exact iff_of_true Bool.false_ne_true rfl
    | infinite t => cases s <;> cases t <;> decide

theorem eq_of_place_eq (hx : x ≠ nan) (hy : y ≠ nan) (h : x.place = y.place) : x = y := by
  cases x with
  | nan => exact absurd rfl hx
  | finite a =>
    cases y with
    | nan => exact absurd rfl hy
    | finite b => exact congrArg finite (WithTop.coe_injective (WithBot.coe_injective h))
    | infinite t =>
      cases t with
      | false => exact absurd (WithBot.coe_injective h) (WithTop.coe_ne_top)
      | true => exact absurd h (WithBot.coe_ne_bot)
  | infinite s =>
    cases y with
    | nan => exact absurd rfl hy
    | finite b =>
      cases s with
      | false => exact absurd (WithBot.coe_injective h) (WithTop.top_ne_coe)
      | true => exact absurd h (WithBot.bot_ne_coe)
    | infinite t =>
      cases s <;> cases t
      · rfl
      · exact absurd h (WithBot.coe_ne_bot)
      · exact absurd h (WithBot.bot_ne_coe)
      · rfl

/-- Numbers of which neither is below the other are equal. -/
theorem eq_of_not_lt (hx : x ≠ nan) (hy : y ≠ nan) (hxy : ¬ x < y) (hyx : ¬ y < x) : x = y := by
  rw [lt_iff_place hx hy] at hxy
  rw [lt_iff_place hy hx] at hyx
  exact eq_of_place_eq hx hy (le_antisymm (not_lt.mp hyx) (not_lt.mp hxy))

instance isStrictOrder_lt : IsStrictOrder Extended (· < ·) where
  irrefl x := by
    cases x with
    | nan => exact not_nan_lt nan
    | finite a => exact fun h => lt_irrefl a (finite_lt.mp h)
    | infinite s => cases s <;> exact Bool.false_ne_true
  trans x y z hxy hyz := by
    obtain ⟨hx, hy⟩ := ne_nan_of_lt hxy
    have hz := (ne_nan_of_lt hyz).2
    rw [lt_iff_place hx hy] at hxy
    rw [lt_iff_place hy hz] at hyz
    exact (lt_iff_place hx hz).mpr (hxy.trans hyz)

/-- What lies below a number lies below every number that is not below the former. -/
theorem lt_of_not_lt_of_lt (hx : x ≠ nan) (hyx : ¬ y < x) (hyz : y < z) : x < z := by
  obtain ⟨hy, hz⟩ := ne_nan_of_lt hyz
  rw [lt_iff_place hy hx] at hyx
  rw [lt_iff_place hy hz] at hyz
  exact (lt_iff_place hx hz).mpr ((not_lt.mp hyx).trans_lt hyz)

end Extended

end GpuSidecar.Number
