import GpuSidecar.Core.Number.Extended
import Mathlib.Data.Int.Log
import Mathlib.Data.Rat.Floor

/-!
# Double-precision numbers

The numbers of the format `binary64` of IEEE 754, with one zero: those of the extended
line, with operations that round their exact result to the nearest number of the format,
a tie to the even one. A result is infinite from the middle between the largest number and
the next power of two on.
-/

namespace GpuSidecar.Number

/-- A double-precision number. -/
def Double : Type := Extended

namespace Double

instance : Zero Double := inferInstanceAs (Zero Extended)
instance : Inhabited Double := inferInstanceAs (Inhabited Extended)
instance : DecidableEq Double := inferInstanceAs (DecidableEq Extended)
instance : LT Double := inferInstanceAs (LT Extended)
instance : LE Double := inferInstanceAs (LE Extended)
instance : DecidableLT Double := inferInstanceAs (DecidableLT Extended)
instance : DecidableLE Double := inferInstanceAs (DecidableLE Extended)

/-- Constants are taken to be numbers of the format. -/
instance : RatCast Double := inferInstanceAs (RatCast Extended)

instance isStrictOrder_lt : IsStrictOrder Double (· < ·) := Extended.isStrictOrder_lt

def finite (q : ℚ) : Double := Extended.finite q

def infinite (negative : Bool) : Double := Extended.infinite negative

def nan : Double := Extended.nan

def isFinite (x : Double) : Bool := Extended.isFinite x

/-- The rational of a finite number. -/
def toRat (x : Double) : ℚ := Extended.toRat x

theorem finite_toRat {x : Double} (h : x.isFinite = true) : finite x.toRat = x :=
  Extended.finite_toRat h

/-! ### Rounding -/

/-- The middle between the largest number of the format and the next power of two. -/
def overflow : ℚ := ((2 ^ 1024 - 2 ^ 970 : ℤ) : ℚ)

/-- The distance of the numbers of the format around a rational. -/
def spacing (q : ℚ) : ℚ := 2 ^ max (Int.log 2 |q| - 52) (-1074)

/-- The nearest integer, of two the even one. -/
def nearestEven (q : ℚ) : ℤ :=
  let below := ⌊q⌋
  if q - below < 1 / 2 then below
  else if 1 / 2 < q - below then below + 1
  else if below % 2 = 0 then below else below + 1

/-- The number of the format for an exact result. -/
def round (q : ℚ) : Double :=
  if overflow ≤ |q| then infinite (decide (q < 0))
  else finite (nearestEven (q / spacing q) * spacing q)

def rounded : Extended → Double
  | .finite q => round q
  | .infinite s => infinite s
  | .nan => nan

instance : Add Double := ⟨fun x y => rounded (Extended.add x y)⟩
instance : Mul Double := ⟨fun x y => rounded (Extended.mul x y)⟩

theorem isFinite_round {q : ℚ} : (round q).isFinite = true ↔ |q| < overflow := by
  rw [round]
  split_ifs with h
  · exact iff_of_false Bool.false_ne_true (not_lt.mpr h)
  · exact iff_of_true rfl (not_le.mp h)

/-- A sum is finite if and only if its summands are and it does not overflow. -/
theorem isFinite_add {x y : Double} :
    (x + y).isFinite = true ↔
      x.isFinite = true ∧ y.isFinite = true ∧ |x.toRat + y.toRat| < overflow := by
  rcases x with a | s | _
  · rcases y with b | t | _
    · exact isFinite_round.trans (Iff.intro (⟨rfl, rfl, ·⟩) (·.2.2))
    · exact iff_of_false Bool.false_ne_true fun h => Bool.false_ne_true h.2.1
    · exact iff_of_false Bool.false_ne_true fun h => Bool.false_ne_true h.2.1
  · refine iff_of_false ?_ fun h => Bool.false_ne_true h.1
    rcases y with b | t | _
    · exact Bool.false_ne_true
    · cases s <;> cases t <;> exact Bool.false_ne_true
    · exact Bool.false_ne_true
  · exact iff_of_false Bool.false_ne_true fun h => Bool.false_ne_true h.1

/-- Each summand is finite and no running sum overflows. -/
def SumStaysFinite : Double → List Double → Prop
  | _, [] => True
  | sum, v :: vs =>
    v.isFinite = true ∧ |sum.toRat + v.toRat| < overflow ∧ SumStaysFinite (sum + v) vs

/-- What is not finite stays so in a sum. -/
theorem isFinite_foldl_add {sum : Double} {vs : List Double}
    (h : (vs.foldl (· + ·) sum).isFinite = true) : sum.isFinite = true := by
  induction vs generalizing sum with
  | nil => exact h
  | cons v vs ih => exact (isFinite_add.mp (ih h)).1

theorem isFinite_foldl_add_iff {sum : Double} (hsum : sum.isFinite = true) (vs : List Double) :
    (vs.foldl (· + ·) sum).isFinite = true ↔ SumStaysFinite sum vs := by
  induction vs generalizing sum with
  | nil => exact iff_of_true hsum trivial
  | cons v vs ih =>
    constructor
    · intro h
      have hnext : (sum + v).isFinite = true := isFinite_foldl_add h
      obtain ⟨-, hv, hlt⟩ := isFinite_add.mp hnext
      exact ⟨hv, hlt, (ih hnext).mp h⟩
    · rintro ⟨hv, hlt, hrest⟩
      exact (ih (isFinite_add.mpr ⟨hsum, hv, hlt⟩)).mpr hrest

example : (finite 1 + finite (1 / 2 ^ 53) : Double) = finite 1 := by decide +kernel

example : (finite (17 * 10 ^ 307) + finite (17 * 10 ^ 307) : Double) = infinite false := by
  decide +kernel

end Double

end GpuSidecar.Number
